import Passcode.Proofs.Attempts
import Passcode.Proofs.Issuing

/-!
# Watching couriers

A gate can be watched: whenever a courier is reached, a note is made of what the courier is
handed and of the gate at that moment. The notes stand beside what the couriers act on
(`annotated`, `annotating`), where nothing reads them, so an attempt goes as it goes without
them (`coupled_annotating_verify`). An attempt makes one note at most, and `notes_cases` says
when it makes one and of what.
-/

namespace Passcode.Gate

open Passcode.Action

variable {κ ω ν : Type}

/-! ## Notes change nothing -/

/-- A gate with a list of notes beside what its couriers act on. -/
def annotated (g : Gate κ ω) (notes : List ν) : Gate κ (List ν × ω) :=
  { g with outside := (notes, g.outside) }

def unannotated (g : Gate κ (List ν × ω)) : Gate κ ω := { g with outside := g.outside.2 }

/-- Couriers of which a note is made, after those already there, before they do anything. -/
def annotating (note : κ → List String → Issued → Gate κ ω → ν) (deliver : Deliver κ ω) :
    Deliver κ (List ν × ω) := fun courier recipients r => do
  modify fun g => g.unannotated.annotated
    (g.outside.1 ++ [note courier recipients r g.unannotated])
  (deliver courier recipients r).on unannotated fun g h => h.annotated g.outside.1

variable {note : κ → List String → Issued → Gate κ ω → ν} {deliver : Deliver κ ω}
  {p : Principal} {response : Option Glyphs}

theorem run_annotating (note : κ → List String → Issued → Gate κ ω → ν) (deliver : Deliver κ ω)
    (courier : κ) (recipients : List String) (r : Issued) (g : Gate κ (List ν × ω)) :
    (annotating note deliver courier recipients r).run g =
      (((deliver courier recipients r).run g.unannotated).1,
        ((deliver courier recipients r).run g.unannotated).2.annotated
          (g.outside.1 ++ [note courier recipients r g.unannotated])) := rfl

/-- A gate and the same gate with notes. -/
def Annotates (g : Gate κ (List ν × ω)) (h : Gate κ ω) : Prop := g.unannotated = h

theorem deaf_annotates : Deaf (@Annotates κ ω ν) where
  told es h := congrArg (told · es) h
  metered f h := congrArg (metered · f) h

theorem coupled_annotates_inKeeper {α : Type} (a : Action Keeper α) :
    Coupled (@Annotates κ ω ν) (inKeeper a) (inKeeper a)
      (fun x y g h => x = y ∧ Annotates g h) Annotates := by
  rintro g _ rfl
  rw [run_inKeeper, run_inKeeper]
  have hkeeper : g.unannotated.keeper = g.keeper := rfl
  rw [hkeeper]
  rcases a.run g.keeper with ⟨e | x, k⟩
  · exact .error rfl
  · exact .ok ⟨rfl, rfl⟩

theorem coupled_annotating_sendOut (note : κ → List String → Issued → Gate κ ω → ν)
    (deliver : Deliver κ ω) (c : Channel) (p : Principal) (r : Issued) :
    Coupled Annotates (sendOut (annotating note deliver) c p r) (sendOut deliver c p r)
      (fun o o' g h => o = o' ∧ Annotates g h) Annotates := by
  refine coupled_sendOut rfl deaf_annotates (fun _ _ hgh => hgh)
    (coupled_dispatch (fun _ _ hgh => hgh ▸ rfl) deaf_annotates (fun _ _ hgh => hgh) ?_)
    ((coupled_annotates_inKeeper _).imp (fun _ _ hgh => hgh) (fun _ _ _ _ hgh => hgh.2)
      fun _ _ hgh => hgh)
  rintro courier g _ rfl
  rw [run_annotating]
  rcases (deliver courier (p.recipients c) r).run g.unannotated with ⟨e | receipt, h⟩
  · exact .error rfl
  · exact .ok rfl

/-- An attempt at a gate with notes ends as it does at the gate itself, and leaves the same gate
behind. -/
theorem coupled_annotating_verify (note : κ → List String → Issued → Gate κ ω → ν)
    (deliver : Deliver κ ω) (p : Principal) (response : Option Glyphs) :
    Coupled Annotates (verify (annotating note deliver) p response) (verify deliver p response)
      (fun o o' g h => o = o' ∧ Annotates g h) Annotates := by
  refine coupled_verify response (fun _ _ hgh => hgh ▸ ⟨rfl, rfl⟩) (fun _ _ hgh => hgh)
    deaf_annotates deaf_annotates (fun _ => rfl) (fun terms => ?_) (fun code => ?_)
    fun o o' hoo' => ?_
  · refine (coupled_annotates_inKeeper _).bind fun x y g h hxy => ?_
    obtain ⟨rfl, hgh⟩ := hxy
    exact coupled_annotating_sendOut note deliver _ p x hgh
  · refine (coupled_annotates_inKeeper _).bind fun x y => ?_
    exact coupled_pure fun g h hxy => ⟨hxy.1 ▸ rfl, hxy.2⟩
  · subst hoo'
    rintro g _ rfl
    exact .ok ⟨rfl, rfl⟩

theorem run_annotating_verify (note : κ → List String → Issued → Gate κ ω → ν)
    (deliver : Deliver κ ω) (p : Principal) (response : Option Glyphs) (g : Gate κ ω)
    (notes : List ν) :
    ((verify (annotating note deliver) p response).run (g.annotated notes)).1 =
        ((verify deliver p response).run g).1 ∧
      ((verify (annotating note deliver) p response).after (g.annotated notes)).unannotated =
        (verify deliver p response).after g := by
  have hsame : Annotates (g.annotated notes) g := rfl
  have hp := coupled_annotating_verify note deliver p response hsame
  unfold after
  generalize (verify (annotating note deliver) p response).run (g.annotated notes) = u,
    (verify deliver p response).run g = v at hp ⊢
  cases hp with
  | ok h => exact ⟨congrArg Except.ok h.1, h.2⟩
  | error h => exact ⟨rfl, h⟩

/-! ## Which notes are made -/

def notes (note : κ → List String → Issued → Gate κ ω → ν) (deliver : Deliver κ ω)
    (p : Principal) (response : Option Glyphs) (g : Gate κ ω) : List ν :=
  ((verify (annotating note deliver) p response).after (g.annotated [])).outside.1

/-- What is done after a dispatch does not reach the couriers. -/
theorem outside_after_sendOut (deliver : Deliver κ ω) (c : Channel) (p : Principal) (r : Issued)
    (g : Gate κ ω) : ((sendOut deliver c p r).after g).outside =
      ((dispatch deliver c p r).after g).outside := by
  obtain ⟨d, h, hdispatch, hcases⟩ := ensures_sendOut deliver c p r g
  have hafter : (dispatch deliver c p r).after g = h := congrArg Prod.snd hdispatch
  rw [hafter]
  obtain ⟨-, -, -, -, -, hhush⟩ | ⟨-, -, -, -, hout⟩ | ⟨-, -, -, hsame, -⟩ := hcases
  · exact outside_eq_of_hush hhush
  · exact hout
  · exact congrArg Gate.outside hsame

theorem notes_after_sendOut (note : κ → List String → Issued → Gate κ ω → ν)
    (deliver : Deliver κ ω) (c : Channel) (p : Principal) (r : Issued) (g : Gate κ ω)
    (notes : List ν) :
    ((sendOut (annotating note deliver) c p r).after (g.annotated notes)).outside.1 = notes ++
      ((g.routes.find? c).map fun courier => note courier (p.recipients c) r
        (g.told [.dispatching p.identifier c (p.recipients c).length])).toList := by
  have hroutes : (g.annotated notes).routes = g.routes := rfl
  rw [outside_after_sendOut, after, run_dispatch, Routes.courier, hroutes]
  cases g.routes.find? c with
  | none => exact (List.append_nil _).symm
  | some courier => rfl

/-- A challenge that issues a record on a channel with a courier makes the one note of an
attempt, at a gate that has just taken the record in. Nothing else makes a note. -/
theorem notes_cases (note : κ → List String → Issued → Gate κ ω → ν) (deliver : Deliver κ ω)
    (p : Principal) (response : Option Glyphs) (g : Gate κ ω) :
    (∃ terms x courier b h, g.plan p response = .issue terms ∧
        ((Keeper.generate p.identifier terms.length terms.timeout terms.alphabet).run
          g.keeper).1 = .ok x ∧
        g.routes.find? terms.channel = some courier ∧
        g.keeper.store.put p.identifier x = .ok (b, h.keeper.store) ∧
        notes note deliver p response g = [note courier (p.recipients terms.channel) x h]) ∨
      (notes note deliver p response g = [] ∧ ∀ terms x, g.plan p response = .issue terms →
        ((Keeper.generate p.identifier terms.length terms.timeout terms.alphabet).run
          g.keeper).1 = .ok x → g.routes.find? terms.channel = none) := by
  obtain ⟨es, -, hhush⟩ := ensures_verify (annotating note deliver) p response (g.annotated [])
  have hnotes : notes note deliver p response g = (((g.plan p response).perform
      (annotating note deliver) p).after ((g.annotated []).told es)).outside.1 :=
    congrArg Prod.fst (outside_eq_of_hush hhush)
  rw [hnotes]
  cases hplan : g.plan p response with
  | fail e => exact .inr ⟨rfl, nofun⟩
  | pass b => exact .inr ⟨rfl, nofun⟩
  | turnAway c => exact .inr ⟨rfl, nofun⟩
  | check code =>
      refine .inr ⟨?_, nofun⟩
      cases hnow : ((g.annotated ([] : List ν)).told es).keeper.world.reading? with
      | none => exact congrArg Prod.fst (ensures_respond_of_silence hnow p code).2.2
      | some now => exact congrArg Prod.fst (ensures_respond_of_reading hnow p code).2.2
  | issue terms =>
      have hanswer := Keeper.answer_generate_told g.keeper es p.identifier terms.length
        terms.timeout terms.alphabet
      have hput := Keeper.ensures_generate (g.keeper.told es) p.identifier terms.length
        terms.timeout terms.alphabet
      have hkeeper : ((g.annotated ([] : List ν)).told es).keeper = g.keeper.told es := rfl
      unfold after Plan.perform
      rw [run_bind, run_inKeeper, hkeeper]
      unfold Ensures at hput
      generalize (Keeper.generate p.identifier terms.length terms.timeout terms.alphabet).run
        (g.keeper.told es) = issued at hanswer hput ⊢
      obtain ⟨e | x, k⟩ := issued
      · refine .inr ⟨rfl, fun terms' x hterms hx => ?_⟩
        obtain rfl := Plan.issue.inj hterms
        cases hanswer.trans hx
      · obtain ⟨x', b, hx, hput⟩ | ⟨e, he, -⟩ := hput
        · obtain rfl := Except.ok.inj hx
          have hsend := notes_after_sendOut note deliver terms.channel p x
            { g with keeper := k } []
          have hroutes : ({ g with keeper := k } : Gate κ ω).routes = g.routes := rfl
          rw [hroutes] at hsend
          cases hcourier : g.routes.find? terms.channel with
          | none =>
              rw [hcourier] at hsend
              exact .inr ⟨hsend, fun terms' x' hterms _ => Plan.issue.inj hterms ▸ hcourier⟩
          | some courier =>
              rw [hcourier] at hsend
              exact .inl ⟨terms, x, courier, b, ({ g with keeper := k } : Gate κ ω).told _, rfl,
                hanswer.symm, hcourier, hput, hsend⟩
        · cases he

end Passcode.Gate
