import Mathlib.Probability.Distributions.Uniform
import Passcode.Proofs.Calls
import Passcode.Proofs.Issuing

/-!
# Codes and the numbers they are drawn from

A code spells out the numbers drawn for it. No alphabet has a character twice, so different
numbers below its size spell different codes, and every text of the right length is spelled by
some numbers (`Alphabet.bijective_word`): if the numbers are equally likely, so are the codes.

Over a run of calls no number is used twice. A call takes as many as the code it asks for has
characters, right after those of the calls before it, and this also if the record is then not
taken in (`Keeper.draws_after_ask`); a call that is refused for its length or its timeout takes
none.
-/

namespace Passcode

open Passcode.Action Run

/-! ## One code -/

namespace Alphabet

variable {a : Alphabet} {n : Nat}

theorem nodup_chars (a : Alphabet) : a.chars.Nodup := by cases a <;> decide +kernel

instance : NeZero a.chars.length := ⟨a.length_chars_pos.ne'⟩

/-- A number below the size of the alphabet picks the character in that place. -/
theorem pick_natCast (i : Fin a.chars.length) : a.pick (i : Nat) = a.chars.get i := by
  unfold pick
  congr 1
  apply Fin.ext
  have hmod : ((i : Nat) : Int) % (a.chars.length : Int) = ((i : Nat) : Int) :=
    Int.emod_eq_of_lt (by omega) (by omega)
  simp only [hmod, Int.toNat_natCast]

/-- The texts of a length over an alphabet. -/
def Word (a : Alphabet) (n : Nat) : Type :=
  {s : String // s.toList.length = n ∧ ∀ c ∈ s.toList, c ∈ a.chars}

end Alphabet

namespace Draws

variable {a : Alphabet} {n : Nat}

theorem toList_code (d : Draws) (a : Alphabet) (n : Nat) :
    (d.code a n).toList = (List.range n).map fun i => a.pick (d.source (d.taken + i)) := by
  rw [code, String.toList_ofList, codeChars]

/-- A text that the next numbers spell: so many characters, each picked by the number in its
place and by no other. -/
def Spells (d : Draws) (a : Alphabet) (n : Nat) (s : String) : Prop :=
  s.toList.length = n ∧ ∀ i < n, s.toList[i]? = some (a.pick (d.source (d.taken + i)))

theorem spells_code (d : Draws) (a : Alphabet) (n : Nat) : d.Spells a n (d.code a n) := by
  unfold Spells
  rw [toList_code]
  exact ⟨by simp, fun i hi => by simp [hi]⟩

def opening {m : Nat} (f : Fin n → Fin m) : Draws :=
  ⟨fun k => if h : k < n then ((f ⟨k, h⟩ : Nat) : Int) else 0, 0⟩

theorem toList_code_opening (f : Fin n → Fin a.chars.length) :
    ((opening f).code a n).toList = List.ofFn fun i => a.chars.get (f i) := by
  rw [toList_code]
  apply List.ext_getElem
  · simp
  · intro i hi _
    have hlt : i < n := by simpa using hi
    have hsource : (opening f).source ((opening f).taken + i) = ((f ⟨i, hlt⟩ : Nat) : Int) := by
      simp [opening, hlt]
    rw [List.getElem_map, List.getElem_range, hsource, Alphabet.pick_natCast, List.getElem_ofFn]

end Draws

namespace Alphabet

variable {a : Alphabet} {n : Nat}

/-- The code that is spelled by numbers below the size of the alphabet. -/
def word (a : Alphabet) (f : Fin n → Fin a.chars.length) : a.Word n :=
  ⟨(Draws.opening f).code a n, by
    rw [Draws.toList_code_opening]
    refine ⟨List.length_ofFn, fun c hc => ?_⟩
    obtain ⟨i, rfl⟩ := (List.mem_ofFn' _ _).mp hc
    exact List.get_mem ..⟩

/-- Different numbers spell different codes. -/
theorem injective_word : Function.Injective (a.word : (Fin n → _) → a.Word n) := by
  intro f g h
  have hchars := congrArg (fun s : a.Word n => s.1.toList) h
  simp only [word, Draws.toList_code_opening] at hchars
  funext i
  exact a.nodup_chars.injective_get (congrFun (List.ofFn_injective hchars) i)

/-- Every text over the alphabet is spelled by some numbers. -/
theorem surjective_word : Function.Surjective (a.word : (Fin n → _) → a.Word n) := by
  rintro ⟨s, rfl, hmem⟩
  have hplace : ∀ i : Fin s.toList.length, ∃ j, a.chars.get j = s.toList.get i :=
    fun i => List.get_of_mem (hmem _ (List.get_mem ..))
  choose f hf using hplace
  refine ⟨f, Subtype.ext (String.toList_inj.mp ?_)⟩
  have hspelled : ((a.word f).1).toList = List.ofFn fun i => a.chars.get (f i) :=
    Draws.toList_code_opening f
  rw [hspelled]
  simp only [hf]
  exact List.ofFn_get _

/-- The numbers below the size of an alphabet, and the codes over it, are in one-to-one
correspondence. -/
theorem bijective_word : Function.Bijective (a.word : (Fin n → _) → a.Word n) :=
  ⟨injective_word, surjective_word⟩

/-- Where all numbers are equally likely, so are all codes. -/
theorem map_word_uniform (s : a.Word n) :
    (PMF.uniformOfFintype (Fin n → Fin a.chars.length)).map a.word s =
      ((a.chars.length : ENNReal) ^ n)⁻¹ := by
  obtain ⟨f, rfl⟩ := surjective_word s
  rw [PMF.map_apply, tsum_eq_single f]
  · simp
  · intro g hg
    exact if_neg fun h => hg (injective_word h).symm

end Alphabet

/-! ## Codes one after another -/

namespace Keeper

/-- What draws can be taken by: a code that is asked for alone, or a call of a keeper. -/
inductive Ask where
  | code (length : Int) (alphabet : Alphabet)
  | call (c : Call)

namespace Ask

def perform : Ask → Action Keeper (String ⊕ Reply)
  | code length alphabet => .inl <$> inWorld (World.drawCode length alphabet)
  | call c => .inr <$> c.perform

/-- How many numbers are due: as many as the code has characters. -/
def due : Ask → Nat
  | code length _ => length.toNat
  | call (.order (.generate _ length timeout _)) => if timeout < 1 then 0 else length.toNat
  | call _ => 0

end Ask

variable {k : Keeper}

theorem draws_after_generate (k : Keeper) (id : String) (length timeout : Int)
    (alphabet : Alphabet) : ((generate id length timeout alphabet).after k).world.draws =
      k.world.draws.skip (if timeout < 1 then 0 else length.toNat) := by
  unfold after
  rw [run_generate]
  by_cases htimeout : timeout < 1
  · rw [if_pos htimeout, if_pos htimeout]
    rfl
  rw [if_neg htimeout, if_neg htimeout]
  by_cases hlength : length < 1
  · have hnone : length.toNat = 0 := by omega
    rw [if_pos hlength, hnone]
    rfl
  rw [if_neg hlength]
  -- the code is drawn before anything else can fail
  cases k.world.reading? with
  | none => rfl
  | some now =>
      dsimp only
      cases now.addMicros? (timeout * 1000000) with
      | none => rfl
      | some t =>
          dsimp only
          cases k.store.put id _ <;> rfl

theorem draws_after_check (k : Keeper) (id : String) (c : Option Glyphs) :
    ((check id c).after k).world.draws = k.world.draws := by
  cases h : k.world.reading? with
  | none => rw [after, run_check_of_silence h]; rfl
  | some now => exact World.draws_eq_of_hush (ensures_check_of_reading h id c).2.2

theorem draws_after_sweep (k : Keeper) (duration : Float) :
    ((sweep duration).after k).world.draws = k.world.draws := by
  cases h : k.world.reading? with
  | none => rw [after, run_sweep_of_silence h]; rfl
  | some now => rw [after, run_sweep_of_reading h]; rfl

/-- Whatever is asked for takes the numbers that are due, and no others. -/
theorem draws_after_ask (x : Ask) (k : Keeper) :
    (x.perform.after k).world.draws = k.world.draws.skip x.due := by
  cases x with
  | code length alphabet =>
      rw [Ask.perform, after_map, after, run_inWorld]
      by_cases hlength : length < 1
      · have hnone : (Ask.code length alphabet).due = 0 := by simp only [Ask.due]; omega
        rw [World.run_drawCode_of_lt hlength, hnone]
        rfl
      · rw [World.run_drawCode_of_not_lt hlength]
        rfl
  | call c =>
      rw [Ask.perform, after_map]
      cases c with
      | order o =>
          rw [Call.perform, after_map]
          cases o with
          | generate id length timeout alphabet =>
              rw [Order.perform, after_map]
              exact draws_after_generate k id length timeout alphabet
          | put id r =>
              rw [Order.perform, after_map, after, run_put]
              cases k.store.put id r <;> rfl
          | check id c => rw [Order.perform, after_map]; exact draws_after_check k id c
          | invalidate id => rw [Order.perform, after_map, after, run_invalidate]; rfl
          | discard id r => rw [Order.perform, after_map, after, run_discard]; rfl
          | sweep duration => rw [Order.perform, after_map]; exact draws_after_sweep k duration
          | shutdown => rw [Order.perform, after_map, after, run_shutdown]; rfl
          | setClock now failures => rfl
      | consume id c =>
          rw [Call.perform, after_map, after, run_consume]
          exact draws_after_check k id c
      | start =>
          rw [Call.perform, after_map]
          exact World.draws_eq_of_hush (ensures_start k).2.2
      | cycle duration =>
          have hsweep := draws_after_sweep k duration
          rw [Call.perform, after_map, after, run_cycle]
          cases ((sweep duration).run k).1 <;> exact hsweep

/-- Over a run, the numbers taken are those that were due. -/
theorem draws_final (k : Keeper) (asks : List Ask) :
    (final Ask.perform k asks).world.draws = k.world.draws.skip (asks.map Ask.due).sum := by
  induction asks using List.reverseRecOn with
  | nil => rfl
  | append_singleton asks x ih =>
      rw [final_concat, draws_after_ask, ih]
      simp [Draws.skip, Nat.add_assoc]

theorem map_input_trace (k : Keeper) (asks : List Ask) :
    (trace Ask.perform k asks).map (·.input) = asks := by
  induction asks generalizing k with
  | nil => rfl
  | cons x asks ih => exact congrArg (x :: ·) (ih _)

/-- How a step deals with the draws `d` that it finds. It takes the numbers that are due; a code
it answers with is spelled by them; and if the length or the timeout is below one, it fails and
takes none. -/
structure Fresh (d : Draws) (e : Step Ask Keeper (String ⊕ Reply)) : Prop where
  before : e.before.world.draws = d
  after : e.after.world.draws = d.skip e.input.due
  code : ∀ length a, e.input = .code length a → 1 ≤ length →
    ∃ s, e.answer = .ok (.inl s) ∧ d.Spells a length.toNat s
  issued : ∀ id length timeout a x, e.input = .call (.order (.generate id length timeout a)) →
    e.answer = .ok (.inr (.answer (.issued x))) → d.Spells a length.toNat x.record.code
  codeRefused : ∀ length a, e.input = .code length a → length < 1 →
    e.answer = .error (.misuse .lengthBelowOne) ∧ e.after.world.draws = d
  issueRefused : ∀ id length timeout a,
    e.input = .call (.order (.generate id length timeout a)) → timeout < 1 ∨ length < 1 →
    e.answer = .error (.misuse (if timeout < 1 then .timeoutBelowOne else .lengthBelowOne)) ∧
      e.after.world.draws = d

/-- The answer to the request for a record, in terms of what the keeper answers. -/
theorem answer_ask_generate (k : Keeper) (id : String) (length timeout : Int) (a : Alphabet) :
    ((Ask.call (.order (.generate id length timeout a))).perform.run k).1 =
      ((generate id length timeout a).run k).1.map fun x => .inr (.answer (.issued x)) := by
  rw [Ask.perform, run_map, Call.perform, run_map, Order.perform, run_map]
  cases ((generate id length timeout a).run k).1 <;> rfl

theorem spells_of_issued {id : String} {length timeout : Int} {a : Alphabet} {x : Issued}
    (h : ((generate id length timeout a).run k).1 = .ok x) :
    k.world.draws.Spells a length.toNat x.record.code := by
  rw [code_of_issued h]
  exact Draws.spells_code ..

/-- Every step is fresh. -/
theorem fresh_step (k : Keeper) (x : Ask) : Fresh k.world.draws (step Ask.perform k x) where
  before := rfl
  after := draws_after_ask x k
  code := by
    rintro length a (rfl : x = _) hlength
    refine ⟨_, ?_, Draws.spells_code ..⟩
    change ((Ask.code length a).perform.run k).1 = _
    rw [Ask.perform, run_map, run_inWorld, World.run_drawCode_of_not_lt (by omega)]
    rfl
  issued := by
    rintro id length timeout a r (rfl : x = _) hanswer
    have hmapped : _ = Except.ok _ := (answer_ask_generate k id length timeout a).symm.trans hanswer
    cases hrun : ((generate id length timeout a).run k).1 with
    | error e => rw [hrun] at hmapped; cases hmapped
    | ok y =>
        rw [hrun] at hmapped
        obtain rfl : y = r := by simpa [Except.map] using hmapped
        exact spells_of_issued hrun
  codeRefused := by
    rintro length a (rfl : x = _) hlength
    constructor
    · change ((Ask.code length a).perform.run k).1 = _
      rw [Ask.perform, run_map, run_inWorld, World.run_drawCode_of_lt hlength]
      rfl
    · have hnone : (Ask.code length a).due = 0 := by simp only [Ask.due]; omega
      exact (draws_after_ask _ k).trans (by rw [hnone]; rfl)
  issueRefused := by
    rintro id length timeout a (rfl : x = _) hbelow
    constructor
    · refine (answer_ask_generate k id length timeout a).trans ?_
      rw [answer_generate]
      by_cases htimeout : timeout < 1
      · rw [if_pos htimeout, if_pos htimeout]
        rfl
      · rw [if_neg htimeout, if_neg htimeout, if_pos (hbelow.resolve_left htimeout)]
        rfl
    · have hnone : (Ask.call (.order (.generate id length timeout a))).due = 0 := by
        simp only [Ask.due]
        split_ifs <;> omega
      exact (draws_after_ask _ k).trans (by rw [hnone]; rfl)

/-- A step of a run finds the draws as the steps before it left them, each of which took what
was due. -/
theorem fresh_of_trace {asks : List Ask} {earlier later : List (Step Ask Keeper (String ⊕ Reply))}
    {e : Step Ask Keeper (String ⊕ Reply)}
    (h : trace Ask.perform k asks = earlier ++ e :: later) :
    Fresh (k.world.draws.skip (earlier.map (·.input.due)).sum) e := by
  obtain ⟨before, x, _, rfl, rfl, -⟩ := exists_of_trace_eq_append_cons h
  have hdue : (trace Ask.perform k before).map (·.input.due) = before.map Ask.due := by
    rw [← map_input_trace k before, List.map_map, map_input_trace]
    rfl
  rw [hdue, ← draws_final]
  exact fresh_step _ x

/-- Codes are uniform, and no number is drawn for two of them. The numbers below the size of an
alphabet and the codes over it are in one-to-one correspondence, so that equally likely numbers
make equally likely codes. Over a run, every code is spelled by a block of its own: the block
begins where that of the call before ended, it is as long as the code, and a call that is refused
for its length or its timeout has an empty one. -/
theorem codes_have_draws_of_their_own :
    (∀ (a : Alphabet) (n : Nat),
      Function.Bijective (a.word : (Fin n → Fin a.chars.length) → a.Word n) ∧
      ∀ s : a.Word n, (PMF.uniformOfFintype (Fin n → Fin a.chars.length)).map a.word s =
        ((a.chars.length : ENNReal) ^ n)⁻¹) ∧
    ∀ (k : Keeper) (asks : List Ask) (earlier later : List (Step Ask Keeper (String ⊕ Reply)))
      (e : Step Ask Keeper (String ⊕ Reply)),
      trace Ask.perform k asks = earlier ++ e :: later →
      Fresh (k.world.draws.skip (earlier.map (·.input.due)).sum) e ∧
      ∀ d ∈ earlier, d.before.world.draws.taken + d.input.due ≤ e.before.world.draws.taken := by
  refine ⟨fun a n => ⟨a.bijective_word, a.map_word_uniform⟩, fun k asks earlier later e h => ?_⟩
  have hfresh := fresh_of_trace h
  refine ⟨hfresh, fun d hd => ?_⟩
  -- an earlier step stands in the middle of the same trace
  obtain ⟨first, middle, rfl⟩ := List.append_of_mem hd
  have hsplit : trace Ask.perform k asks = first ++ d :: (middle ++ e :: later) := by
    rw [h, List.append_assoc, List.cons_append]
  rw [(fresh_of_trace hsplit).before, hfresh.before]
  simp only [Draws.skip, List.map_append, List.map_cons, List.sum_append, List.sum_cons]
  omega

/-- Two numbers go into a code, none into one for no time at all, three into one that a closed
store does not take, and none into one without characters: the next code is spelled by the
numbers after those five. -/
theorem block_after_refused_codes :
    ∃ (k : Keeper) (asks : List Ask) (e : Step Ask Keeper (String ⊕ Reply)),
      k = ⟨{ now := ⟨0, by decide⟩, draws := ⟨fun n => n, 0⟩ },
        { closed := true, sweeper := ⟨"otp-session-sweep", .int 60, [], none⟩ }⟩ ∧
      asks = [.code 2 .numeric, .call (.order (.generate "ada" 6 0 .numeric)),
        .call (.order (.generate "ada" 3 300 .alpha)), .code 0 .all] ∧
      e = step Ask.perform (final Ask.perform k asks) (.code 4 .alphanumeric) ∧
      e.before.world.draws.taken = 5 ∧ e.after.world.draws.taken = 9 ∧
      ∃ s, e.answer = .ok (.inl s) ∧ s.toList[0]? = some '5' ∧ s.toList[3]? = some '8' := by
  have hfresh : ∀ (k : Keeper) (asks : List Ask) (x : Ask),
      Fresh (k.world.draws.skip ((trace Ask.perform k asks).map (·.input.due)).sum)
        (step Ask.perform (final Ask.perform k asks) x) := fun k asks x =>
    (codes_have_draws_of_their_own.2 k _ _ [] _ (trace_concat k asks x)).1
  refine ⟨_, _, _, rfl, rfl, rfl, congrArg Draws.taken (hfresh _ _ _).before,
    congrArg Draws.taken (hfresh _ _ _).after, ?_⟩
  refine ((hfresh _ _ _).code 4 .alphanumeric rfl (by decide)).imp fun s h => ⟨h.1, ?_, ?_⟩
  · exact h.2.2 0 (by decide)
  · exact h.2.2 3 (by decide)

end Keeper

end Passcode
