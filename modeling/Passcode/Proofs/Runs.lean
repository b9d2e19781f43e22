import Mathlib.Data.List.Induction
import Passcode.Action

/-!
# Runs

A run carries out a list of inputs one after another; its trace has a step for each of
them, with the state before it, the answer, and the state after it. A failed step does not
end a run: what it left behind is where the next one starts.

What every step keeps holds at the end of a run (`invariant_final`). `Since P Q` speaks of a
trace as a history: something was brought about by a `P` step and no `Q` step came after it.
`holds_final_iff_of_invariant` is the one induction that histories need: if a single step
brings a fact about, keeps it or ends it, then the fact holds at the end of a run exactly if
the history says so.
-/

namespace Passcode.Run

variable {ι σ α ε : Type}

/-- A step of a run: what was to be done, the state before, the answer, the state after. -/
structure Step (ι σ α : Type) where
  input : ι
  before : σ
  answer : Except Failure α
  after : σ

def step (act : ι → Action σ α) (s : σ) (i : ι) : Step ι σ α :=
  ⟨i, s, ((act i).run s).1, (act i).after s⟩

def trace (act : ι → Action σ α) : σ → List ι → List (Step ι σ α)
  | _, [] => []
  | s, i :: rest => step act s i :: trace act ((act i).after s) rest

def final (act : ι → Action σ α) (s : σ) (is : List ι) : σ :=
  is.foldl (fun s i => (act i).after s) s

variable {act : ι → Action σ α}

theorem final_concat (s : σ) (is : List ι) (i : ι) :
    final act s (is ++ [i]) = (act i).after (final act s is) := by
  simp [final]

theorem final_append (s : σ) (is js : List ι) :
    final act s (is ++ js) = final act (final act s is) js := List.foldl_append

theorem trace_append (s : σ) (is js : List ι) :
    trace act s (is ++ js) = trace act s is ++ trace act (final act s is) js := by
  induction is generalizing s with
  | nil => rfl
  | cons i rest ih => exact congrArg (step act s i :: ·) (ih _)

theorem length_trace (s : σ) (is : List ι) : (trace act s is).length = is.length := by
  induction is generalizing s with
  | nil => rfl
  | cons i rest ih => exact congrArg (· + 1) (ih _)

/-- A trace in two parts is that of a run in two parts. -/
theorem exists_of_trace_eq_append {s : σ} {is : List ι} {earlier later : List (Step ι σ α)}
    (h : trace act s is = earlier ++ later) :
    ∃ is₁ is₂, is = is₁ ++ is₂ ∧ trace act s is₁ = earlier ∧
      trace act (final act s is₁) is₂ = later := by
  refine ⟨is.take earlier.length, is.drop earlier.length, (List.take_append_drop _ is).symm, ?_⟩
  have hlength : (trace act s (is.take earlier.length)).length = earlier.length := by
    have hle := congrArg List.length h
    rw [length_trace, List.length_append] at hle
    rw [length_trace, List.length_take]
    omega
  rw [← List.take_append_drop earlier.length is, trace_append] at h
  exact List.append_inj h hlength

/-- A step in the middle of a trace is that of an input in the middle of the run. -/
theorem exists_of_trace_eq_append_cons {s : σ} {is : List ι} {e : Step ι σ α}
    {earlier later : List (Step ι σ α)} (h : trace act s is = earlier ++ e :: later) :
    ∃ is₁ i is₂, trace act s is₁ = earlier ∧ e = step act (final act s is₁) i ∧
      trace act e.after is₂ = later := by
  obtain ⟨is₁, rest, -, hearlier, hrest⟩ := exists_of_trace_eq_append h
  cases rest with
  | nil => cases hrest
  | cons i is₂ =>
      obtain ⟨rfl, hlater⟩ := List.cons.inj hrest
      exact ⟨is₁, i, is₂, hearlier, rfl, hlater⟩

theorem exists_of_mem_trace {s : σ} {is : List ι} {e : Step ι σ α} (h : e ∈ trace act s is) :
    ∃ before i, e = step act (final act s before) i := by
  obtain ⟨earlier, later, htrace⟩ := List.append_of_mem h
  obtain ⟨before, i, _, -, he, -⟩ := exists_of_trace_eq_append_cons htrace
  exact ⟨before, i, he⟩

theorem trace_concat (s : σ) (is : List ι) (i : ι) :
    trace act s (is ++ [i]) = trace act s is ++ [step act (final act s is) i] :=
  trace_append s is [i]

/-! ## Histories -/

/-- Some step of a history is `P`, and none after it is `Q`. -/
def Since (P Q : ε → Prop) (h : List ε) : Prop :=
  ∃ earlier e later, h = earlier ++ e :: later ∧ P e ∧ ∀ e' ∈ later, ¬ Q e'

theorem not_since_nil {P Q : ε → Prop} : ¬ Since P Q [] := by
  rintro ⟨earlier, e, later, h, -, -⟩
  simp at h

theorem since_concat {P Q : ε → Prop} {h : List ε} {e : ε} :
    Since P Q (h ++ [e]) ↔ P e ∨ (Since P Q h ∧ ¬ Q e) := by
  constructor
  · rintro ⟨earlier, d, later, heq, hd, hlater⟩
    rcases List.eq_nil_or_concat later with rfl | ⟨later, e', rfl⟩
    · obtain ⟨-, hed⟩ := List.append_inj' heq rfl
      obtain rfl : e = d := List.singleton_inj.mp hed
      exact .inl hd
    · rw [List.concat_eq_append] at heq hlater
      rw [← List.cons_append, ← List.append_assoc] at heq
      obtain ⟨rfl, hed⟩ := List.append_inj' heq rfl
      obtain rfl : e = e' := List.singleton_inj.mp hed
      exact .inr ⟨⟨earlier, d, later, rfl, hd, fun x hx => hlater x (by simp [hx])⟩,
        hlater e (by simp)⟩
  · rintro (he | ⟨⟨earlier, d, later, rfl, hd, hlater⟩, he⟩)
    · exact ⟨h, e, [], rfl, he, by simp⟩
    · refine ⟨earlier, d, later ++ [e], by simp, hd, fun x hx => ?_⟩
      rcases List.mem_append.mp hx with hx | hx
      · exact hlater x hx
      · exact List.mem_singleton.mp hx ▸ he

/-- What each step keeps holds at the end of a run if it holds at the start. -/
theorem invariant_final {I : σ → Prop} {s : σ} (h₀ : I s)
    (hkeeps : ∀ t i, I t → I ((act i).after t)) (is : List ι) : I (final act s is) := by
  induction is using List.reverseRecOn with
  | nil => exact h₀
  | append_singleton is i ih => rw [final_concat]; exact hkeeps _ i ih

/-- What each step keeps holds after every step of a run if it holds at the start. -/
theorem forall_mem_trace_of_invariant {I : σ → Prop} {s : σ} (h₀ : I s)
    (hkeeps : ∀ t i, I t → I ((act i).after t)) (is : List ι) :
    ∀ e ∈ trace act s is, I e.before ∧ I e.after := by
  intro e he
  obtain ⟨before, i, rfl⟩ := exists_of_mem_trace he
  have hbefore := invariant_final h₀ hkeeps before
  exact ⟨hbefore, hkeeps _ i hbefore⟩

/-- What the steps of certain inputs keep holds before every step of a run of them, if it holds at
the start. -/
theorem forall_mem_trace_of_kept {I : σ → Prop} {K : ι → Prop}
    (hkeeps : ∀ t i, K i → I t → I ((act i).after t)) {s : σ} {is : List ι} (h₀ : I s)
    (hall : ∀ i ∈ is, K i) : ∀ e ∈ trace act s is, I e.before ∧ ∃ i, e = step act e.before i := by
  induction is generalizing s with
  | nil => exact nofun
  | cons i rest ih =>
      obtain ⟨hi, hrest⟩ := List.forall_mem_cons.mp hall
      exact List.forall_mem_cons.mpr ⟨⟨h₀, i, rfl⟩, ih (hkeeps s i hi h₀) hrest⟩

/-- What the steps of certain inputs keep holds at the end of a run of them. -/
theorem kept_final {I : σ → Prop} {K : ι → Prop}
    (hkeeps : ∀ t i, K i → I t → I ((act i).after t)) {s : σ} {is : List ι} (h₀ : I s)
    (hall : ∀ i ∈ is, K i) : I (final act s is) := by
  induction is generalizing s with
  | nil => exact h₀
  | cons i rest ih =>
      obtain ⟨hi, hrest⟩ := List.forall_mem_cons.mp hall
      exact ih (hkeeps s i hi h₀) hrest

/-- A fact that each step brings about, keeps or ends holds at the end of a run if and only
if some step brought it about and none has ended it since. What the steps keep may be used to
show what they do to the fact. -/
theorem holds_final_iff_of_invariant {I : σ → Prop} {P Q : Step ι σ α → Prop} {F : σ → Prop}
    {s : σ} (hI : I s) (hkeeps : ∀ t i, I t → I ((act i).after t)) (h₀ : ¬ F s)
    (hstep : ∀ t i, I t →
      (F (step act t i).after ↔ P (step act t i) ∨ (F t ∧ ¬ Q (step act t i))))
    (is : List ι) : F (final act s is) ↔ Since P Q (trace act s is) := by
  induction is using List.reverseRecOn with
  | nil => exact iff_of_false h₀ not_since_nil
  | append_singleton is i ih =>
      rw [final_concat, trace_concat, since_concat, ← ih,
        ← hstep _ i (invariant_final hI hkeeps is)]
      rfl

/-- A fact that each step brings about, keeps or ends holds at the end of a run if and only
if some step brought it about and none has ended it since. -/
theorem holds_final_iff {P Q : Step ι σ α → Prop} {F : σ → Prop} {s : σ} (h₀ : ¬ F s)
    (hstep : ∀ t i, F (step act t i).after ↔ P (step act t i) ∨ (F t ∧ ¬ Q (step act t i)))
    (is : List ι) : F (final act s is) ↔ Since P Q (trace act s is) :=
  holds_final_iff_of_invariant (I := fun _ => True) trivial (fun _ _ _ => trivial) h₀
    (fun t i _ => hstep t i) is

end Passcode.Run
