import Passcode.Proofs.Runs
import Passcode.Timer

/-!
# One worker at a time

Starts, cancels, ticks and cycles may come in any order, and cycles may fail. A worker is live if
its loop has not ended and its flag is down; the task then holds it, so there is one at most
(`Sound`). A flag that was raised stays up and a loop that has ended stays so, so a worker that was
cancelled begins no further cycle, whoever cancelled it and whatever is started after it
(`Retired`). A worker that the task holds may have ended all the same, but only if it could not wait
as long as the interval is. What follows for every run is collected in `WellRun` (`one_live_loop`).
-/

namespace Passcode

namespace Periodic

variable {p : Periodic} {i j : Nat}

/-- Whether a worker of the task is alive and its flag is down. -/
def isLive (p : Periodic) (i : Nat) : Bool := p.isAlive i && p.isUnflagged i

theorem isLive_iff : p.isLive i = true ↔ p.isAlive i = true ∧ p.isUnflagged i = true :=
  Bool.and_eq_true_iff

theorem isAlive_iff : p.isAlive i = true ↔ ∃ phase, p.phase? i = some phase ∧ phase ≠ .ended := by
  rw [isAlive]
  cases p.phase? i <;> simp

theorem isAlive_of_phase? {phase : Phase} (h : p.phase? i = some phase) (hne : phase ≠ .ended) :
    p.isAlive i = true :=
  isAlive_iff.mpr ⟨phase, h, hne⟩

theorem lt_length_of_isUnflagged (h : p.isUnflagged i = true) : i < p.workers.length := by
  rw [isUnflagged] at h
  cases hw : p.workers[i]? with
  | none =>
      rw [hw] at h
      cases h
  | some w => exact (List.getElem?_eq_some_iff.mp hw).1

theorem isRunning_iff : p.isRunning = true ↔ ∃ i, p.held = some i ∧ p.isAlive i = true := by
  rw [isRunning]
  cases p.held <;> simp

/-! ## Starting -/

theorem start_of_running (h : p.isRunning = true) : p.start = (p, []) := if_pos h

theorem start_of_idle (h : p.isRunning = false) : p.start =
    ({ p with workers := p.workers ++ [{}], held := some p.workers.length },
      [.taskStarted p.name p.interval]) :=
  if_neg (by rw [h]; exact Bool.false_ne_true)

/-- The worker that a start gives stands behind the others, which stay as they are. -/
theorem getElem?_workers_start (h : p.isRunning = false) (j : Nat) :
    p.start.1.workers[j]? = if j = p.workers.length then some {} else p.workers[j]? := by
  rw [start_of_idle h, List.getElem?_append]
  rcases Nat.lt_trichotomy j p.workers.length with hlt | rfl | hgt
  · rw [if_pos hlt, if_neg (Nat.ne_of_lt hlt)]
  · simp
  · rw [if_neg (Nat.not_lt_of_gt hgt), if_neg (Nat.ne_of_gt hgt),
      List.getElem?_eq_none (by simp; omega), List.getElem?_eq_none (Nat.le_of_lt hgt)]

theorem phase?_start_of_idle (h : p.isRunning = false) (j : Nat) :
    p.start.1.phase? j = if j = p.workers.length then some .waiting else p.phase? j := by
  rw [phase?, getElem?_workers_start h]
  split <;> rfl

theorem isUnflagged_start_of_idle (h : p.isRunning = false) (j : Nat) :
    p.start.1.isUnflagged j = true ↔ j = p.workers.length ∨ p.isUnflagged j = true := by
  rw [isUnflagged, getElem?_workers_start h]
  split
  · next hj => simp [hj]
  · next hj => simp [hj, isUnflagged]

theorem isLive_start_of_idle (h : p.isRunning = false) (hlive : p.start.1.isLive j = true) :
    j = p.workers.length ∨ p.isLive j = true := by
  obtain ⟨halive, hflag⟩ := isLive_iff.mp hlive
  refine ((isUnflagged_start_of_idle h j).mp hflag).imp_right fun hold => ?_
  have hj : j ≠ p.workers.length := Nat.ne_of_lt (lt_length_of_isUnflagged hold)
  rw [isAlive, phase?_start_of_idle h, if_neg hj] at halive
  exact isLive_iff.mpr ⟨halive, hold⟩

theorem length_workers_le_start (p : Periodic) :
    p.workers.length ≤ p.start.1.workers.length := by
  unfold start
  split <;> simp

@[simp] theorem isOverlong_start (p : Periodic) : p.start.1.isOverlong = p.isOverlong := by
  unfold start
  split <;> rfl

/-! ## Cancelling -/

theorem cancel_of_held_none (h : p.held = none) : p.cancel = (p, []) := by
  rw [cancel, h]

theorem cancel_of_held (h : p.held = some i) : p.cancel =
    ({ p with workers := p.workers.modify i fun w => { w with stopped := true }, held := none },
      [.taskCancelled p.name]) := by
  rw [cancel, h]

@[simp] theorem held_cancel (p : Periodic) : p.cancel.1.held = none := by
  cases hheld : p.held with
  | none => rw [cancel_of_held_none hheld, hheld]
  | some i => rw [cancel_of_held hheld]

@[simp] theorem phase?_cancel (p : Periodic) (j : Nat) : p.cancel.1.phase? j = p.phase? j := by
  cases hheld : p.held with
  | none => rw [cancel_of_held_none hheld]
  | some i =>
      rw [cancel_of_held hheld, phase?, phase?, List.getElem?_modify]
      split <;> cases p.workers[j]? <;> rfl

/-- Cancelling raises the flag of the worker that the task holds and of no other. -/
theorem isUnflagged_cancel (j : Nat) : p.cancel.1.isUnflagged j = true ↔
    p.isUnflagged j = true ∧ p.held ≠ some j := by
  cases hheld : p.held with
  | none => simp [cancel_of_held_none hheld]
  | some i =>
      rw [cancel_of_held hheld, isUnflagged, isUnflagged, List.getElem?_modify]
      by_cases hij : i = j
      · cases p.workers[j]? <;> simp [hij]
      · cases p.workers[j]? <;> simp [hij]

theorem isLive_cancel (j : Nat) : p.cancel.1.isLive j = true ↔
    p.isLive j = true ∧ p.held ≠ some j := by
  rw [isLive_iff, isLive_iff, isUnflagged_cancel, isAlive, isAlive, phase?_cancel, and_assoc]

@[simp] theorem length_workers_cancel (p : Periodic) :
    p.cancel.1.workers.length = p.workers.length := by
  unfold cancel
  split <;> simp

@[simp] theorem isOverlong_cancel (p : Periodic) : p.cancel.1.isOverlong = p.isOverlong := by
  unfold cancel
  split <;> rfl

/-! ## Workers in their loops -/

@[simp] theorem held_place (p : Periodic) (i : Nat) (phase : Phase) :
    (p.place i phase).held = p.held := rfl

@[simp] theorem length_workers_place (p : Periodic) (i : Nat) (phase : Phase) :
    (p.place i phase).workers.length = p.workers.length := List.length_modify ..

@[simp] theorem isOverlong_place (p : Periodic) (i : Nat) (phase : Phase) :
    (p.place i phase).isOverlong = p.isOverlong := rfl

@[simp] theorem isUnflagged_place (p : Periodic) (i : Nat) (phase : Phase) (j : Nat) :
    (p.place i phase).isUnflagged j = p.isUnflagged j := by
  rw [place, isUnflagged, isUnflagged, List.getElem?_modify]
  split <;> cases p.workers[j]? <;> rfl

theorem phase?_place_of_ne {phase : Phase} (h : j ≠ i) :
    (p.place i phase).phase? j = p.phase? j := by
  rw [place, phase?, phase?, List.getElem?_modify_ne _ _ h.symm]

theorem phase?_place_self {phase before : Phase} (h : p.phase? i = some before) :
    (p.place i phase).phase? i = some phase := by
  obtain ⟨w, hw, -⟩ := Option.map_eq_some_iff.mp h
  rw [place, phase?, List.getElem?_modify_eq, hw]
  rfl

/-- Whoever is alive after a worker that was alive has moved on was so before. -/
theorem isAlive_of_place {phase : Phase} (h : p.isAlive i = true)
    (hj : (p.place i phase).isAlive j = true) : p.isAlive j = true := by
  by_cases hij : j = i
  · rwa [hij]
  · rwa [isAlive, phase?_place_of_ne hij] at hj

/-- A worker has a tick if it waits: it begins a cycle, or its loop ends because its flag is up or
because the wait could not be asked for. -/
theorem tick_of_waiting (h : p.phase? i = some .waiting) : p.tick i =
    p.place i (if p.isUnflagged i && !p.isOverlong then .busy else .ended) := by
  obtain ⟨⟨stopped, phase⟩, hw, rfl⟩ := Option.map_eq_some_iff.mp h
  rw [tick, hw, isUnflagged, hw]
  cases stopped <;> cases p.isOverlong <;> rfl

theorem tick_of_not_waiting (h : p.phase? i ≠ some .waiting) : p.tick i = p := by
  rw [tick]
  split
  · next hw => exact absurd (by rw [phase?, hw]; rfl) h
  · rfl

theorem tick_of_live (hphase : p.phase? i = some .waiting) (hflag : p.isUnflagged i = true)
    (hshort : p.isOverlong = false) : p.tick i = p.place i .busy := by
  rw [tick_of_waiting hphase, hflag, hshort]
  rfl

end Periodic

namespace Timer

open Passcode.Action Run

variable {t : Timer} {i j : Nat}

/-! ## One moment -/

/-- What is reported of a cycle with this result. -/
def failures (t : Timer) : Except Failure Unit → List Event
  | .ok _ => []
  | .error _ => [.taskFailed t.task.name]

@[simp] theorem task_tell (t : Timer) (es : List Event) : (t.tell es).task = t.task := rfl

@[simp] theorem tell_nil (t : Timer) : t.tell [] = t := by
  rw [tell, List.append_nil]

@[simp] theorem task_move (p : Phase) : (t.move i p).task = t.task.place i p := rfl

@[simp] theorem task_change (f : Periodic → Periodic × List Event) :
    (t.change f).task = (f t.task).1 := rfl

theorem after_start (t : Timer) : Moment.start.pass.after t = t.change Periodic.start := rfl

theorem after_cancel (t : Timer) : Moment.cancel.pass.after t = t.change Periodic.cancel := rfl

theorem after_tick (t : Timer) (i : Nat) :
    (Moment.tick i).pass.after t = { t with task := t.task.tick i } := rfl

theorem run_cycle (t : Timer) (result : Except Failure Unit) :
    (cycle result).run t = (.ok (), t.tell (t.failures result)) := by
  cases result with
  | ok u =>
      rw [failures, tell_nil]
      rfl
  | error e => rfl

theorem after_finish_of_busy (h : t.task.phase? i = some .busy) (result : Except Failure Unit) :
    (Moment.finish i result).pass.after t = (t.move i .waiting).tell (t.failures result) := by
  rw [Moment.pass, after, run_bind, run_get]
  dsimp only
  rw [if_pos h, run_bind, run_cycle]
  rfl

theorem after_finish_of_ne_busy (h : t.task.phase? i ≠ some .busy) (result : Except Failure Unit) :
    (Moment.finish i result).pass.after t = t := by
  rw [Moment.pass, after, run_bind, run_get]
  dsimp only
  rw [if_neg h]
  rfl

theorem after_runOnce (t : Timer) (result : Except Failure Unit) :
    (Moment.runOnce result).pass.after t = t.tell (t.failures result) := by
  rw [Moment.pass, after, run_cycle]

/-- What a moment does to the task: it is started or cancelled, or a worker moves on in its loop, or
nothing happens to it. -/
theorem task_after_cases (t : Timer) (m : Moment) :
    (m = .start ∧ (m.pass.after t).task = t.task.start.1) ∨
    (m = .cancel ∧ (m.pass.after t).task = t.task.cancel.1) ∨
    (∃ i, m = .tick i ∧ t.task.phase? i = some .waiting ∧ (m.pass.after t).task = t.task.place i
      (if t.task.isUnflagged i && !t.task.isOverlong then .busy else .ended)) ∨
    (∃ i result, m = .finish i result ∧ t.task.phase? i = some .busy ∧
      (m.pass.after t).task = t.task.place i .waiting) ∨
    (m ≠ .start ∧ m ≠ .cancel ∧ (m.pass.after t).task = t.task) := by
  cases m with
  | start => exact .inl ⟨rfl, rfl⟩
  | cancel => exact .inr (.inl ⟨rfl, rfl⟩)
  | tick i =>
      by_cases h : t.task.phase? i = some .waiting
      · exact .inr (.inr (.inl ⟨i, rfl, h, Periodic.tick_of_waiting h⟩))
      · exact .inr (.inr (.inr (.inr ⟨nofun, nofun, Periodic.tick_of_not_waiting h⟩)))
  | finish i result =>
      by_cases h : t.task.phase? i = some .busy
      · exact .inr (.inr (.inr (.inl ⟨i, result, rfl, h, by rw [after_finish_of_busy h]; rfl⟩)))
      · exact .inr (.inr (.inr (.inr ⟨nofun, nofun, by rw [after_finish_of_ne_busy h]⟩)))
  | runOnce result =>
      exact .inr (.inr (.inr (.inr ⟨nofun, nofun, by rw [after_runOnce]; rfl⟩)))

/-! ## What every moment keeps -/

/-- A live worker is the one that the task holds, and that one has its flag down. Where the wait
can be asked for, that one is alive too and no other has its flag down; where it cannot, no worker
is in a cycle. -/
structure Sound (p : Periodic) : Prop where
  held_of_live : ∀ i, p.isLive i = true → p.held = some i
  unflagged_of_held : ∀ i, p.held = some i → p.isUnflagged i = true
  held_of_unflagged : p.isOverlong = false → ∀ i, p.isUnflagged i = true → p.held = some i
  alive_of_held : p.isOverlong = false → ∀ i, p.held = some i → p.isAlive i = true
  short_of_busy : ∀ i, p.phase? i = some .busy → p.isOverlong = false

namespace Sound

variable {p : Periodic}

theorem unstarted (name : String) (interval : Value) : Sound { name, interval } where
  held_of_live i h := by simp [Periodic.isLive, Periodic.isUnflagged] at h
  unflagged_of_held i h := by cases h
  held_of_unflagged _ i h := by simp [Periodic.isUnflagged] at h
  alive_of_held _ i h := by cases h
  short_of_busy i h := by simp [Periodic.phase?] at h

theorem isLive_iff (h : Sound p) (i : Nat) :
    p.isLive i = true ↔ p.held = some i ∧ p.isAlive i = true :=
  ⟨fun hlive => ⟨h.held_of_live i hlive, (Periodic.isLive_iff.mp hlive).1⟩,
    fun ⟨hheld, halive⟩ => Periodic.isLive_iff.mpr ⟨halive, h.unflagged_of_held i hheld⟩⟩

theorem isRunning_iff (h : Sound p) : p.isRunning = true ↔ ∃ i, p.isLive i = true :=
  Periodic.isRunning_iff.trans (exists_congr fun i => (h.isLive_iff i).symm)

theorem not_isLive (h : Sound p) (hidle : p.isRunning = false) (i : Nat) : p.isLive i ≠ true :=
  fun hlive => by cases hidle.symm.trans (h.isRunning_iff.mpr ⟨i, hlive⟩)

/-- Where the wait can be asked for, a task that is not running holds no worker. -/
theorem held_eq_none (h : Sound p) (hshort : p.isOverlong = false) (hidle : p.isRunning = false) :
    p.held = none := by
  rw [Option.eq_none_iff_forall_ne_some]
  intro i hi
  exact h.not_isLive hidle i ((h.isLive_iff i).mpr ⟨hi, h.alive_of_held hshort i hi⟩)

theorem start (h : Sound p) : Sound p.start.1 := by
  cases hrun : p.isRunning with
  | true => rwa [Periodic.start_of_running hrun]
  | false =>
      have hheld : p.start.1.held = some p.workers.length := by rw [Periodic.start_of_idle hrun]
      have hnew : p.start.1.phase? p.workers.length = some .waiting := by
        rw [Periodic.phase?_start_of_idle hrun, if_pos rfl]
      refine ⟨fun i hi => ?_, fun i hi => ?_, fun hshort i hi => ?_, fun _ i hi => ?_,
        fun i hi => ?_⟩
      · obtain rfl | hold := Periodic.isLive_start_of_idle hrun hi
        · exact hheld
        · exact absurd hold (h.not_isLive hrun i)
      · obtain rfl := Option.some.inj (hheld.symm.trans hi)
        exact (Periodic.isUnflagged_start_of_idle hrun _).mpr (.inl rfl)
      · rw [Periodic.isOverlong_start] at hshort
        obtain rfl | hold := (Periodic.isUnflagged_start_of_idle hrun i).mp hi
        · exact hheld
        · cases (h.held_eq_none hshort hrun).symm.trans (h.held_of_unflagged hshort i hold)
      · obtain rfl := Option.some.inj (hheld.symm.trans hi)
        exact Periodic.isAlive_of_phase? hnew nofun
      · rw [Periodic.phase?_start_of_idle hrun] at hi
        rw [Periodic.isOverlong_start]
        split at hi
        · cases hi
        · exact h.short_of_busy i hi

theorem cancel (h : Sound p) : Sound p.cancel.1 where
  held_of_live i hi := by
    obtain ⟨hlive, hne⟩ := (Periodic.isLive_cancel i).mp hi
    exact absurd (h.held_of_live i hlive) hne
  unflagged_of_held i hi := by simp at hi
  held_of_unflagged hshort i hi := by
    rw [Periodic.isOverlong_cancel] at hshort
    obtain ⟨hflag, hne⟩ := (Periodic.isUnflagged_cancel i).mp hi
    exact absurd (h.held_of_unflagged hshort i hflag) hne
  alive_of_held _ i hi := by simp at hi
  short_of_busy i hi := by
    rw [Periodic.phase?_cancel] at hi
    rw [Periodic.isOverlong_cancel]
    exact h.short_of_busy i hi

/-- A worker that is alive may move on in its loop, but it is in a cycle only where it can wait,
and ends with its flag down only where it cannot. -/
theorem place (h : Sound p) {before phase : Phase} (hbefore : p.phase? i = some before)
    (halive : before ≠ .ended) (hbusy : phase = .busy → p.isOverlong = false)
    (hended : phase = .ended → p.isOverlong = false → p.isUnflagged i = false) :
    Sound (p.place i phase) := by
  have hi := Periodic.isAlive_of_phase? hbefore halive
  refine ⟨fun j hj => ?_, fun j hj => ?_, fun hshort j hj => ?_, fun hshort j hj => ?_,
    fun j hj => ?_⟩
  · obtain ⟨hjalive, hjflag⟩ := Periodic.isLive_iff.mp hj
    rw [Periodic.isUnflagged_place] at hjflag
    exact h.held_of_live j
      (Periodic.isLive_iff.mpr ⟨Periodic.isAlive_of_place hi hjalive, hjflag⟩)
  · rw [Periodic.isUnflagged_place]
    exact h.unflagged_of_held j hj
  · rw [Periodic.isUnflagged_place] at hj
    exact h.held_of_unflagged hshort j hj
  · by_cases hij : j = i
    · subst hij
      refine Periodic.isAlive_of_phase? (Periodic.phase?_place_self hbefore) fun heq => ?_
      cases (hended heq hshort).symm.trans (h.unflagged_of_held j hj)
    · rw [Periodic.isAlive, Periodic.phase?_place_of_ne hij]
      exact h.alive_of_held hshort j hj
  · by_cases hij : j = i
    · subst hij
      rw [Periodic.phase?_place_self hbefore] at hj
      exact hbusy (Option.some.inj hj)
    · rw [Periodic.phase?_place_of_ne hij] at hj
      exact h.short_of_busy j hj

theorem after (h : Sound t.task) (m : Moment) : Sound (m.pass.after t).task := by
  obtain ⟨-, heq⟩ | ⟨-, heq⟩ | ⟨i, -, hphase, heq⟩ | ⟨i, -, -, hphase, heq⟩ | ⟨-, -, heq⟩ :=
    task_after_cases t m
  · exact heq ▸ h.start
  · exact heq ▸ h.cancel
  · rw [heq]
    refine h.place hphase nofun (fun hbusy => ?_) fun hended hshort => ?_
    · cases hoverlong : t.task.isOverlong with
      | false => rfl
      | true => simp [hoverlong] at hbusy
    · cases hflag : t.task.isUnflagged i with
      | false => rfl
      | true => simp [hflag, hshort] at hended
  · rw [heq]
    exact h.place hphase nofun nofun nofun
  · exact heq ▸ h

end Sound

/-! ## Cycles that begin -/

/-- A moment of a run. -/
abbrev Happening := Step Moment Timer Unit

/-- A worker begins a cycle. -/
def Begins (i : Nat) (e : Happening) : Prop :=
  e.before.task.phase? i ≠ some .busy ∧ e.after.task.phase? i = some .busy

theorem begins_iff {m : Moment} : Begins i (step Moment.pass t m) ↔
    m = .tick i ∧ t.task.phase? i = some .waiting ∧ t.task.isUnflagged i = true ∧
      t.task.isOverlong = false := by
  constructor
  · rintro ⟨hbefore, hafter⟩
    change t.task.phase? i ≠ some .busy at hbefore
    change (m.pass.after t).task.phase? i = some .busy at hafter
    obtain ⟨-, heq⟩ | ⟨-, heq⟩ | ⟨j, rfl, hphase, heq⟩ | ⟨j, -, -, hphase, heq⟩ | ⟨-, -, heq⟩ :=
      task_after_cases t m <;> rw [heq] at hafter
    · cases hrun : t.task.isRunning with
      | true =>
          rw [Periodic.start_of_running hrun] at hafter
          exact absurd hafter hbefore
      | false =>
          rw [Periodic.phase?_start_of_idle hrun] at hafter
          split at hafter
          · cases hafter
          · exact absurd hafter hbefore
    · rw [Periodic.phase?_cancel] at hafter
      exact absurd hafter hbefore
    · by_cases hij : i = j
      · subst hij
        rw [Periodic.phase?_place_self hphase] at hafter
        refine ⟨rfl, hphase, ?_⟩
        cases hflag : t.task.isUnflagged i <;> cases hlong : t.task.isOverlong <;>
          simp_all
      · rw [Periodic.phase?_place_of_ne hij] at hafter
        exact absurd hafter hbefore
    · by_cases hij : i = j
      · subst hij
        rw [Periodic.phase?_place_self hphase] at hafter
        cases hafter
      · rw [Periodic.phase?_place_of_ne hij] at hafter
        exact absurd hafter hbefore
    · exact absurd hafter hbefore
  · rintro ⟨rfl, hphase, hflag, hshort⟩
    refine ⟨fun hbusy => ?_, ?_⟩
    · cases hphase.symm.trans hbusy
    · show (t.task.tick i).phase? i = some .busy
      rw [Periodic.tick_of_live hphase hflag hshort, Periodic.phase?_place_self hphase]

theorem isLive_of_begins {m : Moment} (h : Begins i (step Moment.pass t m)) :
    t.task.isLive i = true := by
  obtain ⟨-, hphase, hflag, -⟩ := begins_iff.mp h
  exact Periodic.isLive_iff.mpr ⟨Periodic.isAlive_of_phase? hphase nofun, hflag⟩

/-! ## Workers that were cancelled -/

/-- A worker of the task that is not live. -/
def Retired (i : Nat) (t : Timer) : Prop :=
  i < t.task.workers.length ∧ t.task.isLive i = false

theorem Retired.after (h : Retired i t) (m : Moment) : Retired i (m.pass.after t) := by
  obtain ⟨hi, hdead⟩ := h
  have hplace {j : Nat} {before phase : Phase} (hbefore : t.task.phase? j = some before)
      (halive : before ≠ .ended) : (t.task.place j phase).isLive i = false := by
    rw [Bool.eq_false_iff] at hdead ⊢
    intro hlive
    obtain ⟨hnow, hflag⟩ := Periodic.isLive_iff.mp hlive
    rw [Periodic.isUnflagged_place] at hflag
    exact hdead (Periodic.isLive_iff.mpr
      ⟨Periodic.isAlive_of_place (Periodic.isAlive_of_phase? hbefore halive) hnow, hflag⟩)
  obtain ⟨-, heq⟩ | ⟨-, heq⟩ | ⟨j, -, hphase, heq⟩ | ⟨j, -, -, hphase, heq⟩ | ⟨-, -, heq⟩ :=
    task_after_cases t m <;> rw [Retired, heq]
  · refine ⟨Nat.lt_of_lt_of_le hi (Periodic.length_workers_le_start t.task), ?_⟩
    cases hrun : t.task.isRunning with
    | true => rwa [Periodic.start_of_running hrun]
    | false =>
        rw [Bool.eq_false_iff] at hdead ⊢
        intro hlive
        obtain rfl | hold := Periodic.isLive_start_of_idle hrun hlive
        · exact Nat.lt_irrefl _ hi
        · exact hdead hold
  · refine ⟨(Periodic.length_workers_cancel t.task).symm ▸ hi, ?_⟩
    rw [Bool.eq_false_iff] at hdead ⊢
    exact fun hlive => hdead ((Periodic.isLive_cancel i).mp hlive).1
  · exact ⟨(Periodic.length_workers_place ..).symm ▸ hi, hplace hphase nofun⟩
  · exact ⟨(Periodic.length_workers_place ..).symm ▸ hi, hplace hphase nofun⟩
  · exact ⟨hi, hdead⟩

/-- Cancelling retires all workers that there are: the one that the task holds, and the others were
before. -/
theorem Sound.retired_cancel (h : Sound t.task) (hi : i < t.task.workers.length) :
    Retired i (t.change Periodic.cancel) := by
  refine ⟨?_, ?_⟩
  · rwa [task_change, Periodic.length_workers_cancel]
  · rw [task_change, Bool.eq_false_iff]
    intro hlive
    obtain ⟨hbefore, hne⟩ := (Periodic.isLive_cancel i).mp hlive
    exact hne (h.held_of_live i hbefore)

theorem Retired.not_begins (h : Retired i t) (ms : List Moment) :
    ∀ e ∈ trace Moment.pass t ms, ¬ Begins i e := by
  intro e he hbegins
  have hkeeps : ∀ (s : Timer) (m : Moment), True → Retired i s → Retired i (m.pass.after s) :=
    fun _ m _ hs => hs.after m
  obtain ⟨hretired, m, hm⟩ := forall_mem_trace_of_kept hkeeps h (fun _ _ => trivial) e he
  rw [hm] at hbegins
  cases hretired.2.symm.trans (isLive_of_begins hbegins)

theorem held_after {m : Moment} (hm : m ≠ .start) (h : t.task.held = none) :
    (m.pass.after t).task.held = none := by
  obtain ⟨heq, -⟩ | ⟨-, heq⟩ | ⟨j, -, -, heq⟩ | ⟨j, -, -, -, heq⟩ | ⟨-, -, heq⟩ :=
    task_after_cases t m
  · exact absurd heq hm
  all_goals
    rw [heq]
    simp [h]

/-- Until the next start no worker begins a cycle after a cancel. -/
theorem Sound.not_begins_of_cancel (h : Sound t.task) {ms : List Moment}
    (hms : Moment.start ∉ ms) :
    ∀ e ∈ trace Moment.pass (t.change Periodic.cancel) ms, ∀ i, ¬ Begins i e := by
  have hkeeps : ∀ (s : Timer) (m : Moment), m ≠ .start → Sound s.task ∧ s.task.held = none →
      Sound (m.pass.after s).task ∧ (m.pass.after s).task.held = none :=
    fun _ m hm hs => ⟨hs.1.after m, held_after hm hs.2⟩
  intro e he i hbegins
  obtain ⟨⟨hsound, hnone⟩, m, hm⟩ := forall_mem_trace_of_kept hkeeps
    ⟨h.cancel, Periodic.held_cancel t.task⟩ (fun m hm heq => hms (heq ▸ hm)) e he
  rw [hm] at hbegins
  cases hnone.symm.trans (hsound.held_of_live i (isLive_of_begins hbegins))

/-! ## Workers that go on -/

/-- A worker that waits with its flag down, as long as it can. -/
def Waits (i : Nat) (p : Periodic) : Prop :=
  p.phase? i = some .waiting ∧ p.isUnflagged i = true ∧ p.isOverlong = false

theorem Waits.after {m : Moment} (hcancel : m ≠ .cancel) (htick : m ≠ .tick i)
    (h : Waits i t.task) : Waits i (m.pass.after t).task := by
  obtain ⟨hphase, hflag, hshort⟩ := h
  have hplace {j : Nat} (phase : Phase) (hne : i ≠ j) : Waits i (t.task.place j phase) :=
    ⟨(Periodic.phase?_place_of_ne hne).trans hphase,
      (Periodic.isUnflagged_place ..).trans hflag, hshort⟩
  obtain ⟨-, heq⟩ | ⟨rfl, -⟩ | ⟨j, rfl, -, heq⟩ | ⟨j, -, -, hbusy, heq⟩ | ⟨-, -, heq⟩ :=
    task_after_cases t m
  · rw [heq]
    cases hrun : t.task.isRunning with
    | true =>
        rw [Periodic.start_of_running hrun]
        exact ⟨hphase, hflag, hshort⟩
    | false =>
        refine ⟨?_, (Periodic.isUnflagged_start_of_idle hrun i).mpr (.inr hflag),
          (Periodic.isOverlong_start _).trans hshort⟩
        rw [Periodic.phase?_start_of_idle hrun, hphase]
        exact ite_self _
  · exact absurd rfl hcancel
  · exact heq ▸ hplace _ fun hij => htick (hij ▸ rfl)
  · exact heq ▸ hplace _ fun hij => by cases hphase.symm.trans (hij ▸ hbusy)
  · exact heq ▸ ⟨hphase, hflag, hshort⟩

/-- So it does until the task is cancelled or the worker has its tick. -/
theorem Waits.final {ms : List Moment} (hcancel : Moment.cancel ∉ ms)
    (htick : Moment.tick i ∉ ms) (h : Waits i t.task) :
    Waits i (final Moment.pass t ms).task := by
  have hkeeps : ∀ (s : Timer) (m : Moment), m ∈ ms → Waits i s.task →
      Waits i (m.pass.after s).task :=
    fun s m hm hs => hs.after (fun heq => hcancel (heq ▸ hm)) fun heq => htick (heq ▸ hm)
  exact kept_final hkeeps h fun _ hm => hm

/-! ## Reports -/

def said (t : Timer) : Moment → List Event
  | .start => t.task.start.2
  | .cancel => t.task.cancel.2
  | .tick _ => []
  | .finish i result => if t.task.phase? i = some .busy then t.failures result else []
  | .runOnce result => t.failures result

theorem log_after (t : Timer) (m : Moment) : (m.pass.after t).log = t.log ++ t.said m := by
  cases m with
  | start => rfl
  | cancel => rfl
  | tick i => exact (List.append_nil _).symm
  | finish i result =>
      by_cases hbusy : t.task.phase? i = some .busy
      · rw [after_finish_of_busy hbusy, said, if_pos hbusy]
        rfl
      · rw [after_finish_of_ne_busy hbusy, said, if_neg hbusy, List.append_nil]
  | runOnce result =>
      rw [after_runOnce]
      rfl

def isFailure : Event → Bool
  | .taskFailed _ => true
  | _ => false

def fails (e : Happening) : Bool :=
  match e.input with
  | .finish i (.error _) => e.before.task.phase? i = some .busy
  | .runOnce (.error _) => true
  | _ => false

theorem countP_said (t : Timer) (m : Moment) :
    (t.said m).countP isFailure = [step Moment.pass t m].countP fails := by
  rw [List.countP_singleton]
  cases m with
  | start =>
      rw [said, Periodic.start]
      split <;> rfl
  | cancel =>
      rw [said, Periodic.cancel]
      split <;> rfl
  | tick _ => rfl
  | finish i result =>
      rw [said]
      cases result with
      | ok u => split <;> rfl
      | error e =>
          by_cases hbusy : t.task.phase? i = some .busy
          · simp [hbusy, failures, fails, step, isFailure]
          · simp [hbusy, fails, step]
  | runOnce result => cases result <;> rfl

theorem countP_log_final (t : Timer) (ms : List Moment) :
    (final Moment.pass t ms).log.countP isFailure =
      t.log.countP isFailure + (trace Moment.pass t ms).countP fails := by
  induction ms generalizing t with
  | nil => rfl
  | cons m rest ih =>
      have hrest := ih (m.pass.after t)
      rw [log_after, List.countP_append, countP_said] at hrest
      show (final Moment.pass (m.pass.after t) rest).log.countP isFailure = _ +
        ([step Moment.pass t m] ++ trace Moment.pass (m.pass.after t) rest).countP fails
      rw [hrest, List.countP_append, Nat.add_assoc]

/-! ## Runs -/

/-- What holds in every state that a run leads to, for whatever may happen next. Calls from within a
cycle are no different from calls from outside, and a cancel takes hold when it is called, so what
holds after it holds once it has returned. -/
structure WellRun (h : List Happening) (t : Timer) : Prop where
  /-- At most one worker whose loop has not ended has its flag down, and it is the one that the task
  holds. -/
  oneLive : ∀ i, t.task.isLive i = true ↔ t.task.held = some i ∧ t.task.isAlive i = true
  /-- The task is running exactly if there is such a worker. -/
  running : t.task.isRunning = true ↔ ∃ i, t.task.isLive i = true
  /-- The task holds a worker exactly if it was started and not cancelled since. -/
  heldSince : (∃ i, t.task.held = some i) ↔ Since (·.input = .start) (·.input = .cancel) h
  /-- Where a worker can wait as long as the interval is, the task then runs, and no other worker
  that it ever had has its flag down, whether its loop has ended or not. -/
  runsSince : t.task.isOverlong = false →
    (t.task.isRunning = true ↔ Since (·.input = .start) (·.input = .cancel) h) ∧
      ∀ i, t.task.isUnflagged i = true ↔ t.task.held = some i
  /-- Where it cannot, no worker ever begins a cycle, and its first wait ends its loop. -/
  neverBegins : t.task.isOverlong = true → (∀ e ∈ h, ∀ i, ¬ Begins i e) ∧
    ∀ i, t.task.phase? i = some .waiting → (Moment.tick i).pass.after t = t.move i .ended
  /-- Starting a task that is running does nothing. -/
  startsOnce : t.task.isRunning = true → Moment.start.pass.after t = t
  /-- Starting any other gives it a new worker, which waits for its first tick with its flag down,
  and leaves the other workers as they are. -/
  startsFresh : t.task.isRunning = false → Moment.start.pass.after t =
    { task := { t.task with
        workers := t.task.workers ++ [{ stopped := false, phase := .waiting }]
        held := some t.task.workers.length }
      log := t.log ++ [.taskStarted t.task.name t.task.interval] }
  /-- Cancelling a task that holds no worker does nothing. -/
  cancelsOnce : t.task.held = none → Moment.cancel.pass.after t = t
  /-- After a cancel no worker begins a cycle until the next start. -/
  quiet : ∀ later, Moment.start ∉ later →
    ∀ e ∈ trace Moment.pass (Moment.cancel.pass.after t) later, ∀ i, ¬ Begins i e
  /-- The workers that there are at a cancel begin no cycle for good, whatever is started later. -/
  retired : ∀ later, ∀ e ∈ trace Moment.pass (Moment.cancel.pass.after t) later,
    ∀ i < t.task.workers.length, ¬ Begins i e
  /-- A worker whose cycle is over waits again, and a failure of the cycle is reported. -/
  finishes : ∀ i result, t.task.phase? i = some .busy → (Moment.finish i result).pass.after t =
    (t.move i .waiting).tell (t.failures result)
  /-- So is a failure of a single cycle, which changes nothing else. -/
  runsOnce : ∀ result, (Moment.runOnce result).pass.after t = t.tell (t.failures result)
  /-- Nothing else reports a failure: there are as many reports as cycles that failed. -/
  reported : t.log.countP isFailure = h.countP fails
  /-- Whatever the result of a cycle is, the next tick of the worker begins another one, unless the
  task is cancelled before it. -/
  goesOn : ∀ i result, t.task.phase? i = some .busy → t.task.isLive i = true →
    ∀ later, Moment.cancel ∉ later → Moment.tick i ∉ later →
      Begins i (step Moment.pass
        (final Moment.pass ((Moment.finish i result).pass.after t) later) (.tick i))

theorem exists_held_final_iff (name : String) (interval : Value) (ms : List Moment) :
    (∃ i, (final Moment.pass (unstarted name interval) ms).task.held = some i) ↔
      Since (·.input = .start) (·.input = .cancel)
        (trace Moment.pass (unstarted name interval) ms) := by
  refine holds_final_iff (F := fun t : Timer => ∃ i, t.task.held = some i) (by simp [unstarted])
    (fun t m => ?_) ms
  show (∃ i, (m.pass.after t).task.held = some i) ↔
    m = .start ∨ ((∃ i, t.task.held = some i) ∧ m ≠ .cancel)
  obtain ⟨rfl, heq⟩ | ⟨rfl, heq⟩ | ⟨i, rfl, -, heq⟩ | ⟨i, _, rfl, -, heq⟩ | ⟨hs, hc, heq⟩ :=
    task_after_cases t m <;> rw [heq]
  · obtain ⟨i, hi, -⟩ := Periodic.isRunning_iff.mp (Periodic.isRunning_start t.task)
    simp [hi]
  · simp
  · simp
  · simp
  · simp [hs, hc]

theorem isOverlong_after (t : Timer) (m : Moment) :
    (m.pass.after t).task.isOverlong = t.task.isOverlong := by
  obtain ⟨-, heq⟩ | ⟨-, heq⟩ | ⟨i, -, -, heq⟩ | ⟨i, -, -, -, heq⟩ | ⟨-, -, heq⟩ :=
    task_after_cases t m <;> simp [heq]

/-- Where no worker can wait, none has ever begun a cycle. -/
theorem not_begins_of_overlong {ms : List Moment}
    (h : (final Moment.pass t ms).task.isOverlong = true) :
    ∀ e ∈ trace Moment.pass t ms, ∀ i, ¬ Begins i e := by
  have hsame : ∀ (s : Timer) (m : Moment), s.task.isOverlong = t.task.isOverlong →
      (m.pass.after s).task.isOverlong = t.task.isOverlong :=
    fun s m hs => (isOverlong_after s m).trans hs
  have hlong : t.task.isOverlong = true :=
    (invariant_final (I := fun s : Timer => s.task.isOverlong = t.task.isOverlong) rfl hsame
      ms).symm.trans h
  intro e he i hbegins
  obtain ⟨before, m, rfl⟩ := exists_of_mem_trace he
  have hbefore := invariant_final (I := fun s : Timer => s.task.isOverlong = t.task.isOverlong)
    rfl hsame before
  obtain ⟨-, -, -, hshort⟩ := begins_iff.mp hbegins
  cases (hbefore.trans hlong).symm.trans hshort

/-- A task has one live loop at most, and it never has another than the one that was started last,
in whatever order it is started and cancelled and has its ticks, whether its cycles fail or not, and
whatever is called from within them. -/
theorem one_live_loop (name : String) (interval : Value) (ms : List Moment) :
    WellRun (trace Moment.pass (unstarted name interval) ms)
      (final Moment.pass (unstarted name interval) ms) := by
  have hsound : Sound (final Moment.pass (unstarted name interval) ms).task :=
    invariant_final (I := fun t : Timer => Sound t.task) (Sound.unstarted name interval)
      (fun _ m ht => ht.after m) ms
  have hreported := countP_log_final (unstarted name interval) ms
  have hheld := exists_held_final_iff name interval ms
  have hnever := @not_begins_of_overlong (unstarted name interval) ms
  generalize final Moment.pass (unstarted name interval) ms = t at hsound hreported hheld hnever ⊢
  exact {
    oneLive := hsound.isLive_iff
    running := hsound.isRunning_iff
    heldSince := hheld
    runsSince := fun hshort => by
      refine ⟨?_, fun i => ⟨hsound.held_of_unflagged hshort i, hsound.unflagged_of_held i⟩⟩
      rw [← hheld, Periodic.isRunning_iff]
      exact exists_congr fun i => and_iff_left_of_imp (hsound.alive_of_held hshort i)
    neverBegins := fun hlong => by
      refine ⟨hnever hlong, fun i hi => ?_⟩
      rw [after_tick, Periodic.tick_of_waiting hi, hlong, Bool.not_true, Bool.and_false]
      rfl
    startsOnce := fun hrun => by
      rw [after_start, change, Periodic.start_of_running hrun]
      exact tell_nil t
    startsFresh := fun hidle => by
      rw [after_start, change, Periodic.start_of_idle hidle]
      rfl
    cancelsOnce := fun hnone => by
      rw [after_cancel, change, Periodic.cancel_of_held_none hnone]
      exact tell_nil t
    quiet := fun later hlater => hsound.not_begins_of_cancel hlater
    retired := fun later e he i hi => (hsound.retired_cancel hi).not_begins later e he
    finishes := fun i result hbusy => after_finish_of_busy hbusy result
    runsOnce := after_runOnce t
    reported := hreported.trans (Nat.zero_add _)
    goesOn := fun i result hbusy hlive later hcancel htick => by
      rw [after_finish_of_busy hbusy]
      have hwaits : Waits i ((t.move i .waiting).tell (t.failures result)).task :=
        ⟨Periodic.phase?_place_self hbusy,
          (Periodic.isUnflagged_place ..).trans (Periodic.isLive_iff.mp hlive).2,
          hsound.short_of_busy i hbusy⟩
      exact begins_iff.mpr ⟨rfl, hwaits.final hcancel htick⟩ }

/-- A worker cancels its task from within a cycle and starts it again. The new worker goes on
after a cycle that fails, and the old one, whose cycle is over later, begins no other. -/
theorem restarted_from_within :
    ∃ t₀ t, t₀ = unstarted "sweep" (.int 60) ∧
      t = final Moment.pass t₀ [.start, .tick 0, .cancel, .start, .tick 1] ∧
      t.task.held = some 1 ∧ t.task.phase? 0 = some .busy ∧ t.task.phase? 1 = some .busy ∧
      Begins 1 (step Moment.pass (final Moment.pass
        ((Moment.finish 1 (.error (.broken "sweep failed"))).pass.after t)
          [.finish 0 (.ok ()), .tick 0, .start]) (.tick 1)) ∧
      ∀ e ∈ trace Moment.pass
          (Moment.cancel.pass.after (final Moment.pass t₀ [.start, .tick 0]))
          [.start, .tick 1, .finish 0 (.ok ()), .tick 0], ¬ Begins 0 e :=
  ⟨_, _, rfl, rfl, rfl, rfl, rfl,
    (one_live_loop "sweep" (.int 60) _).goesOn 1 _ rfl rfl _ (by simp) (by simp),
    fun e he => (one_live_loop "sweep" (.int 60) _).retired _ e he 0 (by decide)⟩

/-- A worker that cannot wait for a thousand years ends with its flag down; the task is not running
then, and another start gives it another worker. -/
example :
    let t := final Moment.pass (unstarted "sweep" (.int 31536000000)) [.start, .tick 0]
    t.task.workers = [{ stopped := false, phase := .ended }] ∧ t.task.isRunning = false ∧
      (Moment.start.pass.after t).task.held = some 1 := by
  decide

end Timer

end Passcode
