import Passcode.Proofs.Actions
import Passcode.Proofs.Timers
import Passcode.Scenario.TaskScript

/-!
# Scripts for tasks are runs of timers

A script lets the worker of a counting task go through its loop. Each step of it is a tick of the
worker and, if that begins a cycle, the end of the cycle; if the cycle cancels the task, it does so
before its end (`Rests.tick`). So every script takes its task to where some run of moments takes it,
with the same reports (`exists_moments`).
-/

namespace Passcode.Scenario.Counting

open Passcode.Action Run Timer

variable {c : Counting} {t : Timer}

def cancels (c : Counting) : Option Int → Bool
  | some l => l ≤ c.count + 1
  | none => false

def ticked (c : Counting) (i : Nat) : Counting := { c with task := c.task.tick i }

/-- The script after a cycle of a worker, which waits again. -/
def rested (c : Counting) (i : Nat) : Counting := { c with task := c.task.place i .waiting }

/-- What the work of the next cycle comes to. -/
def result (c : Counting) (failed : List Int) : Except Failure Unit :=
  if c.count + 1 ∈ failed then .error (.broken "planned failure") else .ok ()

/-- The calls that the next cycle makes from within. -/
def calls (c : Counting) (limit : Option Int) : List Moment :=
  if c.cancels limit then [.cancel] else []

/-- The script after the work of the next cycle. -/
def worked (c : Counting) (limit : Option Int) : Counting :=
  if c.cancels limit then
    { task := c.task.cancel.1, count := c.count + 1, log := c.log ++ c.task.cancel.2 }
  else { c with count := c.count + 1 }

theorem run_work (c : Counting) (limit : Option Int) (failed : List Int) :
    (work limit failed).run c = (c.result failed, c.worked limit) := by
  by_cases hfailed : c.count + 1 ∈ failed
  all_goals
    cases limit with
    | none => simp [work, run_bind, result, worked, cancels, hfailed]
    | some l =>
        by_cases hl : l ≤ c.count + 1 <;>
          simp [work, change, run_bind, result, worked, cancels, hfailed, hl]

theorem name_worked (c : Counting) (limit : Option Int) :
    (c.worked limit).task.name = c.task.name := by
  unfold worked Periodic.cancel
  split
  · split <;> rfl
  · rfl

theorem run_cycle (c : Counting) (limit : Option Int) (failed : List Int) :
    (cycle limit failed).run c = (.ok (), match c.result failed with
      | .ok _ => c.worked limit
      | .error _ => { c.worked limit with
          log := (c.worked limit).log ++ [.taskFailed c.task.name] }) := by
  rw [cycle, run_bind, run_get]
  dsimp only
  unfold Periodic.cycle
  rw [run_bind, run_attempt, run_work]
  cases c.result failed <;> rfl

/-! ## The timer of a script -/

/-- The timer is at the point where the script is. -/
structure Shows (t : Timer) (c : Counting) : Prop where
  task : t.task = c.task
  log : t.log = c.log

/-- The timer is there between two steps: no worker is in a cycle. -/
structure Rests (t : Timer) (c : Counting) : Prop extends Shows t c where
  idle : ∀ i, t.task.phase? i ≠ some .busy

theorem Shows.change (h : Shows t c) (f : Periodic → Periodic × List Event) :
    Shows (t.change f) ((Counting.change f).after c) := by
  refine ⟨congrArg (f · |>.1) h.task, ?_⟩
  show t.log ++ (f t.task).2 = c.log ++ (f c.task).2
  rw [h.log, h.task]

/-- The calls that a cycle makes from within leave the workers where they are in their loops. -/
theorem Shows.calls (h : Shows t c) (limit : Option Int) :
    ∃ u, final Moment.pass t (c.calls limit) = u ∧ Shows u (c.worked limit) ∧
      ∀ i, u.task.phase? i = t.task.phase? i := by
  rw [Counting.calls, worked]
  split
  · obtain ⟨htask, hlog⟩ := h.change Periodic.cancel
    exact ⟨_, rfl, ⟨htask, hlog⟩, Periodic.phase?_cancel t.task⟩
  · exact ⟨_, rfl, ⟨h.task, h.log⟩, fun _ => rfl⟩

/-- After the calls of a cycle, its end is reported alike. -/
theorem Shows.reports {limit : Option Int} (h : Shows t (c.worked limit)) (failed : List Int) :
    Shows (t.tell (t.failures (c.result failed))) ((cycle limit failed).after c) := by
  rw [after, run_cycle]
  refine ⟨?_, ?_⟩
  · rw [task_tell, h.task]
    cases c.result failed <;> rfl
  · have hname : t.task.name = c.task.name := h.task ▸ name_worked c limit
    show t.log ++ t.failures (c.result failed) = _
    rw [h.log]
    cases c.result failed with
    | ok _ => exact List.append_nil _
    | error _ => rw [failures, hname]

namespace Rests

theorem start (h : Rests t c) :
    Rests (t.change Periodic.start) ((change Periodic.start).after c) := by
  refine ⟨h.change Periodic.start, fun i => ?_⟩
  rw [task_change]
  cases hrun : t.task.isRunning with
  | true =>
      rw [Periodic.start_of_running hrun]
      exact h.idle i
  | false =>
      rw [Periodic.phase?_start_of_idle hrun]
      split
      · exact nofun
      · exact h.idle i

theorem cancel (h : Rests t c) :
    Rests (t.change Periodic.cancel) ((change Periodic.cancel).after c) :=
  ⟨h.change Periodic.cancel, fun i => by
    rw [task_change, Periodic.phase?_cancel]
    exact h.idle i⟩

theorem runOnce (h : Rests t c) (limit : Option Int) (failed : List Int) :
    ∃ ms, Rests (final Moment.pass t ms) ((cycle limit failed).after c) := by
  obtain ⟨u, hu, hcalls, hphase⟩ := h.calls limit
  refine ⟨c.calls limit ++ [.runOnce (c.result failed)], ?_⟩
  rw [final_concat, after_runOnce, hu]
  refine ⟨hcalls.reports failed, fun i => ?_⟩
  rw [task_tell, hphase]
  exact h.idle i

/-- The tick of a worker, and the end of its cycle if the tick begins one. All that the cycle calls
comes before its end. -/
theorem tick (h : Rests t c) (i : Nat) (limit : Option Int) (failed : List Int) : ∃ ms,
    ((c.ticked i).task.phase? i ≠ some .busy ∧ Rests (final Moment.pass t ms) (c.ticked i)) ∨
    ((c.ticked i).task.phase? i = some .busy ∧
      Rests (final Moment.pass t ms) (((cycle limit failed).after (c.ticked i)).rested i)) := by
  have hticked : Shows ((Moment.tick i).pass.after t) (c.ticked i) :=
    ⟨congrArg (Periodic.tick · i) h.task, h.log⟩
  have honly : ∀ j, ((Moment.tick i).pass.after t).task.phase? j = some .busy → j = i := by
    intro j hj
    by_contra hne
    rw [after_tick] at hj
    by_cases hwaits : t.task.phase? i = some .waiting
    · rw [Periodic.tick_of_waiting hwaits, Periodic.phase?_place_of_ne hne] at hj
      exact h.idle j hj
    · rw [Periodic.tick_of_not_waiting hwaits] at hj
      exact h.idle j hj
  by_cases hbusy : (c.ticked i).task.phase? i = some .busy
  · obtain ⟨u, hu, hcalls, hphase⟩ := hticked.calls limit
    have hbusy' : u.task.phase? i = some .busy := by rwa [hphase, hticked.task]
    have hbegin : final Moment.pass t (.tick i :: (c.ticked i).calls limit) = u := hu
    obtain ⟨htask, hlog⟩ := hcalls.reports failed
    refine ⟨.tick i :: (c.ticked i).calls limit ++ [.finish i ((c.ticked i).result failed)],
      .inr ⟨hbusy, ?_⟩⟩
    rw [final_concat, hbegin, after_finish_of_busy hbusy']
    refine ⟨⟨congrArg (Periodic.place · i .waiting) htask, hlog⟩, fun j hj => ?_⟩
    rw [task_tell, task_move] at hj
    by_cases hij : j = i
    · rw [hij, Periodic.phase?_place_self hbusy'] at hj
      cases hj
    · rw [Periodic.phase?_place_of_ne hij, hphase] at hj
      exact hij (honly j hj)
  · refine ⟨[.tick i], .inl ⟨hbusy, hticked, fun j hj => hbusy ?_⟩⟩
    obtain rfl := honly j hj
    rwa [← hticked.task]

theorem ticks (h : Rests t c) (i : Nat) (limit : Int) (failed : List Int) (fuel : Nat) :
    ∃ ms c', (workerCycles i limit failed fuel).run c = (.ok (), c') ∧
      Rests (final Moment.pass t ms) c' := by
  induction fuel generalizing c t with
  | zero => exact ⟨[], c, rfl, h⟩
  | succ fuel ih =>
      have htick : (workerCycles i limit failed (fuel + 1)).run c =
          (if (c.ticked i).task.phase? i = some .busy then (do
            cycle (some limit) failed
            modify (·.rested i)
            workerCycles i limit failed fuel : Action Counting Unit) else Pure.pure ()).run
            (c.ticked i) := rfl
      obtain ⟨ms, ⟨hidle, hrests⟩ | ⟨hbusy, hrests⟩⟩ := h.tick i (some limit) failed
      · refine ⟨ms, c.ticked i, ?_, hrests⟩
        rw [htick, if_neg hidle]
        rfl
      · obtain ⟨ms', c', hrest, hrests'⟩ := ih hrests
        have hcycle : (cycle (some limit) failed).run (c.ticked i) =
            (.ok (), (cycle (some limit) failed).after (c.ticked i)) := by rw [after, run_cycle]
        refine ⟨ms ++ ms', c', ?_, final_append t ms ms' ▸ hrests'⟩
        rw [htick, if_pos hbusy, run_bind, hcycle]
        exact hrest

end Rests

/-- A run until a limit ends with the start, or with the loop of the worker that is held then. -/
theorem after_runUntil (c : Counting) (limit : Int) (failed : List Int) {c₁ : Counting}
    (hstart : (change Periodic.start).after { c with count := 0 } = c₁)
    (hcycles : ∀ i, ∃ c₂,
      (workerCycles i limit failed (max limit.toNat 1 + 1)).run c₁ = (.ok (), c₂)) :
    (perform (.runUntil limit failed)).after c = c₁ ∨
      ∃ i, (perform (.runUntil limit failed)).after c =
        (workerCycles i limit failed (max limit.toNat 1 + 1)).after c₁ := by
  subst hstart
  have hrun : (change Periodic.start).run { c with count := 0 } =
      (.ok (), (change Periodic.start).after { c with count := 0 }) := rfl
  rw [perform, after, run_bind, run_modify]
  dsimp only
  rw [run_bind, hrun]
  dsimp only
  rw [run_bind, run_get]
  dsimp only
  split
  · next i _ =>
    split
    · obtain ⟨c₂, hc₂⟩ := hcycles i
      refine .inr ⟨i, ?_⟩
      rw [run_bind, hc₂]
      show c₂ = ((workerCycles i limit failed (max limit.toNat 1 + 1)).run _).2
      rw [hc₂]
    · exact .inl rfl
  · exact .inl rfl

/-- A step of a script is a run of moments: a script goes no way that a timer cannot go. -/
theorem Rests.step (h : Rests t c) (s : TaskStep) :
    ∃ ms, Rests (final Moment.pass t ms) ((perform s).after c) := by
  cases s with
  | start => exact ⟨[.start], h.start⟩
  | cancel => exact ⟨[.cancel], h.cancel⟩
  | runOnce limit failed =>
      obtain ⟨ms, hcycle⟩ := h.runOnce limit failed
      refine ⟨ms, ?_⟩
      rw [perform, after, run_bind, run_cycle]
      rwa [after, run_cycle] at hcycle
  | runUntil limit failed =>
      have hzero : Rests t { c with count := 0 } := ⟨⟨h.task, h.log⟩, h.idle⟩
      have hticks := fun i => hzero.start.ticks i limit failed (max limit.toNat 1 + 1)
      obtain heq | ⟨i, heq⟩ := after_runUntil c limit failed rfl fun i =>
        (hticks i).elim fun _ hms => hms.imp fun _ hc => hc.1
      · exact ⟨[.start], heq ▸ hzero.start⟩
      · obtain ⟨ms, c', hrun, hrests⟩ := hticks i
        refine ⟨.start :: ms, ?_⟩
        rw [heq, after, hrun]
        exact hrests

/-- So is a whole script, from a task that was not started. -/
theorem exists_moments (name : String) (interval : Value) (steps : List TaskStep) :
    ∃ ms, Rests (final Moment.pass (unstarted name interval) ms)
      (final perform { task := { name, interval } } steps) := by
  induction steps using List.reverseRecOn with
  | nil => exact ⟨[], ⟨rfl, rfl⟩, fun _ => nofun⟩
  | append_singleton steps s ih =>
      obtain ⟨ms, hrests⟩ := ih
      obtain ⟨ms', hnext⟩ := hrests.step s
      refine ⟨ms ++ ms', ?_⟩
      rw [final_append, final_concat]
      exact hnext

end Passcode.Scenario.Counting
