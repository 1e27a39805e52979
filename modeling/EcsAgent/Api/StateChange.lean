import Mathlib.Order.Lattice

/-!
# State Change Events

How the agent decides to report a task's, a container's or a managed agent's status to the
backend, from `api/statechange.go`. Each constructor builds the event from the objects it
is given and refuses the ones the backend must not see. `newContainerStateChangeEvent`
refuses internal containers, statuses the backend does not recognise, a manifest pull that
resolved no digest, and a status already sent; `newTaskStateChangeEvent` makes the same
checks of a task, with the sent check before the digest check; `newManagedAgentChangeEvent`
refuses a managed agent the container does not have or whose status the backend does not
take.

An event's container is a pointer in the source, which the payload builders of
`EcsAgent.Api.Payload` dereference; every constructor here sets it
(`newContainerStateChangeEvent_container`, `newManagedAgentChangeEvent_cases`).

The status of a container event is not the container's known status but its image under
`containerStatusChangeStatus`: the steady state reads as running, a manifest pull and a
stop read as themselves, and everything else as none. The payload builder later drops
every status but those three, with a comment saying the check repeats one made here; this
module proves the event builder already excludes the rest
(`newContainerStateChangeEvent_status`).

The status enumerations and the task and container objects live in packages that are not
among the sources. An enumeration is a type with its order, and `ContainerStatusApi`,
`TaskStatusApi` and `ManagedAgentStatusApi` hold the values `statechange.go` names and the
methods it calls. A container and a task are what their getters return, and the
container's lookup of a managed agent by name is a parameter. `ShouldReportToBackend` is a
parameter too, and the theorems that need it assume only what its name promises: a status
is reported when it is the steady state or the stop.

## Main definitions

* `ContainerStatusApi`, `TaskStatusApi`, `ManagedAgentStatusApi`: What the code uses of the
  status enumerations.
* `Container`, `Task`: The objects events are built from.
* `ContainerStateChange`, `ManagedAgentStateChange`, `TaskStateChange`: The events.
* `newTaskStateChangeEvent`: Building a task event.
* `containerStatusChangeStatus`: The status a container event reports.
* `newUncheckedContainerStateChangeEvent`, `newContainerStateChangeEvent`: Building a
  container event, unchecked and checked.
* `newManagedAgentChangeEvent`: Building a managed agent event.

## Theorems

* `newTaskStateChangeEvent_eq_ok_iff`: When a task event is accepted, and what it holds.
* `newManagedAgentChangeEvent_cases`: What an accepted managed agent event holds.
* `containerStatusChangeStatus_cases`: A container event's status is running, a manifest
  pull, a stop, or none.
* `newContainerStateChangeEvent_cases`: What an accepted container event holds.
* `newContainerStateChangeEvent_status`: An accepted container event reports running, a
  manifest pull or a stop.
* `newContainerStateChangeEvent_container`: An accepted container event has the container
  it was built from.
-/

namespace EcsAgent

namespace Api

/-- What `statechange.go` uses of the container status enumeration, which is not among the
    sources: the values it names and the methods it calls. -/
structure ContainerStatusApi (ς : Type) where
  containerStatusNone : ς
  containerManifestPulled : ς
  containerRunning : ς
  containerStopped : ς
  shouldReportToBackend : ς → ς → Bool
  string : ς → String
  backendStatusString : ς → String

/-- What `statechange.go` uses of the task status enumeration, which is not among the
    sources. -/
structure TaskStatusApi (ϑ : Type) where
  taskManifestPulled : ϑ
  backendRecognized : ϑ → Bool
  string : ϑ → String

/-- What the code uses of the managed agent status, which is not among the sources. -/
structure ManagedAgentStatusApi (α : Type) where
  shouldReportToBackend : α → Bool
  string : α → String

/-- A managed agent of a container: its name and status. -/
structure ManagedAgent (α : Type) where
  name : String
  status : α
  deriving DecidableEq, Repr

/-- A port binding of a container; the protocol is its `String()`. -/
structure PortBinding where
  containerPort : Nat
  hostPort : Nat
  bindIP : String
  protocol : String
  deriving DecidableEq, Repr

/-- A container, as its getters return it. The port set and the port range map are keyed
    as in the source; the range map is listed in the order a loop over it visits it. -/
structure Container (ς : Type) where
  name : String
  isInternal : Bool
  knownStatus : ς
  steadyStateStatus : ς
  sentStatus : ς
  digestResolved : Bool
  applyingError : Option String
  runtimeID : String
  knownExitCode : Option Int
  knownPortBindings : List PortBinding
  imageDigest : String
  hasPortRange : Bool
  containerPortSet : List Int
  containerPortRangeMap : List (String × String)
  deriving DecidableEq, Repr

/-- A task, as its getters return it: its ARN and statuses, whether a container resolved a
    digest, its network mode, and the pause container of a bridge-mode service connect task,
    which may fail to resolve. -/
structure Task (ς ϑ : Type) where
  arn : String
  isInternal : Bool
  knownStatus : ϑ
  sentStatus : ϑ
  hasAContainerWithResolvedDigest : Bool
  isServiceConnectEnabled : Bool
  isNetworkModeBridge : Bool
  getBridgeModePauseContainerForTaskContainer : Container ς → Except String (Container ς)

/-- A container state change to send to the backend. Its container is a pointer in the
    source, and `none` stands for nil. -/
structure ContainerStateChange (ς : Type) where
  taskArn : String
  runtimeID : String
  containerName : String
  status : ς
  imageDigest : String
  reason : String
  exitCode : Option Int
  portBindings : List PortBinding
  container : Option (Container ς)
  deriving DecidableEq, Repr

/-- A managed agent state change; its container is a pointer, as in a container change. -/
structure ManagedAgentStateChange (ς α : Type) where
  taskArn : String
  name : String
  container : Option (Container ς)
  status : α
  reason : String
  deriving DecidableEq, Repr

/-- A task state change, with its container and managed agent changes. -/
structure TaskStateChange (ς ϑ α : Type) where
  taskARN : String
  status : ϑ
  reason : String
  containers : List (ContainerStateChange ς)
  managedAgents : List (ManagedAgentStateChange ς α)
  deriving DecidableEq, Repr

/-- The text of `ErrShouldNotSendEvent`. -/
def errShouldNotSendEvent (resourceId : String) : String :=
  "should not send events for internal tasks or containers: " ++ resourceId

variable {ς ϑ α : Type} (cs : ContainerStatusApi ς)

/-- `NewTaskStateChangeEvent`: the event of a task that is not internal, refused when the
    backend does not recognise the status, when the status was already sent, or when a
    manifest pull resolved no digest; the sent check comes before the digest check here. The
    timestamps and the event the source returns beside an error are left out. -/
def newTaskStateChangeEvent [LinearOrder ϑ] (ts : TaskStatusApi ϑ) (task : Task ς ϑ)
    (reason : String) : Except String (TaskStateChange ς ϑ α) :=
  if task.isInternal then .error (errShouldNotSendEvent task.arn)
  else
    let taskKnownStatus := task.knownStatus
    if taskKnownStatus ≠ ts.taskManifestPulled ∧ ts.backendRecognized taskKnownStatus = false then
      .error ("create task state change event api: status not recognized by ECS: " ++
        ts.string taskKnownStatus)
    else if task.sentStatus ≥ taskKnownStatus then
      .error ("create task state change event api: status [" ++ ts.string taskKnownStatus ++
        "] already sent")
    else if taskKnownStatus = ts.taskManifestPulled ∧
        task.hasAContainerWithResolvedDigest = false then
      .error (errShouldNotSendEvent
        ("create task state change event api: status " ++ ts.string ts.taskManifestPulled ++
          " not eligible for backend reporting as no digests were resolved"))
    else
      .ok { taskARN := task.arn
            status := taskKnownStatus
            reason := reason
            containers := []
            managedAgents := [] }

/-- `containerStatusChangeStatus`: running at the steady state, a manifest pull or a stop as
    itself, none otherwise. The cases are tried in the source's order. -/
def containerStatusChangeStatus [DecidableEq ς] (knownStatus steadyStateStatus : ς) : ς :=
  if knownStatus = steadyStateStatus then cs.containerRunning
  else if knownStatus = cs.containerManifestPulled then cs.containerManifestPulled
  else if knownStatus = cs.containerStopped then cs.containerStopped
  else cs.containerStatusNone

/-- The port bindings an event reports: the pause container's for a bridge-mode service
    connect task, the container's own otherwise. -/
def eventPortBindings (task : Task ς ϑ) (cont : Container ς) : Except String (List PortBinding) :=
  if task.isServiceConnectEnabled && task.isNetworkModeBridge then
    match task.getBridgeModePauseContainerForTaskContainer cont with
    | .error _ => .error ("error resolving pause container for bridge mode SC container: " ++ cont.name)
    | .ok pauseCont => .ok pauseCont.knownPortBindings
  else .ok cont.knownPortBindings

/-- `newUncheckedContainerStateChangeEvent`: the event of a container that is not internal.
    On an error the source also returns an event, the zero value, which is left out. -/
def newUncheckedContainerStateChangeEvent [DecidableEq ς] (task : Task ς ϑ) (cont : Container ς)
    (reason : String) : Except String (ContainerStateChange ς) :=
  if cont.isInternal then .error (errShouldNotSendEvent cont.name)
  else (eventPortBindings task cont).map fun portBindings =>
    { taskArn := task.arn
      containerName := cont.name
      runtimeID := cont.runtimeID
      status := containerStatusChangeStatus cs cont.knownStatus cont.steadyStateStatus
      exitCode := cont.knownExitCode
      portBindings := portBindings
      imageDigest := cont.imageDigest
      reason := reason
      container := some cont }

/-- `NewContainerStateChangeEvent`: the unchecked event, refused when the backend does not
    recognise the status, when a manifest pull resolved no digest, or when the status was
    already sent; an applying error stands in for a missing reason. The event the source
    returns beside an error is left out. -/
def newContainerStateChangeEvent [LinearOrder ς] (task : Task ς ϑ) (cont : Container ς)
    (reason : String) : Except String (ContainerStateChange ς) :=
  match newUncheckedContainerStateChangeEvent cs task cont reason with
  | .error err => .error err
  | .ok event =>
    let contKnownStatus := cont.knownStatus
    if contKnownStatus ≠ cs.containerManifestPulled ∧
        cs.shouldReportToBackend contKnownStatus cont.steadyStateStatus = false then
      .error (errShouldNotSendEvent
        ("create container state change event api: status not recognized by ECS: " ++
          cs.string contKnownStatus))
    else if contKnownStatus = cs.containerManifestPulled ∧ cont.digestResolved = false then
      .error (errShouldNotSendEvent
        ("create container state change event api: no need to send " ++
          cs.string cs.containerManifestPulled ++ " event as no resolved digests were found"))
    else if cont.sentStatus ≥ contKnownStatus then
      .error (errShouldNotSendEvent
        ("create container state change event api: status [" ++ cs.string contKnownStatus ++
          "] already sent for container " ++ cont.name ++ ", task " ++ task.arn))
    else
      match reason, cont.applyingError with
      | "", some err => .ok { event with reason := err }
      | _, _ => .ok event

/-- `NewManagedAgentChangeEvent`: the event of a managed agent the container has, refused
    when the backend does not take its status. The container's lookup by name is not among
    the sources and is a parameter. -/
def newManagedAgentChangeEvent (ma : ManagedAgentStatusApi α)
    (getManagedAgentByName : Container ς → String → Option (ManagedAgent α)) (task : Task ς ϑ)
    (cont : Container ς) (managedAgentName reason : String) :
    Except String (ManagedAgentStateChange ς α) :=
  match getManagedAgentByName cont managedAgentName with
  | none => .error ("No ExecuteCommandAgent available in container: " ++ cont.name)
  | some managedAgent =>
    if ma.shouldReportToBackend managedAgent.status = false then
      .error ("create managed agent state change event: status not recognized by ECS: " ++
        ma.string managedAgent.status)
    else
      .ok { taskArn := task.arn
            name := managedAgent.name
            container := some cont
            status := managedAgent.status
            reason := reason }

/-! ### What an accepted event holds -/

/-- A task event is accepted exactly for a task that is not internal, whose status is a
    manifest pull with a resolved digest or one the backend recognises, and that is above the
    status already sent; it carries the task's ARN and status and no container or managed
    agent change. -/
theorem newTaskStateChangeEvent_eq_ok_iff [LinearOrder ϑ] {ts : TaskStatusApi ϑ}
    {task : Task ς ϑ} {reason : String} {event : TaskStateChange ς ϑ α} :
    newTaskStateChangeEvent ts task reason = .ok event ↔
      task.isInternal = false ∧
      (task.knownStatus = ts.taskManifestPulled ∧ task.hasAContainerWithResolvedDigest = true ∨
        task.knownStatus ≠ ts.taskManifestPulled ∧ ts.backendRecognized task.knownStatus = true) ∧
      task.sentStatus < task.knownStatus ∧
      event = ⟨task.arn, task.knownStatus, reason, [], []⟩ := by
  unfold newTaskStateChangeEvent
  dsimp only
  split_ifs with hinternal hrecognized hsent hdigest
  · simp [hinternal]
  · simp [hrecognized]
  · simp [not_lt.mpr hsent]
  · simp [hdigest]
  · -- every check passed: the conditions hold, and the event is the one built
    have hstatus : task.knownStatus = ts.taskManifestPulled ∧
          task.hasAContainerWithResolvedDigest = true ∨
        task.knownStatus ≠ ts.taskManifestPulled ∧ ts.backendRecognized task.knownStatus = true := by
      by_cases hmp : task.knownStatus = ts.taskManifestPulled
      exacts [.inl ⟨hmp, by simpa [hmp] using hdigest⟩, .inr ⟨hmp, by simpa [hmp] using hrecognized⟩]
    simp only [Except.ok.injEq, Bool.not_eq_true] at hinternal ⊢
    exact ⟨fun h => ⟨hinternal, hstatus, not_le.mp hsent, h.symm⟩, fun h => h.2.2.2.symm⟩

/-- A managed agent event is accepted only for a managed agent the container has, with a
    status the backend takes. -/
theorem newManagedAgentChangeEvent_cases {ma : ManagedAgentStatusApi α}
    {getManagedAgentByName : Container ς → String → Option (ManagedAgent α)} {task : Task ς ϑ}
    {cont : Container ς} {managedAgentName reason : String} {event : ManagedAgentStateChange ς α}
    (h : newManagedAgentChangeEvent ma getManagedAgentByName task cont managedAgentName reason =
      .ok event) :
    ∃ managedAgent, getManagedAgentByName cont managedAgentName = some managedAgent ∧
      ma.shouldReportToBackend managedAgent.status = true ∧
      event = ⟨task.arn, managedAgent.name, some cont, managedAgent.status, reason⟩ := by
  unfold newManagedAgentChangeEvent at h
  split at h
  · cases h
  · split_ifs at h with hreport
    cases h
    exact ⟨_, ‹_›, by simpa using hreport, rfl⟩

theorem containerStatusChangeStatus_cases [DecidableEq ς] (knownStatus steadyStateStatus : ς) :
    containerStatusChangeStatus cs knownStatus steadyStateStatus = cs.containerRunning ∨
      containerStatusChangeStatus cs knownStatus steadyStateStatus = cs.containerManifestPulled ∨
      containerStatusChangeStatus cs knownStatus steadyStateStatus = cs.containerStopped ∨
      (knownStatus ≠ steadyStateStatus ∧ knownStatus ≠ cs.containerManifestPulled ∧
        knownStatus ≠ cs.containerStopped ∧
        containerStatusChangeStatus cs knownStatus steadyStateStatus = cs.containerStatusNone) := by
  unfold containerStatusChangeStatus
  split_ifs <;> simp_all

/-- An unchecked event is built from a container that is not internal, and carries the
    task's ARN, the container's name and runtime id, and the image of its known status. -/
theorem newUncheckedContainerStateChangeEvent_ok [DecidableEq ς] {task : Task ς ϑ}
    {cont : Container ς} {reason : String} {event : ContainerStateChange ς}
    (h : newUncheckedContainerStateChangeEvent cs task cont reason = .ok event) :
    cont.isInternal = false ∧ ∃ portBindings, event =
      { taskArn := task.arn
        containerName := cont.name
        runtimeID := cont.runtimeID
        status := containerStatusChangeStatus cs cont.knownStatus cont.steadyStateStatus
        exitCode := cont.knownExitCode
        portBindings := portBindings
        imageDigest := cont.imageDigest
        reason := reason
        container := some cont } := by
  unfold newUncheckedContainerStateChangeEvent at h
  split at h
  · cases h
  · cases hp : eventPortBindings task cont <;> simp only [hp, Except.map] at h
    · cases h
    · cases h
      exact ⟨by simpa using ‹¬cont.isInternal = true›, _, rfl⟩

/-- An accepted event is the unchecked one, maybe with the applying error as its reason,
    for a status that is a manifest pull with a resolved digest or one the backend is to see,
    and that is above the status already sent. -/
theorem newContainerStateChangeEvent_cases [LinearOrder ς] {task : Task ς ϑ} {cont : Container ς}
    {reason : String} {event : ContainerStateChange ς}
    (h : newContainerStateChangeEvent cs task cont reason = .ok event) :
    ∃ unchecked, newUncheckedContainerStateChangeEvent cs task cont reason = .ok unchecked ∧
      (cont.knownStatus = cs.containerManifestPulled ∧ cont.digestResolved = true ∨
        cont.knownStatus ≠ cs.containerManifestPulled ∧
          cs.shouldReportToBackend cont.knownStatus cont.steadyStateStatus = true) ∧
      cont.sentStatus < cont.knownStatus ∧
      ∃ reason', event = { unchecked with reason := reason' } := by
  unfold newContainerStateChangeEvent at h
  split at h
  · cases h
  rename_i unchecked hunchecked
  refine ⟨unchecked, hunchecked, ?_⟩
  dsimp only at h
  split_ifs at h with hreport hdigest hsent
  simp only [not_and, Bool.not_eq_false, not_le] at hreport hdigest hsent
  refine ⟨?_, hsent, ?_⟩
  · by_cases hmp : cont.knownStatus = cs.containerManifestPulled
    exacts [.inl ⟨hmp, hdigest hmp⟩, .inr ⟨hmp, hreport hmp⟩]
  · split at h <;> cases h <;> exact ⟨_, rfl⟩

/-- If the backend is to see only the steady state and the stop, every event
    `newContainerStateChangeEvent` accepts reports running, a manifest pull or a stop. -/
theorem newContainerStateChangeEvent_status [LinearOrder ς]
    (hreport : ∀ knownStatus steadyStateStatus,
      cs.shouldReportToBackend knownStatus steadyStateStatus = true →
        knownStatus = steadyStateStatus ∨ knownStatus = cs.containerStopped)
    {task : Task ς ϑ} {cont : Container ς} {reason : String} {event : ContainerStateChange ς}
    (h : newContainerStateChangeEvent cs task cont reason = .ok event) :
    event.status = cs.containerManifestPulled ∨ event.status = cs.containerStopped ∨
      event.status = cs.containerRunning := by
  obtain ⟨unchecked, hunchecked, hknown, -, reason', rfl⟩ := newContainerStateChangeEvent_cases cs h
  obtain ⟨-, portBindings, rfl⟩ := newUncheckedContainerStateChangeEvent_ok cs hunchecked
  rcases containerStatusChangeStatus_cases cs cont.knownStatus cont.steadyStateStatus with
    h | h | h | ⟨hsteady, hmp, hstopped, -⟩
  · exact .inr (.inr h)
  · exact .inl h
  · exact .inr (.inl h)
  · -- a status that is none of the three is neither a manifest pull nor reported
    rcases hknown with ⟨hmp', -⟩ | ⟨-, hshould⟩
    · exact absurd hmp' hmp
    · rcases hreport _ _ hshould with h | h
      exacts [absurd h hsteady, absurd h hstopped]

/-- An accepted container event has the container it was built from. -/
theorem newContainerStateChangeEvent_container [LinearOrder ς] {task : Task ς ϑ}
    {cont : Container ς} {reason : String} {event : ContainerStateChange ς}
    (h : newContainerStateChangeEvent cs task cont reason = .ok event) :
    event.container = some cont := by
  obtain ⟨unchecked, hunchecked, -, -, reason', rfl⟩ := newContainerStateChangeEvent_cases cs h
  obtain ⟨-, portBindings, rfl⟩ := newUncheckedContainerStateChangeEvent_ok cs hunchecked
  rfl

end Api

end EcsAgent
