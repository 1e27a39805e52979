import EcsAgent.Api.StateChange
import EcsAgent.Utils

/-!
# Payloads of State Changes

How `api/statechange.go` turns the agent's state changes into what the backend's API
takes. `buildContainerStateChangePayload` checks the container's name, drops every status
but a manifest pull, a stop and running, collects the network bindings, and refuses too
many of them for a container with a port range. A container change converts through it
alone (`ContainerStateChange.toECSAgent`); a task change converts each of its managed agent
changes and each of its container changes (`TaskStateChange.toECSAgent`).

A change's container is a pointer. `buildManagedAgentStateChangePayload` reads its name on
both branches, one of them for a log line, and `getNetworkBindings` reads its port set, so
a change without a container panics there. The two loops of the task conversion differ as
well. The managed agent loop skips a change whose payload is nil. The container loop
dereferences the payload it gets, and a nil one, which the payload builder returns for a
dropped status, panics. `TaskStateChange.toECSAgent_eq_panic_iff` says when the conversion
panics, and `TaskStateChange.toECSAgent_ne_panic` says it cannot happen to a task change
whose events were built by `newContainerStateChangeEvent` and `newManagedAgentChangeEvent`:
the constructors set the container, and the status check the builder's comment calls a
repeat is, for the task conversion, what keeps the dereference safe.

An exit code crosses the conversion as an `int32`, through Go's conversion `Utils.toInt32`,
which keeps the low 32 bits. The network bindings go through Go maps. The port set is a list of
its keys; the port range map is a list of its entries in the order a loop over it visits
them, so every theorem here holds for every iteration order; the map from host ports is a
function, and `networkBindingsOf_eq` says what the two loops compute without it.
`nat.ParsePortRangeToInt` is not among the sources and is a parameter. The fields that
the conversions copy without reading (the attachment, the timestamps, the metadata
getters) are left out.

Put together, the constructors of `EcsAgent.Api.StateChange` and the conversion make a
pipeline: `TaskStateChange.toECSAgent_eq_ok` says that a task event with accepted container
and managed agent events converts, loses no managed agent change, and carries one payload
per container change.

## Main definitions

* `Types.NetworkBinding`, `Types.ContainerStateChange`, `Types.ManagedAgentStateChange`: The
  payloads.
* `networkBindingsOf`, `getNetworkBindings`, `buildContainerStateChangePayload`,
  `buildManagedAgentStateChangePayload`: Building them.
* `managedAgentEvents`, `containerEvents`: The two loops of the task conversion.
* `ContainerStateChange.toECSAgent`, `TaskStateChange.toECSAgent`: The conversions.
* `Outcome`: A value, an error, or a panic.

## Theorems

* `networkBindingsOf_eq`: The network bindings without the map: the singular ones, then
  per port range those at its first host port.
* `buildContainerStateChangePayload_perm`: The order in which Go visits the port range map
  changes only the order of the network bindings.
* `buildContainerStateChangePayload_eq_ok_none_iff`: Which changes the payload builder drops.
* `buildContainerStateChangePayload_eq_panic_iff`: Which changes make it panic.
* `buildContainerStateChangePayload_ne_none`: A change with a kept status is never dropped.
* `buildManagedAgentStateChangePayload_eq_panic_iff`: A managed agent change panics exactly
  when it has no container.
* `managedAgentEvents_eq_panic_iff`, `containerEvents_eq_panic_iff`: When the loops panic.
* `managedAgentEvents_eq_ok`, `containerEvents_eq_ok`: The loops return every payload when
  every change has one.
* `ContainerStateChange.toECSAgent_fields`: What a container change converts to.
* `TaskStateChange.toECSAgent_eq_panic_iff`: When the task conversion panics.
* `TaskStateChange.toECSAgent_ne_panic`: Events built by the constructors never make the
  task conversion panic.
* `TaskStateChange.toECSAgent_eq_ok`: Accepted events convert, and nothing is lost.
-/

namespace EcsAgent

namespace Api

open Utils

/-- The most network bindings the backend takes for a container with a port range. -/
def ecsMaxNetworkBindingsLength : Nat := 100

namespace Types

/-- A network binding of a container payload. -/
structure NetworkBinding where
  bindIP : Option String
  containerPort : Option Int
  hostPort : Option Int
  protocol : String
  containerPortRange : Option String
  hostPortRange : Option String
  deriving DecidableEq, Repr

/-- The payload of a container state change. -/
structure ContainerStateChange where
  containerName : Option String
  runtimeId : Option String
  reason : Option String
  imageDigest : Option String
  status : Option String
  exitCode : Option Int
  networkBindings : List NetworkBinding
  deriving DecidableEq, Repr

/-- The payload of a managed agent state change. -/
structure ManagedAgentStateChange where
  managedAgentName : String
  containerName : Option String
  status : Option String
  reason : Option String
  deriving DecidableEq, Repr

end Types

/-- What a call returns: a value, an error, or a run-time panic. -/
inductive Outcome (α : Type) where
  | ok (value : α)
  | error (err : String)
  | panic
  deriving DecidableEq, Repr

/-- The value of an outcome passed through a function; an error or a panic stays. -/
def Outcome.map {α β : Type} (f : α → β) : Outcome α → Outcome β
  | .ok value => .ok (f value)
  | .error err => .error err
  | .panic => .panic

@[simp] theorem Outcome.map_ok {α β : Type} (f : α → β) (value : α) :
    (Outcome.ok value).map f = .ok (f value) := rfl

@[simp] theorem Outcome.map_error {α β : Type} (f : α → β) (err : String) :
    (Outcome.error err : Outcome α).map f = .error err := rfl

@[simp] theorem Outcome.map_panic {α β : Type} (f : α → β) :
    (Outcome.panic : Outcome α).map f = .panic := rfl

@[simp] theorem Outcome.map_eq_panic_iff {α β : Type} {f : α → β} {o : Outcome α} :
    o.map f = .panic ↔ o = .panic := by
  cases o <;> simp

@[simp] theorem Outcome.map_eq_error_iff {α β : Type} {f : α → β} {o : Outcome α} {err : String} :
    o.map f = .error err ↔ o = .error err := by
  cases o <;> simp

/-- A protocol and a bind address kept for a host port of a range. -/
structure ProtocolBindIP where
  protocol : String
  bindIP : String
  deriving DecidableEq, Repr

variable {ς : Type} (cs : ContainerStatusApi ς) (parsePortRangeToInt : String → Int)

/-- The network binding of a port binding whose container port is singular; both ports go
    through Go's conversion to `int32`. -/
def singularNetworkBinding (binding : PortBinding) : Types.NetworkBinding :=
  { bindIP := some binding.bindIP
    containerPort := some (toInt32 binding.containerPort)
    hostPort := some (toInt32 binding.hostPort)
    protocol := binding.protocol
    containerPortRange := none
    hostPortRange := none }

/-- The first loop of `getNetworkBindings`: a binding of a singular container port becomes a
    network binding, and one of a port in a range is kept under its host port. The lookup
    key is the container port converted to `int32`, as in the source; the host port's
    conversion to `int64` keeps it. -/
def networkBindingStep (containerPortSet : List Int)
    (acc : List Types.NetworkBinding × (Int → List ProtocolBindIP)) (binding : PortBinding) :
    List Types.NetworkBinding × (Int → List ProtocolBindIP) :=
  let containerPort := toInt32 binding.containerPort
  if containerPort ∈ containerPortSet then
    (acc.1 ++ [singularNetworkBinding binding], acc.2)
  else
    let hostPort : Int := binding.hostPort
    (acc.1, fun port => if port = hostPort then
      acc.2 port ++ [{ protocol := binding.protocol, bindIP := binding.bindIP }] else acc.2 port)

/-- The network binding of a port range, for one protocol and bind address. -/
def rangeNetworkBinding (containerPortRange hostPortRange : String) (v : ProtocolBindIP) :
    Types.NetworkBinding :=
  { bindIP := some v.bindIP
    containerPort := none
    hostPort := none
    protocol := v.protocol
    containerPortRange := some containerPortRange
    hostPortRange := some hostPortRange }

/-- The two loops of `getNetworkBindings`, once it has read the container's port set and port
    range map: the bindings of singular container ports, then, for each port range, one
    binding per protocol and bind address kept under its first host port. A host port never
    kept has no entries, as a missing map key. -/
def networkBindingsOf (container : Container ς) (portBindings : List PortBinding) :
    List Types.NetworkBinding :=
  let (networkBindings, hostPortToProtocolBindIPMap) :=
    portBindings.foldl (networkBindingStep container.containerPortSet) ([], fun _ => [])
  container.containerPortRangeMap.foldl
    (fun networkBindings (containerPortRange, hostPortRange) =>
      networkBindings ++ (hostPortToProtocolBindIPMap (parsePortRangeToInt hostPortRange)).map
        (rangeNetworkBinding containerPortRange hostPortRange))
    networkBindings

/-- `getNetworkBindings`: it reads the port set and the port range map of the change's
    container, which panics when the container is nil, and runs its two loops over the
    change's port bindings. -/
def getNetworkBindings (change : ContainerStateChange ς) : Outcome (List Types.NetworkBinding) :=
  match change.container with
  | none => .panic
  | some container => .ok (networkBindingsOf parsePortRangeToInt container change.portBindings)

/-- The first loop, all at once: the singular bindings become network bindings in order,
    and each host port keeps, in order, the protocol and bind address of every other
    binding at it. -/
theorem foldl_networkBindingStep (containerPortSet : List Int) (bindings : List PortBinding)
    (acc : List Types.NetworkBinding × (Int → List ProtocolBindIP)) :
    bindings.foldl (networkBindingStep containerPortSet) acc =
      (acc.1 ++ (bindings.filter fun b => toInt32 b.containerPort ∈ containerPortSet).map
          singularNetworkBinding,
        fun port => acc.2 port ++ (bindings.filter fun b =>
          toInt32 b.containerPort ∉ containerPortSet ∧ (b.hostPort : Int) = port).map
            fun b => ⟨b.protocol, b.bindIP⟩) := by
  induction bindings generalizing acc with
  | nil => simp
  | cons b bindings ih =>
    rw [List.foldl_cons, ih]
    unfold networkBindingStep
    by_cases hset : toInt32 b.containerPort ∈ containerPortSet
    · simp [hset, List.filter_cons]
    · simp only [hset, if_false, List.filter_cons, not_false_eq_true, true_and, decide_not]
      refine Prod.ext rfl (funext fun port => ?_)
      by_cases hport : port = b.hostPort <;> simp [hport, hset, eq_comm]

theorem foldl_append_eq_append_flatMap {α β : Type} (g : List β → α → List β) (f : α → List β)
    (hg : ∀ acc a, g acc a = acc ++ f a) (l : List α) (init : List β) :
    l.foldl g init = init ++ l.flatMap f := by
  induction l generalizing init with
  | nil => simp
  | cons a l ih => rw [List.foldl_cons, ih, hg, List.flatMap_cons, List.append_assoc]

/-- The two loops without their map: the network bindings of the singular container ports,
    in order, then, for each port range in turn, a network binding for every other binding
    whose host port is the first port of the range's host ports. -/
theorem networkBindingsOf_eq (container : Container ς) (portBindings : List PortBinding) :
    networkBindingsOf parsePortRangeToInt container portBindings =
      (portBindings.filter fun b =>
          toInt32 b.containerPort ∈ container.containerPortSet).map singularNetworkBinding ++
        container.containerPortRangeMap.flatMap fun entry =>
          (portBindings.filter fun b =>
              toInt32 b.containerPort ∉ container.containerPortSet ∧
                (b.hostPort : Int) = parsePortRangeToInt entry.2).map
            fun b => rangeNetworkBinding entry.1 entry.2 ⟨b.protocol, b.bindIP⟩ := by
  unfold networkBindingsOf
  rw [foldl_networkBindingStep]
  exact foldl_append_eq_append_flatMap _ _ (fun _ _ => by simp [List.map_map]) _ _

/-- Whatever the order in which the loop visits the port range map, the network bindings are
    the same, up to their order. -/
theorem networkBindingsOf_perm (container : Container ς) (portBindings : List PortBinding)
    {l : List (String × String)} (hl : container.containerPortRangeMap.Perm l) :
    (networkBindingsOf parsePortRangeToInt { container with containerPortRangeMap := l }
        portBindings).Perm (networkBindingsOf parsePortRangeToInt container portBindings) := by
  rw [networkBindingsOf_eq, networkBindingsOf_eq]
  exact (hl.symm.flatMap_right _).append_left _

/-- A string field of a payload: nil when empty. -/
def optionalString (s : String) : Option String :=
  if s ≠ "" then some s else none

@[simp] theorem optionalString_getD (s : String) : (optionalString s).getD "" = s := by
  unfold optionalString
  split <;> simp_all

/-- `buildContainerStateChangePayload`: an error for a change without a name, nil for a status
    other than a manifest pull, a stop and running, an error for more network bindings than
    the backend takes from a container with a port range, and the payload otherwise.
    `getNetworkBindings` and then `HasPortRange` read the container, so a change without one
    that passes the first two checks panics. -/
def buildContainerStateChangePayload [DecidableEq ς] (change : ContainerStateChange ς) :
    Outcome (Option Types.ContainerStateChange) :=
  if change.containerName = "" then .error "container state change has no container name"
  else
    let stat := change.status
    if stat ≠ cs.containerManifestPulled ∧ stat ≠ cs.containerStopped ∧
        stat ≠ cs.containerRunning then .ok none
    else
      let stat := if cs.string stat = "DEAD" then cs.containerStopped else stat
      match getNetworkBindings parsePortRangeToInt change, change.container with
      | .ok networkBindings, some container =>
        if container.hasPortRange ∧ networkBindings.length > ecsMaxNetworkBindingsLength then
          .error ("no. of network bindings " ++ toString networkBindings.length ++
            " is more than the maximum supported no. " ++ toString ecsMaxNetworkBindingsLength ++
            ", container: " ++ change.containerName ++ " task: " ++ change.taskArn)
        else
          .ok (some
            { containerName := some change.containerName
              runtimeId := optionalString change.runtimeID
              reason := optionalString change.reason
              imageDigest := optionalString change.imageDigest
              status := some (cs.backendStatusString stat)
              exitCode := change.exitCode.map toInt32
              networkBindings := networkBindings })
      | _, _ => .panic

namespace Ecs

/-- A container state change of the agent's backend API. -/
structure ContainerStateChange (ς : Type) where
  taskArn : String
  runtimeID : String
  containerName : String
  status : ς
  imageDigest : String
  reason : String
  exitCode : Option Int
  networkBindings : List Types.NetworkBinding
  deriving DecidableEq, Repr

/-- A task state change of the agent's backend API. -/
structure TaskStateChange (ϑ : Type) where
  taskARN : String
  status : ϑ
  reason : String
  managedAgents : List Types.ManagedAgentStateChange
  containers : List Types.ContainerStateChange
  deriving DecidableEq, Repr

end Ecs

/-- `ContainerStateChange.ToECSAgent`: an error, nil or a panic as the payload builder returns
    them, and otherwise the change with the payload's fields read back. -/
def ContainerStateChange.toECSAgent [DecidableEq ς] (change : ContainerStateChange ς) :
    Outcome (Option (Ecs.ContainerStateChange ς)) :=
  match buildContainerStateChangePayload cs parsePortRangeToInt change with
  | .error err => .error err
  | .ok none => .ok none
  | .ok (some pl) => .ok (some
      { taskArn := change.taskArn
        runtimeID := pl.runtimeId.getD ""
        containerName := change.containerName
        status := change.status
        imageDigest := pl.imageDigest.getD ""
        reason := pl.reason.getD ""
        exitCode := int32PtrToIntPtr pl.exitCode
        networkBindings := pl.networkBindings })
  | .panic => .panic

/-- `buildManagedAgentStateChangePayload`: nil for a status the backend does not take, and the
    payload otherwise. Both branches read the container's name, the first for its log line,
    so a change without a container panics. -/
def buildManagedAgentStateChangePayload {α : Type} (ma : ManagedAgentStatusApi α)
    (change : ManagedAgentStateChange ς α) : Outcome (Option Types.ManagedAgentStateChange) :=
  match change.container with
  | none => .panic
  | some container =>
    if !ma.shouldReportToBackend change.status then .ok none
    else .ok (some
      { managedAgentName := change.name
        containerName := some container.name
        status := some (ma.string change.status)
        reason := some change.reason })

/-- The managed agent loop of `TaskStateChange.ToECSAgent`: a nil payload is skipped, and a
    panic of the payload builder ends the conversion. -/
def managedAgentEvents {α : Type} (ma : ManagedAgentStatusApi α) :
    List (ManagedAgentStateChange ς α) → Outcome (List Types.ManagedAgentStateChange)
  | [] => .ok []
  | managedAgentEvent :: managedAgentEvents' =>
    match buildManagedAgentStateChangePayload ma managedAgentEvent with
    | .ok (some mgspl) => (managedAgentEvents ma managedAgentEvents').map (mgspl :: ·)
    | .ok none => managedAgentEvents ma managedAgentEvents'
    | .error err => .error err
    | .panic => .panic

/-- The container loop of `TaskStateChange.ToECSAgent`: the first error is returned, and a
    nil payload is dereferenced, which panics. -/
def containerEvents [DecidableEq ς] :
    List (ContainerStateChange ς) → Outcome (List Types.ContainerStateChange)
  | [] => .ok []
  | containerEvent :: containerEvents' =>
    match buildContainerStateChangePayload cs parsePortRangeToInt containerEvent with
    | .ok (some payload) => (containerEvents containerEvents').map (payload :: ·)
    | .ok none => .panic
    | .error err => .error err
    | .panic => .panic

/-- `TaskStateChange.ToECSAgent`: the managed agent loop, then the container loop. -/
def TaskStateChange.toECSAgent [DecidableEq ς] {ϑ α : Type} (ma : ManagedAgentStatusApi α)
    (change : TaskStateChange ς ϑ α) : Outcome (Ecs.TaskStateChange ϑ) :=
  match managedAgentEvents ma change.managedAgents with
  | .ok managedAgents =>
    (containerEvents cs parsePortRangeToInt change.containers).map fun containers =>
      { taskARN := change.taskARN
        status := change.status
        reason := change.reason
        managedAgents := managedAgents
        containers := containers }
  | .error err => .error err
  | .panic => .panic

/-! ### What the conversions return -/

theorem not_dropped_of_kept {status : ς}
    (hstatus : status = cs.containerManifestPulled ∨ status = cs.containerStopped ∨
      status = cs.containerRunning) :
    ¬(status ≠ cs.containerManifestPulled ∧ status ≠ cs.containerStopped ∧
      status ≠ cs.containerRunning) := by
  rcases hstatus with h | h | h <;> simp [h]

/-- The payload builder returns nil exactly for a change with a name whose status is none of
    the three it keeps. -/
theorem buildContainerStateChangePayload_eq_ok_none_iff [DecidableEq ς]
    (change : ContainerStateChange ς) :
    buildContainerStateChangePayload cs parsePortRangeToInt change = .ok none ↔
      change.containerName ≠ "" ∧ change.status ≠ cs.containerManifestPulled ∧
        change.status ≠ cs.containerStopped ∧ change.status ≠ cs.containerRunning := by
  unfold buildContainerStateChangePayload
  dsimp only
  by_cases hname : change.containerName = ""
  · simp [hname]
  by_cases hdropped : change.status ≠ cs.containerManifestPulled ∧
      change.status ≠ cs.containerStopped ∧ change.status ≠ cs.containerRunning
  · simp [hname, hdropped]
  -- past both checks the builder panics, refuses the bindings, or builds a payload
  refine iff_of_false ?_ fun h => hdropped h.2
  rw [if_neg hname, if_neg hdropped]
  split
  · split_ifs <;> simp
  · simp

/-- A change with a kept status is never dropped: its payload is built or refused, or the
    builder panics. -/
theorem buildContainerStateChangePayload_ne_none [DecidableEq ς] (change : ContainerStateChange ς)
    (hstatus : change.status = cs.containerManifestPulled ∨ change.status = cs.containerStopped ∨
      change.status = cs.containerRunning) :
    buildContainerStateChangePayload cs parsePortRangeToInt change ≠ .ok none := fun h =>
  not_dropped_of_kept cs hstatus
    ((buildContainerStateChangePayload_eq_ok_none_iff cs parsePortRangeToInt change).mp h).2

/-- The payload builder panics exactly for a change with a name and a kept status that has no
    container. -/
theorem buildContainerStateChangePayload_eq_panic_iff [DecidableEq ς]
    (change : ContainerStateChange ς) :
    buildContainerStateChangePayload cs parsePortRangeToInt change = .panic ↔
      change.containerName ≠ "" ∧
        ¬(change.status ≠ cs.containerManifestPulled ∧ change.status ≠ cs.containerStopped ∧
          change.status ≠ cs.containerRunning) ∧ change.container = none := by
  unfold buildContainerStateChangePayload
  dsimp only
  by_cases hname : change.containerName = ""
  · simp [hname]
  by_cases hdropped : change.status ≠ cs.containerManifestPulled ∧
      change.status ≠ cs.containerStopped ∧ change.status ≠ cs.containerRunning
  · simp [hname, hdropped]
  rw [if_neg hname, if_neg hdropped]
  cases hcontainer : change.container
  · simp [getNetworkBindings, hcontainer, hname, hdropped]
  · simp only [getNetworkBindings, hcontainer]
    split_ifs <;> simp

/-- A change with a name makes the payload builder return nil or panic exactly when its status
    is dropped or it has no container. -/
theorem buildContainerStateChangePayload_eq_none_or_panic_iff [DecidableEq ς]
    (change : ContainerStateChange ς) :
    (buildContainerStateChangePayload cs parsePortRangeToInt change = .ok none ∨
        buildContainerStateChangePayload cs parsePortRangeToInt change = .panic) ↔
      change.containerName ≠ "" ∧
        ((change.status ≠ cs.containerManifestPulled ∧ change.status ≠ cs.containerStopped ∧
          change.status ≠ cs.containerRunning) ∨ change.container = none) := by
  rw [buildContainerStateChangePayload_eq_ok_none_iff, buildContainerStateChangePayload_eq_panic_iff]
  constructor
  · rintro (⟨hname, hdropped⟩ | ⟨hname, -, hnone⟩)
    exacts [⟨hname, .inl hdropped⟩, ⟨hname, .inr hnone⟩]
  · rintro ⟨hname, hdropped | hnone⟩
    · exact .inl ⟨hname, hdropped⟩
    · by_cases hdropped : change.status ≠ cs.containerManifestPulled ∧
        change.status ≠ cs.containerStopped ∧ change.status ≠ cs.containerRunning
      exacts [.inl ⟨hname, hdropped⟩, .inr ⟨hname, hdropped, hnone⟩]

/-- The payload of a change with a name, a kept status, a container, and no more network
    bindings than the backend takes. -/
theorem buildContainerStateChangePayload_eq_some [DecidableEq ς] (change : ContainerStateChange ς)
    {container : Container ς} (hname : change.containerName ≠ "")
    (hstatus : change.status = cs.containerManifestPulled ∨ change.status = cs.containerStopped ∨
      change.status = cs.containerRunning)
    (hcontainer : change.container = some container)
    (hbindings : container.hasPortRange = false ∨
      (networkBindingsOf parsePortRangeToInt container change.portBindings).length ≤
        ecsMaxNetworkBindingsLength) :
    buildContainerStateChangePayload cs parsePortRangeToInt change = .ok (some
      { containerName := some change.containerName
        runtimeId := optionalString change.runtimeID
        reason := optionalString change.reason
        imageDigest := optionalString change.imageDigest
        status := some (cs.backendStatusString
          (if cs.string change.status = "DEAD" then cs.containerStopped else change.status))
        exitCode := change.exitCode.map toInt32
        networkBindings := networkBindingsOf parsePortRangeToInt container change.portBindings }) := by
  have hfew : ¬(container.hasPortRange = true ∧
      (networkBindingsOf parsePortRangeToInt container change.portBindings).length >
        ecsMaxNetworkBindingsLength) := by
    rcases hbindings with h | h <;> simp [h]
  simp only [buildContainerStateChangePayload, if_neg hname, if_neg (not_dropped_of_kept cs hstatus),
    getNetworkBindings, hcontainer, if_neg hfew]

/-- Go visits the entries of the port range map in an order it picks at random. Whatever that
    order, the payload builder returns the same error, drops the same changes, and builds the
    same payload but for the order of its network bindings. -/
theorem buildContainerStateChangePayload_perm [DecidableEq ς] (change : ContainerStateChange ς)
    {container : Container ς} (hcontainer : change.container = some container)
    {l : List (String × String)} (hl : container.containerPortRangeMap.Perm l) :
    let change' := { change with container := some { container with containerPortRangeMap := l } }
    (∀ err, buildContainerStateChangePayload cs parsePortRangeToInt change' = .error err ↔
        buildContainerStateChangePayload cs parsePortRangeToInt change = .error err) ∧
      (buildContainerStateChangePayload cs parsePortRangeToInt change' = .ok none ↔
        buildContainerStateChangePayload cs parsePortRangeToInt change = .ok none) ∧
      ∀ pl, buildContainerStateChangePayload cs parsePortRangeToInt change = .ok (some pl) →
        ∃ networkBindings, networkBindings.Perm pl.networkBindings ∧
          buildContainerStateChangePayload cs parsePortRangeToInt change' =
            .ok (some { pl with networkBindings := networkBindings }) := by
  intro change'
  have hperm := networkBindingsOf_perm parsePortRangeToInt container change.portBindings hl
  -- the checks read the bindings only through their count, which the reordering keeps
  simp only [buildContainerStateChangePayload, change', getNetworkBindings, hcontainer,
    hperm.length_eq]
  by_cases hname : change.containerName = ""
  · simp [hname]
  by_cases hdropped : ¬change.status = cs.containerManifestPulled ∧
      ¬change.status = cs.containerStopped ∧ ¬change.status = cs.containerRunning
  · simp [hname, hdropped]
  by_cases hmany : container.hasPortRange = true ∧ ecsMaxNetworkBindingsLength <
      (networkBindingsOf parsePortRangeToInt container change.portBindings).length
  · simp [hname, hdropped, hmany]
  · simp [hname, hdropped, hmany, hperm]

/-- A running container with two port ranges, whose map entries are visited in either order. -/
theorem buildContainerStateChangePayload_perm_swapped :
    let cs : ContainerStatusApi Nat := ⟨0, 1, 4, 6, fun k s => k == s || k == 6, toString, toString⟩
    let parsePortRangeToInt : String → Int := fun r => if r = "9000-9001" then 9000 else 9100
    let container : Container Nat := ⟨"web", false, 4, 4, 1, true, none, "id", none, [], "sha",
      true, [], [("8000-8001", "9000-9001"), ("8100-8101", "9100-9101")]⟩
    let change : ContainerStateChange Nat := ⟨"task", "id", "web", 4, "sha", "", none,
      [⟨8000, 9000, "0.0.0.0", "tcp"⟩, ⟨8100, 9100, "::", "udp"⟩], some container⟩
    let l := [("8100-8101", "9100-9101"), ("8000-8001", "9000-9001")]
    let change' := { change with container := some { container with containerPortRangeMap := l } }
    change.container = some container ∧ container.containerPortRangeMap.Perm l ∧
      (∀ err, buildContainerStateChangePayload cs parsePortRangeToInt change' = .error err ↔
          buildContainerStateChangePayload cs parsePortRangeToInt change = .error err) ∧
      (buildContainerStateChangePayload cs parsePortRangeToInt change' = .ok none ↔
          buildContainerStateChangePayload cs parsePortRangeToInt change = .ok none) ∧
      ∀ pl, buildContainerStateChangePayload cs parsePortRangeToInt change = .ok (some pl) →
        ∃ networkBindings, networkBindings.Perm pl.networkBindings ∧
          buildContainerStateChangePayload cs parsePortRangeToInt change' =
            .ok (some { pl with networkBindings := networkBindings }) :=
  ⟨rfl, List.Perm.swap _ _ _,
    buildContainerStateChangePayload_perm _ _ _ rfl (List.Perm.swap _ _ _)⟩

/-- In a list with a head, an element with `Q` after elements with `P` is the head, or comes
    after a head with `P`. -/
theorem exists_append_cons_iff {β : Type} (P Q : β → Prop) (b : β) (l : List β) :
    (∃ pre x post, b :: l = pre ++ x :: post ∧ (∀ y ∈ pre, P y) ∧ Q x) ↔
      Q b ∨ (P b ∧ ∃ pre x post, l = pre ++ x :: post ∧ (∀ y ∈ pre, P y) ∧ Q x) := by
  constructor
  · rintro ⟨_ | ⟨y, pre⟩, x, post, heq, hpre, hx⟩ <;>
      simp only [List.nil_append, List.cons_append, List.cons.injEq] at heq
    · exact .inl (heq.1 ▸ hx)
    · obtain ⟨rfl, rfl⟩ := heq
      exact .inr ⟨hpre b (List.mem_cons_self _ _), pre, x, post, rfl,
        fun z hz => hpre z (List.mem_cons_of_mem _ hz), hx⟩
  · rintro (hb | ⟨hb, pre, x, post, rfl, hpre, hx⟩)
    · exact ⟨[], b, l, rfl, by simp, hb⟩
    · refine ⟨b :: pre, x, post, rfl, ?_, hx⟩
      simpa [hb] using hpre

/-- The container loop panics exactly when the first change without a payload is one the
    builder drops or panics on. -/
theorem containerEvents_eq_panic_iff [DecidableEq ς] (changes : List (ContainerStateChange ς)) :
    containerEvents cs parsePortRangeToInt changes = .panic ↔
      ∃ pre change post, changes = pre ++ change :: post ∧
        (∀ c ∈ pre, ∃ payload,
          buildContainerStateChangePayload cs parsePortRangeToInt c = .ok (some payload)) ∧
        (buildContainerStateChangePayload cs parsePortRangeToInt change = .ok none ∨
          buildContainerStateChangePayload cs parsePortRangeToInt change = .panic) := by
  induction changes with
  | nil => simp [containerEvents]
  | cons c changes ih =>
    rw [containerEvents, exists_append_cons_iff, ← ih]
    -- a payload goes on; a nil payload or a panic panics; an error comes first and stops
    rcases buildContainerStateChangePayload cs parsePortRangeToInt c with (_ | payload) | err | _ <;>
      simp

/-- If every container change has a payload, the container loop returns them all, in order. -/
theorem containerEvents_eq_ok [DecidableEq ς] (changes : List (ContainerStateChange ς))
    (h : ∀ c ∈ changes, ∃ payload,
      buildContainerStateChangePayload cs parsePortRangeToInt c = .ok (some payload)) :
    ∃ payloads, containerEvents cs parsePortRangeToInt changes = .ok payloads ∧
      List.Forall₂ (fun c payload =>
        buildContainerStateChangePayload cs parsePortRangeToInt c = .ok (some payload))
        changes payloads := by
  induction changes with
  | nil => exact ⟨[], rfl, .nil⟩
  | cons c changes ih =>
    obtain ⟨payload, hc⟩ := h c (List.mem_cons_self _ _)
    obtain ⟨payloads, hrest, hrel⟩ := ih fun c' hc' => h c' (List.mem_cons_of_mem _ hc')
    exact ⟨payload :: payloads, by rw [containerEvents, hc, hrest]; rfl, .cons hc hrel⟩

/-- A container change whose status is none, with the statuses numbered as the order of the
    enumeration, makes the container loop panic. -/
example :
    let cs : ContainerStatusApi Nat := ⟨0, 1, 4, 6, fun k s => k == s || k == 6, toString, toString⟩
    let cont : Container Nat := ⟨"web", false, 3, 4, 0, true, none, "id", none, [], "", false, [], []⟩
    containerEvents cs (fun _ => 0) [⟨"task", "id", "web", 0, "", "", none, [], some cont⟩] =
      .panic := by
  decide

/-- A managed agent change with a container has a payload exactly when the backend takes its
    status. -/
theorem buildManagedAgentStateChangePayload_of_container {α : Type} (ma : ManagedAgentStatusApi α)
    (change : ManagedAgentStateChange ς α) {container : Container ς}
    (hcontainer : change.container = some container) :
    buildManagedAgentStateChangePayload ma change =
      .ok (if ma.shouldReportToBackend change.status then some
        { managedAgentName := change.name
          containerName := some container.name
          status := some (ma.string change.status)
          reason := some change.reason } else none) := by
  simp only [buildManagedAgentStateChangePayload, hcontainer]
  cases ma.shouldReportToBackend change.status <;> rfl

/-- A managed agent change makes its payload builder panic exactly when it has no container. -/
theorem buildManagedAgentStateChangePayload_eq_panic_iff {α : Type} (ma : ManagedAgentStatusApi α)
    (change : ManagedAgentStateChange ς α) :
    buildManagedAgentStateChangePayload ma change = .panic ↔ change.container = none := by
  cases hcontainer : change.container
  · simp [buildManagedAgentStateChangePayload, hcontainer]
  · simp [buildManagedAgentStateChangePayload_of_container ma change hcontainer]

/-- Every event `newManagedAgentChangeEvent` accepts has a payload. -/
theorem newManagedAgentChangeEvent_payload {ϑ α : Type} (ma : ManagedAgentStatusApi α)
    {getManagedAgentByName : Container ς → String → Option (ManagedAgent α)} {task : Task ς ϑ}
    {cont : Container ς} {managedAgentName reason : String} {event : ManagedAgentStateChange ς α}
    (h : newManagedAgentChangeEvent ma getManagedAgentByName task cont managedAgentName reason =
      .ok event) :
    ∃ payload, buildManagedAgentStateChangePayload ma event = .ok (some payload) := by
  obtain ⟨managedAgent, -, hshould, rfl⟩ := newManagedAgentChangeEvent_cases h
  exact ⟨_, by rw [buildManagedAgentStateChangePayload_of_container ma _ rfl, hshould, if_pos rfl]⟩

/-- The managed agent loop never returns an error. -/
theorem managedAgentEvents_ne_error {α : Type} (ma : ManagedAgentStatusApi α)
    (changes : List (ManagedAgentStateChange ς α)) (err : String) :
    managedAgentEvents ma changes ≠ .error err := by
  induction changes with
  | nil => simp [managedAgentEvents]
  | cons m changes ih =>
    rw [managedAgentEvents]
    cases hcontainer : m.container
    · simp [buildManagedAgentStateChangePayload, hcontainer]
    · rw [buildManagedAgentStateChangePayload_of_container ma m hcontainer]
      cases ma.shouldReportToBackend m.status <;> simpa using ih

/-- The managed agent loop panics exactly when one of its changes has no container. -/
theorem managedAgentEvents_eq_panic_iff {α : Type} (ma : ManagedAgentStatusApi α)
    (changes : List (ManagedAgentStateChange ς α)) :
    managedAgentEvents ma changes = .panic ↔ ∃ m ∈ changes, m.container = none := by
  induction changes with
  | nil => simp [managedAgentEvents]
  | cons m changes ih =>
    rw [managedAgentEvents]
    simp only [List.mem_cons, or_and_right, exists_or, exists_eq_left, ← ih]
    cases hcontainer : m.container
    · simp [buildManagedAgentStateChangePayload, hcontainer]
    · rw [buildManagedAgentStateChangePayload_of_container ma m hcontainer]
      cases ma.shouldReportToBackend m.status <;> simp

/-- If every managed agent change has a payload, the managed agent loop returns them all, in
    order. -/
theorem managedAgentEvents_eq_ok {α : Type} (ma : ManagedAgentStatusApi α)
    (changes : List (ManagedAgentStateChange ς α))
    (h : ∀ m ∈ changes, ∃ payload, buildManagedAgentStateChangePayload ma m = .ok (some payload)) :
    ∃ payloads, managedAgentEvents ma changes = .ok payloads ∧
      List.Forall₂ (fun m payload => buildManagedAgentStateChangePayload ma m = .ok (some payload))
        changes payloads := by
  induction changes with
  | nil => exact ⟨[], rfl, .nil⟩
  | cons m changes ih =>
    obtain ⟨payload, hm⟩ := h m (List.mem_cons_self _ _)
    obtain ⟨payloads, hrest, hrel⟩ := ih fun m' hm' => h m' (List.mem_cons_of_mem _ hm')
    exact ⟨payload :: payloads, by rw [managedAgentEvents, hm, hrest]; rfl, .cons hm hrel⟩

/-- The task conversion panics exactly when one of its two loops does. -/
theorem TaskStateChange.toECSAgent_eq_panic_iff_loops [DecidableEq ς] {ϑ α : Type}
    (ma : ManagedAgentStatusApi α) (change : TaskStateChange ς ϑ α) :
    change.toECSAgent cs parsePortRangeToInt ma = .panic ↔
      managedAgentEvents ma change.managedAgents = .panic ∨
        containerEvents cs parsePortRangeToInt change.containers = .panic := by
  unfold TaskStateChange.toECSAgent
  cases hloop : managedAgentEvents ma change.managedAgents with
  | ok => simp
  | error err => exact absurd hloop (managedAgentEvents_ne_error ma _ err)
  | panic => simp

/-- A container change with a name, a kept status, a container, and no more network bindings
    than the backend takes converts to a change that agrees with it on the task, the
    container, the runtime id, the status, the image digest, the reason and the network
    bindings; its exit code is cut to 32 bits, so it comes back unchanged exactly when it fits
    in 32 bits. -/
theorem ContainerStateChange.toECSAgent_fields [DecidableEq ς] (change : ContainerStateChange ς)
    {container : Container ς} (hname : change.containerName ≠ "")
    (hstatus : change.status = cs.containerManifestPulled ∨ change.status = cs.containerStopped ∨
      change.status = cs.containerRunning)
    (hcontainer : change.container = some container)
    (hbindings : container.hasPortRange = false ∨
      (networkBindingsOf parsePortRangeToInt container change.portBindings).length ≤
        ecsMaxNetworkBindingsLength) :
    ∃ e, change.toECSAgent cs parsePortRangeToInt = .ok (some e) ∧
      e.taskArn = change.taskArn ∧ e.containerName = change.containerName ∧
      e.runtimeID = change.runtimeID ∧ e.status = change.status ∧
      e.imageDigest = change.imageDigest ∧ e.reason = change.reason ∧
      e.networkBindings = networkBindingsOf parsePortRangeToInt container change.portBindings ∧
      e.exitCode = change.exitCode.map toInt32 ∧
      (e.exitCode = change.exitCode ↔ ∀ x ∈ change.exitCode, -2 ^ 31 ≤ x ∧ x < 2 ^ 31) := by
  simp only [ContainerStateChange.toECSAgent, buildContainerStateChangePayload_eq_some cs
    parsePortRangeToInt change hname hstatus hcontainer hbindings]
  refine ⟨_, rfl, rfl, rfl, by simp, rfl, by simp, by simp, rfl, by simp, ?_⟩
  cases change.exitCode <;> simp [toInt32_eq_self_iff]

/-- If the backend is to see only the steady state and the stop, a task change whose
    container and managed agent changes were built by `newContainerStateChangeEvent` and
    `newManagedAgentChangeEvent` converts without a panic: every change has a container, and
    the container loop never meets a nil payload. -/
theorem TaskStateChange.toECSAgent_ne_panic [LinearOrder ς] {ϑ α : Type}
    (ma : ManagedAgentStatusApi α)
    (getManagedAgentByName : Container ς → String → Option (ManagedAgent α))
    (hreport : ∀ knownStatus steadyStateStatus,
      cs.shouldReportToBackend knownStatus steadyStateStatus = true →
        knownStatus = steadyStateStatus ∨ knownStatus = cs.containerStopped)
    (change : TaskStateChange ς ϑ α)
    (hcontainers : ∀ c ∈ change.containers,
      ∃ (task : Task ς ϑ) (cont : Container ς) (reason : String),
        newContainerStateChangeEvent cs task cont reason = .ok c)
    (hmanagedAgents : ∀ m ∈ change.managedAgents,
      ∃ (task : Task ς ϑ) (cont : Container ς) (managedAgentName reason : String),
        newManagedAgentChangeEvent ma getManagedAgentByName task cont managedAgentName reason =
          .ok m) :
    change.toECSAgent cs parsePortRangeToInt ma ≠ .panic := by
  rw [Ne, TaskStateChange.toECSAgent_eq_panic_iff_loops, managedAgentEvents_eq_panic_iff,
    containerEvents_eq_panic_iff]
  rintro (⟨m, hm, hnone⟩ | ⟨pre, c, post, hsplit, -, hnone | hpanic⟩)
  · -- a managed agent event holds the container it was built from
    obtain ⟨_, _, _, _, hm'⟩ := hmanagedAgents m hm
    obtain ⟨_, -, -, rfl⟩ := newManagedAgentChangeEvent_cases hm'
    cases hnone
  all_goals obtain ⟨_, _, _, hc⟩ := hcontainers c (by simp [hsplit])
  · exact buildContainerStateChangePayload_ne_none cs parsePortRangeToInt c
      (newContainerStateChangeEvent_status cs hreport hc) hnone
  · simpa [newContainerStateChangeEvent_container cs hc] using
      ((buildContainerStateChangePayload_eq_panic_iff cs parsePortRangeToInt c).mp hpanic).2.2

/-- A task change holding the change accepted for a stopped container and the managed agent
    of that container. -/
theorem TaskStateChange.toECSAgent_ne_panic_stopped :
    let cs : ContainerStatusApi Nat := ⟨0, 1, 4, 6, fun k s => k == s || k == 6, toString, toString⟩
    let ma : ManagedAgentStatusApi Nat := ⟨fun s => s == 1, toString⟩
    let get : Container Nat → String → Option (ManagedAgent Nat) := fun _ name => some ⟨name, 1⟩
    let cont : Container Nat := ⟨"web", false, 6, 4, 4, true, none, "id", some 0, [], "sha", false,
      [], []⟩
    let change : TaskStateChange Nat Nat Nat :=
      ⟨"task", 5, "", [⟨"task", "id", "web", 6, "sha", "", some 0, [], some cont⟩],
        [⟨"task", "ExecuteCommandAgent", some cont, 1, ""⟩]⟩
    (∀ knownStatus steadyStateStatus,
      cs.shouldReportToBackend knownStatus steadyStateStatus = true →
        knownStatus = steadyStateStatus ∨ knownStatus = cs.containerStopped) ∧
    (∀ c ∈ change.containers,
      ∃ (task : Task Nat Nat) (cont : Container Nat) (reason : String),
        newContainerStateChangeEvent cs task cont reason = .ok c) ∧
    (∀ m ∈ change.managedAgents,
      ∃ (task : Task Nat Nat) (cont : Container Nat) (managedAgentName reason : String),
        newManagedAgentChangeEvent ma get task cont managedAgentName reason = .ok m) ∧
    change.toECSAgent cs (fun _ => 0) ma ≠ .panic := by
  intro cs ma get cont change
  let task : Task Nat Nat := ⟨"task", false, 5, 3, true, false, false, Except.ok⟩
  have hreport : ∀ knownStatus steadyStateStatus,
      cs.shouldReportToBackend knownStatus steadyStateStatus = true →
        knownStatus = steadyStateStatus ∨ knownStatus = cs.containerStopped := by
    intro k s h
    simpa [cs] using h
  have hcontainers : ∀ c ∈ change.containers,
      ∃ (task : Task Nat Nat) (cont : Container Nat) (reason : String),
        newContainerStateChangeEvent cs task cont reason = .ok c := by
    intro c hc
    simp only [change, List.mem_singleton] at hc
    exact ⟨task, cont, "", hc ▸ rfl⟩
  have hmanagedAgents : ∀ m ∈ change.managedAgents,
      ∃ (task : Task Nat Nat) (cont : Container Nat) (managedAgentName reason : String),
        newManagedAgentChangeEvent ma get task cont managedAgentName reason = .ok m := by
    intro m hm
    simp only [change, List.mem_singleton] at hm
    exact ⟨task, cont, "ExecuteCommandAgent", "", hm ▸ rfl⟩
  exact ⟨hreport, hcontainers, hmanagedAgents, TaskStateChange.toECSAgent_ne_panic cs (fun _ => 0)
    ma get hreport change hcontainers hmanagedAgents⟩

/-- A task event accepted by `newTaskStateChangeEvent`, given container changes accepted by
    `newContainerStateChangeEvent` that have a name and no more network bindings than the
    backend takes, and managed agent changes accepted by `newManagedAgentChangeEvent`,
    converts: the result carries the task's ARN and status and the reason, the payload of
    every managed agent change, in order, and the payload of every container change, in
    order. -/
theorem TaskStateChange.toECSAgent_eq_ok [LinearOrder ς] {ϑ α : Type} [LinearOrder ϑ]
    (ts : TaskStatusApi ϑ) (ma : ManagedAgentStatusApi α)
    (getManagedAgentByName : Container ς → String → Option (ManagedAgent α))
    (hreport : ∀ knownStatus steadyStateStatus,
      cs.shouldReportToBackend knownStatus steadyStateStatus = true →
        knownStatus = steadyStateStatus ∨ knownStatus = cs.containerStopped)
    (task : Task ς ϑ) (reason : String) (event : TaskStateChange ς ϑ α)
    (hevent : newTaskStateChangeEvent ts task reason = .ok event)
    (containers : List (ContainerStateChange ς))
    (hcontainers : ∀ c ∈ containers,
      (∃ (task : Task ς ϑ) (cont : Container ς) (reason : String),
        newContainerStateChangeEvent cs task cont reason = .ok c) ∧
      c.containerName ≠ "" ∧
      ∀ container ∈ c.container, container.hasPortRange = false ∨
        (networkBindingsOf parsePortRangeToInt container c.portBindings).length ≤
          ecsMaxNetworkBindingsLength)
    (managedAgents : List (ManagedAgentStateChange ς α))
    (hmanagedAgents : ∀ m ∈ managedAgents,
      ∃ (task : Task ς ϑ) (cont : Container ς) (managedAgentName reason : String),
        newManagedAgentChangeEvent ma getManagedAgentByName task cont managedAgentName reason =
          .ok m) :
    ∃ out, ({ event with containers := containers, managedAgents := managedAgents } :
        TaskStateChange ς ϑ α).toECSAgent cs parsePortRangeToInt ma = .ok out ∧
      out.taskARN = task.arn ∧ out.status = task.knownStatus ∧ out.reason = reason ∧
      List.Forall₂ (fun m payload =>
        buildManagedAgentStateChangePayload ma m = .ok (some payload))
        managedAgents out.managedAgents ∧
      List.Forall₂ (fun c payload =>
        buildContainerStateChangePayload cs parsePortRangeToInt c = .ok (some payload))
        containers out.containers := by
  obtain ⟨-, -, -, rfl⟩ := newTaskStateChangeEvent_eq_ok_iff.mp hevent
  have hpayloads : ∀ c ∈ containers, ∃ payload,
      buildContainerStateChangePayload cs parsePortRangeToInt c = .ok (some payload) := by
    intro c hc
    obtain ⟨⟨_, cont, _, hc'⟩, hname, hbindings⟩ := hcontainers c hc
    have hcontainer := newContainerStateChangeEvent_container cs hc'
    exact ⟨_, buildContainerStateChangePayload_eq_some cs parsePortRangeToInt c hname
      (newContainerStateChangeEvent_status cs hreport hc') hcontainer (hbindings cont hcontainer)⟩
  obtain ⟨mgspls, hmanaged, hmrel⟩ := managedAgentEvents_eq_ok ma managedAgents fun m hm => by
    obtain ⟨_, _, _, _, hm'⟩ := hmanagedAgents m hm
    exact newManagedAgentChangeEvent_payload ma hm'
  obtain ⟨payloads, hloop, hrel⟩ := containerEvents_eq_ok cs parsePortRangeToInt containers hpayloads
  simp only [TaskStateChange.toECSAgent, hmanaged, hloop, Outcome.map_ok, Outcome.ok.injEq,
    exists_eq_left', true_and]
  exact ⟨hmrel, hrel⟩

/-- A running task with one stopped container and the managed agent of that container. -/
theorem TaskStateChange.toECSAgent_eq_ok_stopped :
    let cs : ContainerStatusApi Nat := ⟨0, 1, 4, 6, fun k s => k == s || k == 6, toString, toString⟩
    let ts : TaskStatusApi Nat := ⟨1, fun s => decide (2 ≤ s), toString⟩
    let ma : ManagedAgentStatusApi Nat := ⟨fun s => s == 1, toString⟩
    let get : Container Nat → String → Option (ManagedAgent Nat) := fun _ name => some ⟨name, 1⟩
    let task : Task Nat Nat := ⟨"task", false, 5, 3, true, false, false, Except.ok⟩
    let cont : Container Nat := ⟨"web", false, 6, 4, 4, true, none, "id", some 0, [], "sha", false,
      [], []⟩
    let event : TaskStateChange Nat Nat Nat := ⟨"task", 5, "", [], []⟩
    let containers : List (ContainerStateChange Nat) :=
      [⟨"task", "id", "web", 6, "sha", "", some 0, [], some cont⟩]
    let managedAgents : List (ManagedAgentStateChange Nat Nat) :=
      [⟨"task", "ExecuteCommandAgent", some cont, 1, ""⟩]
    (∀ knownStatus steadyStateStatus,
      cs.shouldReportToBackend knownStatus steadyStateStatus = true →
        knownStatus = steadyStateStatus ∨ knownStatus = cs.containerStopped) ∧
    newTaskStateChangeEvent ts task "" = .ok event ∧
    (∀ c ∈ containers,
      (∃ (task : Task Nat Nat) (cont : Container Nat) (reason : String),
        newContainerStateChangeEvent cs task cont reason = .ok c) ∧
      c.containerName ≠ "" ∧
      ∀ container ∈ c.container, container.hasPortRange = false ∨
        (networkBindingsOf (fun _ => 0) container c.portBindings).length ≤
          ecsMaxNetworkBindingsLength) ∧
    (∀ m ∈ managedAgents,
      ∃ (task : Task Nat Nat) (cont : Container Nat) (managedAgentName reason : String),
        newManagedAgentChangeEvent ma get task cont managedAgentName reason = .ok m) ∧
    ∃ out, ({ event with containers := containers, managedAgents := managedAgents } :
        TaskStateChange Nat Nat Nat).toECSAgent cs (fun _ => 0) ma = .ok out ∧
      out.taskARN = task.arn ∧ out.status = task.knownStatus ∧ out.reason = "" ∧
      List.Forall₂ (fun m payload =>
        buildManagedAgentStateChangePayload ma m = .ok (some payload))
        managedAgents out.managedAgents ∧
      List.Forall₂ (fun c payload =>
        buildContainerStateChangePayload cs (fun _ => 0) c = .ok (some payload))
        containers out.containers := by
  intro cs ts ma get task cont event containers managedAgents
  have hreport : ∀ knownStatus steadyStateStatus,
      cs.shouldReportToBackend knownStatus steadyStateStatus = true →
        knownStatus = steadyStateStatus ∨ knownStatus = cs.containerStopped := by
    intro k s h
    simpa [cs] using h
  have hcontainers : ∀ c ∈ containers,
      (∃ (task : Task Nat Nat) (cont : Container Nat) (reason : String),
        newContainerStateChangeEvent cs task cont reason = .ok c) ∧
      c.containerName ≠ "" ∧
      ∀ container ∈ c.container, container.hasPortRange = false ∨
        (networkBindingsOf (fun _ => 0) container c.portBindings).length ≤
          ecsMaxNetworkBindingsLength := by
    intro c hc
    simp only [containers, List.mem_singleton] at hc
    subst hc
    refine ⟨⟨task, cont, "", rfl⟩, by decide, fun container hcontainer => .inl ?_⟩
    cases hcontainer
    rfl
  have hmanagedAgents : ∀ m ∈ managedAgents,
      ∃ (task : Task Nat Nat) (cont : Container Nat) (managedAgentName reason : String),
        newManagedAgentChangeEvent ma get task cont managedAgentName reason = .ok m := by
    intro m hm
    simp only [managedAgents, List.mem_singleton] at hm
    exact ⟨task, cont, "ExecuteCommandAgent", "", hm ▸ rfl⟩
  exact ⟨hreport, rfl, hcontainers, hmanagedAgents,
    TaskStateChange.toECSAgent_eq_ok cs (fun _ => 0) ts ma get hreport task "" event (by rfl) containers
      hcontainers managedAgents hmanagedAgents⟩

/-- The task conversion panics exactly when a managed agent change has no container, or when,
    among its container changes, the first one the payload builder returns no payload for has
    a name and either a status the builder drops (none of a manifest pull, a stop and running)
    or no container. -/
theorem TaskStateChange.toECSAgent_eq_panic_iff [DecidableEq ς] {ϑ α : Type}
    (ma : ManagedAgentStatusApi α) (change : TaskStateChange ς ϑ α) :
    change.toECSAgent cs parsePortRangeToInt ma = .panic ↔
      (∃ m ∈ change.managedAgents, m.container = none) ∨
      ∃ pre c post, change.containers = pre ++ c :: post ∧
        (∀ c' ∈ pre, ∃ payload,
          buildContainerStateChangePayload cs parsePortRangeToInt c' = .ok (some payload)) ∧
        c.containerName ≠ "" ∧
        ((c.status ≠ cs.containerManifestPulled ∧ c.status ≠ cs.containerStopped ∧
          c.status ≠ cs.containerRunning) ∨ c.container = none) := by
  simp only [TaskStateChange.toECSAgent_eq_panic_iff_loops, managedAgentEvents_eq_panic_iff,
    containerEvents_eq_panic_iff, buildContainerStateChangePayload_eq_none_or_panic_iff]

end Api

end EcsAgent
