import Mathlib.Data.List.Basic

/-!
# Publishing the Instance Status

`publishInstanceStatus` is the client's second loop. On every tick of its ticker it asks
the doctor whether the instance status has been reported; if not, `publishInstanceStatusOnce`
builds a publish-instance-status request from the doctor's health checks and makes it, and a
request that goes through marks the status reported. The doctor, which is not among the
sources, runs the health checks and clears the mark when the status should be sent again.

The doctor is modelled by what the client reads and writes of it: its cluster and container
instance, its health checks as their getters return them, and the reported mark. It runs
in its own goroutine and may change between ticks; every theorem here starts from any
state, so a run across such a change is two runs, the second from the changed state. A
tick carries what the client cannot compute: the fresh request id (`uuid.NewRandom`) and
what `MakeRequest` returns if it is called. The timestamps of the request are read by
nothing here and are left out.

`getInstanceStatuses` starts from a nil slice and appends to it, so it returns nil exactly
when the doctor has no health checks. `getPublishInstanceStatusRequest` tests for nil, and
the model keeps nil apart from the empty slice with `Option`.

`publishInstanceStatusOnce` marks the status reported after a request goes through, and
the loop marks it again when `publishInstanceStatusOnce` returns no error; the second mark
changes nothing (`setStatusReported_publishInstanceStatusOnce`).

## Main definitions

* `Doctor`, `Healthcheck`: What the client reads and writes of the doctor.
* `getInstanceStatuses`, `getPublishInstanceStatusRequest`: The request from the health
  checks.
* `publishInstanceStatusOnce`: Build the request and make it.
* `instanceStatusStep`, `publishInstanceStatus`: The loop over the ticks.
* `RetriedUntilSuccess`: Requests that fail, then at most one that goes through.

## Theorems

* `getPublishInstanceStatusRequest_eq`: The request fails exactly when the doctor has no
  health checks, and otherwise carries one status per health check, in order.
* `instanceStatusStep_cases`: Everything a tick can do.
* `instanceStatusStep_calls`: A tick appends to the calls before it and does not read them.
* `publishInstanceStatus_retries`: While the doctor does not change, the loop's requests fail
  until one goes through and then stop, none are made once the status is reported, and
  the mark ends set exactly when a request went through.
* `publishInstanceStatus_reports`: A tick at which `MakeRequest` succeeds gets the status
  reported, if the doctor has a health check.
-/

namespace EcsAgent

namespace Tcs

variable {θ : Type}

/-- A health check of the doctor, as its getters return it; the status is its `String()`. -/
structure Healthcheck (θ : Type) where
  statusChangeTime : θ
  lastHealthcheckTime : θ
  healthcheckStatus : String
  healthcheckType : String
  deriving DecidableEq, Repr

/-- The doctor, as the client reads and writes it. -/
structure Doctor (θ : Type) where
  cluster : String
  containerInstanceArn : String
  healthchecks : List (Healthcheck θ)
  statusReported : Bool
  deriving DecidableEq, Repr

/-- One instance status of a publish-instance-status request. -/
structure InstanceStatus (θ : Type) where
  lastStatusChange : θ
  lastUpdated : θ
  status : String
  type : String
  deriving DecidableEq, Repr

/-- The metadata of a publish-instance-status request. -/
structure InstanceStatusMetadata where
  cluster : String
  containerInstance : String
  requestId : String
  deriving DecidableEq, Repr

/-- A publish-instance-status request. -/
structure PublishInstanceStatusRequest (θ : Type) where
  metadata : InstanceStatusMetadata
  statuses : List (InstanceStatus θ)
  deriving DecidableEq, Repr

/-- The errors of `publishInstanceStatusOnce`: the doctor's `EmptyHealthcheckError`, or the
    error `MakeRequest` returned. -/
inductive InstanceStatusError
  | emptyHealthcheckError
  | makeRequest (err : String)
  deriving DecidableEq, Repr

/-- Go's `append` on a slice that may be nil: appending to nil makes a slice of one. -/
def appendSlice {α : Type} : Option (List α) → α → Option (List α)
  | none, x => some [x]
  | some xs, x => some (xs ++ [x])

/-- The instance status the loop of `getInstanceStatuses` builds of a health check. -/
def Healthcheck.instanceStatus (healthcheck : Healthcheck θ) : InstanceStatus θ :=
  { lastStatusChange := healthcheck.statusChangeTime
    lastUpdated := healthcheck.lastHealthcheckTime
    status := healthcheck.healthcheckStatus
    type := healthcheck.healthcheckType }

/-- `getInstanceStatuses`: from a nil slice, append the status of each health check. -/
def getInstanceStatuses (doctor : Doctor θ) : Option (List (InstanceStatus θ)) :=
  doctor.healthchecks.foldl
    (fun instanceStatuses healthcheck => appendSlice instanceStatuses healthcheck.instanceStatus)
    none

/-- `getPublishInstanceStatusRequest`, with the fresh request id given. -/
def getPublishInstanceStatusRequest (doctor : Doctor θ) (requestId : String) :
    Except InstanceStatusError (PublishInstanceStatusRequest θ) :=
  let metadata : InstanceStatusMetadata :=
    { cluster := doctor.cluster
      containerInstance := doctor.containerInstanceArn
      requestId := requestId }
  match getInstanceStatuses doctor with
  | none => .error .emptyHealthcheckError
  | some instanceStatuses => .ok { metadata := metadata, statuses := instanceStatuses }

/-- The loop's state: the doctor, and the requests made on the connection, each with what
    `MakeRequest` returned. -/
structure InstanceStatusState (θ : Type) where
  doctor : Doctor θ
  calls : List (PublishInstanceStatusRequest θ × Option String)

/-- A tick of the ticker, with the fresh request id and what `MakeRequest` returns if it is
    called. -/
structure InstanceStatusTick where
  requestId : String
  result : Option String
  deriving DecidableEq, Repr

/-- `doctor.SetStatusReported`. -/
def InstanceStatusState.setStatusReported (s : InstanceStatusState θ) (reported : Bool) :
    InstanceStatusState θ :=
  { s with doctor := { s.doctor with statusReported := reported } }

/-- `publishInstanceStatusOnce`: build the request, make it, and mark the status reported
    if it went through. -/
def publishInstanceStatusOnce (s : InstanceStatusState θ) (tick : InstanceStatusTick) :
    InstanceStatusState θ × Option InstanceStatusError :=
  match getPublishInstanceStatusRequest s.doctor tick.requestId with
  | .error err => (s, some err)
  | .ok request =>
    match tick.result with
    | some err => ({ s with calls := s.calls ++ [(request, some err)] }, some (.makeRequest err))
    | none => (({ s with calls := s.calls ++ [(request, none)] }).setStatusReported true, none)

/-- One tick of `publishInstanceStatus`: unless the status is reported, publish it, log an
    error, and otherwise mark the status reported. -/
def instanceStatusStep (s : InstanceStatusState θ) (tick : InstanceStatusTick) :
    InstanceStatusState θ :=
  if !s.doctor.statusReported then
    match publishInstanceStatusOnce s tick with
    | (s', some _) => s'
    | (s', none) => s'.setStatusReported true
  else s

/-- `publishInstanceStatus`, over the ticks before the context is done. Without a ticker it
    returns at once. -/
def publishInstanceStatus (pullInstanceStatusTicker : Bool) (s : InstanceStatusState θ)
    (ticks : List InstanceStatusTick) : InstanceStatusState θ :=
  if pullInstanceStatusTicker then ticks.foldl instanceStatusStep s else s

/-- Requests that fail, then at most one that goes through. -/
def RetriedUntilSuccess {ρ : Type} (calls : List (ρ × Option String)) : Prop :=
  ∃ failed last, calls = failed ++ last ∧ (∀ c ∈ failed, c.2.isSome) ∧
    (last = [] ∨ ∃ r, last = [(r, none)])

/-! ### The request -/

theorem foldl_appendSlice {α β : Type} (f : α → β) (l : List α) (acc : Option (List β)) :
    l.foldl (fun a x => appendSlice a (f x)) acc =
      if l.isEmpty then acc else some (acc.getD [] ++ l.map f) := by
  induction l generalizing acc with
  | nil => rfl
  | cons x xs ih =>
    rw [List.foldl_cons, ih]
    cases acc <;> cases xs <;> simp [appendSlice]

/-- `getPublishInstanceStatusRequest` fails with `EmptyHealthcheckError` exactly when the
    doctor has no health checks; otherwise the request carries the doctor's cluster and
    container instance, the request id, and one status per health check, in order. -/
theorem getPublishInstanceStatusRequest_eq (doctor : Doctor θ) (requestId : String) :
    getPublishInstanceStatusRequest doctor requestId =
      if doctor.healthchecks.isEmpty then Except.error .emptyHealthcheckError
      else Except.ok ⟨⟨doctor.cluster, doctor.containerInstanceArn, requestId⟩,
        doctor.healthchecks.map Healthcheck.instanceStatus⟩ := by
  unfold getPublishInstanceStatusRequest getInstanceStatuses
  rw [foldl_appendSlice]
  split <;> simp_all

/-! ### The loop -/

/-- The request a tick makes of a doctor with health checks. -/
def instanceStatusRequest (doctor : Doctor θ) (requestId : String) :
    PublishInstanceStatusRequest θ :=
  ⟨⟨doctor.cluster, doctor.containerInstanceArn, requestId⟩,
    doctor.healthchecks.map Healthcheck.instanceStatus⟩

/-- The loop marks the status reported after `publishInstanceStatusOnce` returned no error,
    which has marked it already: the second mark changes nothing. -/
theorem setStatusReported_publishInstanceStatusOnce (s : InstanceStatusState θ)
    (tick : InstanceStatusTick) (h : (publishInstanceStatusOnce s tick).2 = none) :
    (publishInstanceStatusOnce s tick).1.setStatusReported true =
      (publishInstanceStatusOnce s tick).1 := by
  unfold publishInstanceStatusOnce at h ⊢
  split at h
  · simp at h
  · split at h
    · simp at h
    · rfl

/-- Everything a tick can do: nothing, once the status is reported or when the doctor has
    no health checks; otherwise make the request, which either fails and leaves the status
    unreported or goes through and marks it. -/
theorem instanceStatusStep_cases (s : InstanceStatusState θ) (tick : InstanceStatusTick) :
    (instanceStatusStep s tick = s ∧
        (s.doctor.statusReported = true ∨ s.doctor.healthchecks = [])) ∨
      (s.doctor.statusReported = false ∧ s.doctor.healthchecks ≠ [] ∧
        ∃ err, tick.result = some err ∧ instanceStatusStep s tick =
          { s with calls := s.calls ++ [(instanceStatusRequest s.doctor tick.requestId, some err)] }) ∨
      (s.doctor.statusReported = false ∧ s.doctor.healthchecks ≠ [] ∧ tick.result = none ∧
        instanceStatusStep s tick =
          ({ s with calls := s.calls ++ [(instanceStatusRequest s.doctor tick.requestId, none)] }).setStatusReported
            true) := by
  unfold instanceStatusStep
  cases hr : s.doctor.statusReported
  · by_cases hh : s.doctor.healthchecks = []
    · left
      simp [publishInstanceStatusOnce, getPublishInstanceStatusRequest_eq, hh]
    · right
      obtain ⟨requestId, _ | err⟩ := tick
      · right
        simp [publishInstanceStatusOnce, getPublishInstanceStatusRequest_eq, hh,
          instanceStatusRequest, InstanceStatusState.setStatusReported]
      · left
        simp [publishInstanceStatusOnce, getPublishInstanceStatusRequest_eq, hh,
          instanceStatusRequest]
  · left
    simp

theorem RetriedUntilSuccess.cons_failed {ρ : Type} {calls : List (ρ × Option String)}
    (h : RetriedUntilSuccess calls) (r : ρ) (err : String) :
    RetriedUntilSuccess ((r, some err) :: calls) := by
  obtain ⟨failed, last, rfl, hfailed, hlast⟩ := h
  refine ⟨(r, some err) :: failed, last, rfl, ?_, hlast⟩
  simp only [List.mem_cons, forall_eq_or_imp]
  exact ⟨rfl, hfailed⟩

/-- Once the status is reported, the ticks change nothing. -/
theorem foldl_instanceStatusStep_of_reported (s : InstanceStatusState θ)
    (hs : s.doctor.statusReported = true) (ticks : List InstanceStatusTick) :
    ticks.foldl instanceStatusStep s = s := by
  induction ticks with
  | nil => rfl
  | cons t ts ih => rwa [List.foldl_cons, show instanceStatusStep s t = s by simp [instanceStatusStep, hs]]

/-- A tick appends its request to the calls made before and reads nothing of them: from any
    calls it does what it does from none. -/
theorem instanceStatusStep_calls (doctor : Doctor θ)
    (calls : List (PublishInstanceStatusRequest θ × Option String)) (tick : InstanceStatusTick) :
    instanceStatusStep ⟨doctor, calls⟩ tick =
      ⟨(instanceStatusStep ⟨doctor, []⟩ tick).doctor,
        calls ++ (instanceStatusStep ⟨doctor, []⟩ tick).calls⟩ := by
  unfold instanceStatusStep publishInstanceStatusOnce
  cases getPublishInstanceStatusRequest doctor tick.requestId <;> cases tick.result <;>
    cases doctor.statusReported <;> simp [InstanceStatusState.setStatusReported]

/-- While the doctor does not change, the requests the loop makes fail until one goes
    through, and then no more are made; none are made once the status is reported or when
    the doctor has no health checks; each carries the doctor's data; and the doctor is left
    as it was but for the mark, which ends set exactly when it was set or a request went
    through. -/
theorem publishInstanceStatus_retries (s : InstanceStatusState θ)
    (ticks : List InstanceStatusTick) :
    ∃ added, (publishInstanceStatus true s ticks).calls = s.calls ++ added ∧
      RetriedUntilSuccess added ∧
      ((s.doctor.statusReported = true ∨ s.doctor.healthchecks = []) → added = []) ∧
      (∀ c ∈ added, ∃ requestId, c.1 = instanceStatusRequest s.doctor requestId) ∧
      (publishInstanceStatus true s ticks).doctor =
        { s.doctor with statusReported := s.doctor.statusReported || added.any (·.2.isNone) } := by
  simp only [publishInstanceStatus, if_true]
  induction ticks generalizing s with
  | nil => exact ⟨[], by simp, ⟨[], [], rfl, by simp, .inl rfl⟩, fun _ => rfl, by simp, by simp⟩
  | cons t ts ih =>
    rw [List.foldl_cons]
    rcases instanceStatusStep_cases s t with ⟨hstep, -⟩ | ⟨hr, hh, err, -, hstep⟩ | ⟨hr, hh, -, hstep⟩ <;>
      rw [hstep]
    · exact ih s
    · -- a failed request: the mark stays clear and the loop goes on
      obtain ⟨added, hcalls, hretried, -, hdata, hdoctor⟩ :=
        ih { s with calls := s.calls ++ [(instanceStatusRequest s.doctor t.requestId, some err)] }
      refine ⟨(instanceStatusRequest s.doctor t.requestId, some err) :: added, by simp [hcalls],
        hretried.cons_failed _ err, fun h => by simp [hr, hh] at h, ?_, ?_⟩
      · simp only [List.mem_cons, forall_eq_or_imp]
        exact ⟨⟨t.requestId, rfl⟩, hdata⟩
      · simpa [hr] using hdoctor
    · -- a request that goes through: the mark is set and nothing more is made
      refine ⟨[(instanceStatusRequest s.doctor t.requestId, none)], ?_, ⟨[], _, rfl, by simp,
        .inr ⟨_, rfl⟩⟩, fun h => by simp [hr, hh] at h, by simp, ?_⟩
      all_goals rw [foldl_instanceStatusStep_of_reported _ rfl]
      · rfl
      · simp [InstanceStatusState.setStatusReported, hr]

/-- If the status is not reported and the doctor has a health check, a tick at which
    `MakeRequest` succeeds gets the status reported. -/
theorem publishInstanceStatus_reports (s : InstanceStatusState θ)
    (ticks : List InstanceStatusTick) (hreported : s.doctor.statusReported = false)
    (hchecks : s.doctor.healthchecks ≠ []) (hsucceeds : ∃ tick ∈ ticks, tick.result = none) :
    (publishInstanceStatus true s ticks).doctor.statusReported = true := by
  simp only [publishInstanceStatus, if_true]
  induction ticks generalizing s with
  | nil => simp at hsucceeds
  | cons t ts ih =>
    rw [List.foldl_cons]
    rcases instanceStatusStep_cases s t with ⟨-, h | h⟩ | ⟨-, -, err, herr, hstep⟩ | ⟨-, -, -, hstep⟩
    · simp [hreported] at h
    · exact absurd h hchecks
    · -- the tick's request failed, so the one that succeeds is later
      obtain ⟨tick, htick, hnone⟩ := hsucceeds
      have hlater : tick ∈ ts :=
        (List.mem_cons.mp htick).resolve_left fun h => by simp [h, herr] at hnone
      rw [hstep]
      exact ih _ hreported hchecks ⟨tick, hlater, hnone⟩
    · rw [hstep, foldl_instanceStatusStep_of_reported _ rfl]
      rfl

/-- A doctor with one health check, a failed tick and a tick that goes through. -/
theorem publishInstanceStatus_reports_second :
    let s : InstanceStatusState Nat := ⟨⟨"c", "i", [⟨0, 1, "OK", "docker"⟩], false⟩, []⟩
    let ticks : List InstanceStatusTick := [⟨"a", some "closed"⟩, ⟨"b", none⟩]
    s.doctor.statusReported = false ∧ s.doctor.healthchecks ≠ [] ∧
      (∃ tick ∈ ticks, tick.result = none) ∧
      (publishInstanceStatus true s ticks).doctor.statusReported = true :=
  ⟨rfl, List.cons_ne_nil _ _, ⟨_, List.mem_cons_of_mem _ (List.mem_singleton_self _), rfl⟩,
    publishInstanceStatus_reports _ _ rfl (List.cons_ne_nil _ _)
      ⟨_, List.mem_cons_of_mem _ (List.mem_singleton_self _), rfl⟩⟩

end Tcs

end EcsAgent
