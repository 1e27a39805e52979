import EcsAgent.Tcs.Framing
import EcsAgent.Tcs.InstanceStatus

/-!
# Serving the Connection

`Serve` checks that the websocket is ready, starts `publishMessages` in a goroutine and, if
the client has a doctor, a ticker and `publishInstanceStatus` in another, and then consumes
the backend's messages. The two loops share the connection and nothing else: each of them
calls `MakeRequest` on it, the publishing loop request by request through a message, the
instance status loop once per tick. The doctor runs in a goroutine of its own and may
change between ticks.

A run of `Serve` is one list of actions, each the next act of one goroutine: the publishing
loop takes a message from a channel, or makes the next request of the message it is
publishing; the ticker fires; the doctor changes. Each action carries what the environment
decides, which is what `MakeRequest` returns. An action of a goroutine that is not at that
point, such as a request when no message is being published or a tick without a doctor,
does nothing. `MakeRequest` belongs to the websocket client, which is not among the sources;
each call is taken to be atomic, so the requests of the two loops interleave on the
connection one whole request at a time, in any order. `ConsumeMessages` and the context
that stops the loops are left out.

The publishing loop, cut into requests and interleaved with the other loop, refines the
message-by-message loop `publishMessages` of `EcsAgent.Tcs.Publish`. `ServeState.Refines` is
the invariant: for every `makeRequest` that answers the loop's calls as the connection did,
`publishMessages` on the messages received makes the requests on the connection and then
those of the message in progress. The connection's answers themselves are such a function
(`recordedAnswers`), so the theorems of `EcsAgent.Tcs.Publish` and `EcsAgent.Tcs.Framing`
hold of the connection of `Serve` whatever the interleaving. Conversely, between two
changes of the doctor, the instance status loop makes the requests and leaves the mark that
`publishInstanceStatus` alone makes over the same ticks. Over a whole run, changes of the
doctor included, a request that goes through marks the status reported, so the reports that
go through are at most one, and one more per change of the doctor.

`MakeRequest` hands the payload of each request to the hook `New` installs,
`signRequestFunc`, which signs it. The HTTP, credential and signing libraries it calls are not
among the sources and are parameters. Credentials retrieved without an error but without
keys make the hook return neither data nor an error (`signRequestFunc_eq_none_none_iff`).

## Main definitions

* `WsRequest`: What the connection carries, from either loop.
* `ServeState`, `ServeAction`: The goroutines' state, and what each can do next.
* `serve`: The check of `Serve` and the state the loops start from.
* `serveStep`, `serveRun`: One action, and a run.
* `Answers`: A `makeRequest` that returns what the connection returned to the publishing loop.
* `ServeState.Refines`: The publishing loop refines `publishMessages`.
* `ServeState.reports`, `ServeState.reportsDue`: The instance status reports made, and the one
  due.
* `signRequestFunc`: The hook that signs each request.

## Theorems

* `serveStep_refines`, `serveRun_refines`: Every action, and so every run, keeps the
  refinement.
* `serveRun_refines_publishMessages`: Over any interleaving and any failures, the publishing
  loop's requests on the connection are those `publishMessages` makes over the connection's
  answers, but for the rest of the message in progress.
* `serveRun_instanceStatus`: Between changes of the doctor, the instance status loop does what
  it does alone over the same ticks.
* `serveRun_delivers`: Over any interleaving, if the publishing loop's requests all went
  through and it is between messages, the backend reads every message it received intact.
* `serveRun_reports_le`: Over any run, the instance status is reported at most once, and once
  more per change of the doctor.
* `signRequestFunc_cases`, `signRequestFunc_eq_none_none_iff`: The hook returns the signed
  header, a blank line and the payload, or an error, or, for credentials without keys,
  neither.
-/

namespace EcsAgent

namespace Tcs

variable {μ ι κ σ τ θ : Type}

/-- A request on the connection, of the publishing loop or of the instance status loop. -/
inductive WsRequest (μ ι κ σ τ θ : Type)
  | tcs (request : TcsRequest μ ι κ σ τ)
  | instanceStatus (request : PublishInstanceStatusRequest θ)
  deriving DecidableEq, Repr

/-- The publishing loop's request, if it is one. -/
def WsRequest.tcs? : WsRequest μ ι κ σ τ θ → Option (TcsRequest μ ι κ σ τ)
  | .tcs r => some r
  | .instanceStatus _ => none

/-- The instance status request, if it is one. -/
def WsRequest.instanceStatus? : WsRequest μ ι κ σ τ θ → Option (PublishInstanceStatusRequest θ)
  | .tcs _ => none
  | .instanceStatus r => some r

/-- The publishing loop's calls on the connection, with what `MakeRequest` returned. -/
def tcsCalls (calls : List (WsRequest μ ι κ σ τ θ × Option String)) :
    List (TcsRequest μ ι κ σ τ × Option String) :=
  calls.filterMap fun c => c.1.tcs?.map (·, c.2)

/-- The instance status loop's calls on the connection, with what `MakeRequest` returned. -/
def instanceStatusCalls (calls : List (WsRequest μ ι κ σ τ θ × Option String)) :
    List (PublishInstanceStatusRequest θ × Option String) :=
  calls.filterMap fun c => c.1.instanceStatus?.map (·, c.2)

/-- The state of the goroutines `Serve` starts. -/
structure ServeState (μ ι κ σ τ θ : Type) where
  /-- The requests `publishMetricsOnce` or `publishHealthOnce` has still to make of the
      message being published; none while `publishMessages` waits in its `select`. -/
  pending : List (TcsRequest μ ι κ σ τ)
  /-- The messages `publishMessages` has taken from its channels, in order. -/
  received : List (TcsMessage μ ι κ σ τ)
  /-- The doctor, if the client has one; only then is there a ticker. -/
  doctor : Option (Doctor θ)
  /-- The requests made on the connection, in order, with what `MakeRequest` returned. -/
  calls : List (WsRequest μ ι κ σ τ θ × Option String)
  deriving DecidableEq, Repr

/-- The next act of one goroutine, with what the environment decides for it. -/
inductive ServeAction (μ ι κ σ τ θ : Type)
  /-- The `select` of `publishMessages` takes a message from the metrics or the health
      channel. -/
  | receive (message : TcsMessage μ ι κ σ τ)
  /-- The publishing loop makes its next request, and `MakeRequest` returns `result`. -/
  | makeRequest (result : Option String)
  /-- The instance status ticker fires. -/
  | tick (tick : InstanceStatusTick)
  /-- The doctor, in its own goroutine, runs its health checks or clears its mark. -/
  | doctor (doctor : Doctor θ)
  deriving DecidableEq, Repr

/-- The tick, if the action is one. -/
def ServeAction.tick? : ServeAction μ ι κ σ τ θ → Option InstanceStatusTick
  | .tick t => some t
  | _ => none

/-- Whether the action changes the doctor. -/
def ServeAction.changesDoctor : ServeAction μ ι κ σ τ θ → Bool
  | .doctor _ => true
  | _ => false

/-- `Serve`, up to `ConsumeMessages`: an error if the websocket is not ready, and otherwise
    the state the loops start from, with the ticker started only if there is a doctor. -/
def serve (isReady : Bool) (doctor : Option (Doctor θ)) :
    Except String (ServeState μ ι κ σ τ θ) :=
  if !isReady then .error "tcs client: websocket not ready for connections"
  else .ok { pending := [], received := [], doctor := doctor, calls := [] }

/-- One action. A message taken is converted into requests at once, as `publishMetricsOnce`
    and `publishHealthOnce` do, and they are made one by one; an error drops the rest of the
    message, and the loop returns to its `select`. A tick is one tick of
    `publishInstanceStatus`, whose request goes on the connection. -/
def serveStep (size : PublishMetricsRequest μ ι κ σ → Nat) (s : ServeState μ ι κ σ τ θ) :
    ServeAction μ ι κ σ τ θ → ServeState μ ι κ σ τ θ
  | .receive message =>
    if s.pending.isEmpty then
      { s with pending := message.requests size, received := s.received ++ [message] }
    else s
  | .makeRequest result =>
    match s.pending with
    | [] => s
    | request :: requests =>
      { s with pending := if result.isSome then [] else requests
               calls := s.calls ++ [(.tcs request, result)] }
  | .tick tick =>
    match s.doctor with
    | none => s
    | some doctor =>
      let t := instanceStatusStep ⟨doctor, []⟩ tick
      { s with doctor := some t.doctor
               calls := s.calls ++ t.calls.map fun c => (.instanceStatus c.1, c.2) }
  | .doctor doctor => { s with doctor := s.doctor.map fun _ => doctor }

/-- A run of `Serve`: the actions in the order they happen. -/
def serveRun (size : PublishMetricsRequest μ ι κ σ → Nat) (s : ServeState μ ι κ σ τ θ)
    (actions : List (ServeAction μ ι κ σ τ θ)) : ServeState μ ι κ σ τ θ :=
  actions.foldl (serveStep size) s

/-! ### The projections of the connection -/

@[simp] theorem tcsCalls_nil : tcsCalls ([] : List (WsRequest μ ι κ σ τ θ × Option String)) = [] :=
  rfl

@[simp] theorem tcsCalls_cons_tcs (request : TcsRequest μ ι κ σ τ) (result : Option String)
    (calls : List (WsRequest μ ι κ σ τ θ × Option String)) :
    tcsCalls ((.tcs request, result) :: calls) = (request, result) :: tcsCalls calls :=
  rfl

@[simp] theorem tcsCalls_cons_instanceStatus (request : PublishInstanceStatusRequest θ)
    (result : Option String) (calls : List (WsRequest μ ι κ σ τ θ × Option String)) :
    tcsCalls ((.instanceStatus request, result) :: calls) = tcsCalls calls :=
  rfl

@[simp] theorem tcsCalls_append (calls calls' : List (WsRequest μ ι κ σ τ θ × Option String)) :
    tcsCalls (calls ++ calls') = tcsCalls calls ++ tcsCalls calls' :=
  List.filterMap_append _ _ _

@[simp] theorem tcsCalls_instanceStatus
    (calls : List (PublishInstanceStatusRequest θ × Option String)) :
    tcsCalls (calls.map fun c => ((.instanceStatus c.1 : WsRequest μ ι κ σ τ θ), c.2)) = [] := by
  simp [tcsCalls, List.filterMap_map, Function.comp_def, WsRequest.tcs?]

@[simp] theorem instanceStatusCalls_nil :
    instanceStatusCalls ([] : List (WsRequest μ ι κ σ τ θ × Option String)) = [] :=
  rfl

@[simp] theorem instanceStatusCalls_cons_tcs (request : TcsRequest μ ι κ σ τ)
    (result : Option String) (calls : List (WsRequest μ ι κ σ τ θ × Option String)) :
    instanceStatusCalls ((.tcs request, result) :: calls) = instanceStatusCalls calls :=
  rfl

@[simp] theorem instanceStatusCalls_cons_instanceStatus (request : PublishInstanceStatusRequest θ)
    (result : Option String) (calls : List (WsRequest μ ι κ σ τ θ × Option String)) :
    instanceStatusCalls ((.instanceStatus request, result) :: calls) =
      (request, result) :: instanceStatusCalls calls :=
  rfl

@[simp] theorem instanceStatusCalls_append
    (calls calls' : List (WsRequest μ ι κ σ τ θ × Option String)) :
    instanceStatusCalls (calls ++ calls') =
      instanceStatusCalls calls ++ instanceStatusCalls calls' :=
  List.filterMap_append _ _ _

@[simp] theorem instanceStatusCalls_instanceStatus
    (calls : List (PublishInstanceStatusRequest θ × Option String)) :
    instanceStatusCalls
      (calls.map fun c => ((.instanceStatus c.1 : WsRequest μ ι κ σ τ θ), c.2)) = calls := by
  simp [instanceStatusCalls, List.filterMap_map, Function.comp_def, WsRequest.instanceStatus?]

/-! ### The publishing loop refines `publishMessages` -/

section

variable (size : PublishMetricsRequest μ ι κ σ → Nat)

/-- `makeRequest` returns, for each call of the publishing loop, what `MakeRequest` returned
    to it, given the loop's requests before it. -/
def Answers (makeRequest : List (TcsRequest μ ι κ σ τ) → TcsRequest μ ι κ σ τ → Option String) :
    List (TcsRequest μ ι κ σ τ) → List (TcsRequest μ ι κ σ τ × Option String) → Prop
  | _, [] => True
  | made, c :: calls => makeRequest made c.1 = c.2 ∧ Answers makeRequest (made ++ [c.1]) calls

/-- The publishing loop refines `publishMessages`: over every `makeRequest` that answers its
    calls, `publishMessages` on the messages received makes the requests on the connection,
    then those of the message in progress as `makeRequests` makes them. -/
def ServeState.Refines (s : ServeState μ ι κ σ τ θ) : Prop :=
  ∀ makeRequest, Answers makeRequest [] (tcsCalls s.calls) →
    publishMessages makeRequest size [] s.received =
      (makeRequests makeRequest ((tcsCalls s.calls).map Prod.fst) s.pending).1

/-- What the connection returned to the publishing loop's request after `made`, and success
    past the calls it has made. -/
def recordedAnswers (calls : List (TcsRequest μ ι κ σ τ × Option String))
    (made : List (TcsRequest μ ι κ σ τ)) (_ : TcsRequest μ ι κ σ τ) : Option String :=
  (calls[made.length]?).bind Prod.snd

theorem answers_append
    (makeRequest : List (TcsRequest μ ι κ σ τ) → TcsRequest μ ι κ σ τ → Option String)
    (made : List (TcsRequest μ ι κ σ τ)) (calls : List (TcsRequest μ ι κ σ τ × Option String))
    (c : TcsRequest μ ι κ σ τ × Option String) :
    Answers makeRequest made (calls ++ [c]) ↔
      Answers makeRequest made calls ∧ makeRequest (made ++ calls.map Prod.fst) c.1 = c.2 := by
  induction calls generalizing made with
  | nil => simp [Answers]
  | cons c' calls ih => simp [Answers, ih, and_assoc]

theorem answers_recordedAnswers (pre calls : List (TcsRequest μ ι κ σ τ × Option String)) :
    Answers (recordedAnswers (pre ++ calls)) (pre.map Prod.fst) calls := by
  induction calls generalizing pre with
  | nil => trivial
  | cons c calls ih =>
    refine ⟨by simp [recordedAnswers, List.getElem_append_right], ?_⟩
    simpa using ih (pre ++ [c])

/-- Past the calls made, the connection's answers are successes, so every request is made. -/
theorem makeRequests_recordedAnswers (calls : List (TcsRequest μ ι κ σ τ × Option String))
    (made requests : List (TcsRequest μ ι κ σ τ)) (h : calls.length ≤ made.length) :
    (makeRequests (recordedAnswers calls) made requests).1 = made ++ requests := by
  induction requests generalizing made with
  | nil => simp [makeRequests]
  | cons r rs ih =>
    have hnone : recordedAnswers calls made r = none := by
      simp [recordedAnswers, List.getElem?_eq_none h]
    rw [makeRequests, hnone, ih _ (by simp; omega)]
    simp

theorem serve_refines {isReady : Bool} {doctor : Option (Doctor θ)} {s : ServeState μ ι κ σ τ θ}
    (h : serve isReady doctor = .ok s) : s.Refines size := by
  unfold serve at h
  split at h
  · cases h
  · cases h
    intro makeRequest _
    simp [publishMessages, makeRequests]

/-- Every action keeps the refinement. Taking a message is one step of `publishMessages`; a
    request that goes through leaves the rest of the message to make, and one that fails
    ends the message, as in `makeRequests`; ticks and the doctor leave the publishing loop's
    calls as they are. -/
theorem serveStep_refines {s : ServeState μ ι κ σ τ θ} (h : s.Refines size)
    (action : ServeAction μ ι κ σ τ θ) : (serveStep size s action).Refines size := by
  cases action with
  | receive message =>
    simp only [serveStep]
    split
    · next hidle =>
      intro makeRequest hanswers
      have hrun := h makeRequest hanswers
      rw [List.isEmpty_iff.mp hidle, makeRequests] at hrun
      rw [publishMessages, List.foldl_append, List.foldl_cons, List.foldl_nil, ← publishMessages,
        hrun, publishStep_eq]
    · exact h
  | makeRequest result =>
    simp only [serveStep]
    split
    · exact h
    · next request requests hpending =>
      intro makeRequest hanswers
      simp only [tcsCalls_append, tcsCalls_cons_tcs, tcsCalls_nil] at hanswers ⊢
      obtain ⟨hanswers, hresult⟩ := (answers_append makeRequest [] _ _).mp hanswers
      rw [List.nil_append] at hresult
      rw [h makeRequest hanswers, hpending, makeRequests, hresult]
      cases result <;> simp [makeRequests]
  | tick tick =>
    simp only [serveStep]
    split
    · exact h
    · simpa [ServeState.Refines] using h
  | doctor doctor => exact h

theorem serveRun_refines {s : ServeState μ ι κ σ τ θ} (h : s.Refines size)
    (actions : List (ServeAction μ ι κ σ τ θ)) : (serveRun size s actions).Refines size := by
  induction actions generalizing s with
  | nil => exact h
  | cons action actions ih => exact ih (serveStep_refines size h action)

/-- Whatever the order in which the goroutines act and whatever `MakeRequest` returns, the
    publishing loop's requests on the connection, followed by those it has still to make of
    the message in progress, are the requests `publishMessages` makes of the messages
    received, over a `makeRequest` that returns to each of the loop's calls what the
    connection returned. -/
theorem serveRun_refines_publishMessages {doctor : Option (Doctor θ)}
    {s₀ : ServeState μ ι κ σ τ θ} (hserve : serve true doctor = .ok s₀)
    (actions : List (ServeAction μ ι κ σ τ θ)) :
    let s := serveRun size s₀ actions
    ∃ makeRequest, Answers makeRequest [] (tcsCalls s.calls) ∧
      (tcsCalls s.calls).map Prod.fst ++ s.pending =
        publishMessages makeRequest size [] s.received := by
  intro s
  have hanswers : Answers (recordedAnswers (tcsCalls s.calls)) [] (tcsCalls s.calls) := by
    simpa using answers_recordedAnswers [] (tcsCalls s.calls)
  refine ⟨_, hanswers, ?_⟩
  rw [serveRun_refines size (serve_refines size hserve) actions _ hanswers,
    makeRequests_recordedAnswers _ _ _ (by simp)]

/-- A message of twelve health entries, whose first request fails: the loop drops the other,
    and the connection's answers make `publishMessages` stop at the same request. -/
theorem serveRun_refines_publishMessages_failed :
    let s₀ : ServeState Nat Nat Nat Nat Nat Nat := ⟨[], [], none, []⟩
    let actions : List (ServeAction Nat Nat Nat Nat Nat Nat) :=
      [.receive (.health ⟨some ⟨some "c", none, none, some "m"⟩, some (List.range 12)⟩),
        .makeRequest (some "closed"), .makeRequest none]
    serve true none = .ok s₀ ∧
      let s := serveRun (fun _ => 0) s₀ actions
      ∃ makeRequest, Answers makeRequest [] (tcsCalls s.calls) ∧
        (tcsCalls s.calls).map Prod.fst ++ s.pending =
          publishMessages makeRequest (fun _ => 0) [] s.received :=
  ⟨rfl, serveRun_refines_publishMessages (fun _ => 0) rfl _⟩

theorem answers_of_reliable (made : List (TcsRequest μ ι κ σ τ))
    (calls : List (TcsRequest μ ι κ σ τ × Option String)) (h : ∀ c ∈ calls, c.2 = none) :
    Answers (fun _ _ => none) made calls := by
  induction calls generalizing made with
  | nil => trivial
  | cons c calls ih =>
    exact ⟨(h c (List.mem_cons_self c calls)).symm,
      ih _ fun c' hc' => h c' (List.mem_cons_of_mem c hc')⟩

/-- Over any interleaving with the instance status loop, if every request of the publishing
    loop went through and it is between messages, the backend, reading the connection's
    metrics and health requests by their `Fin` flags, closes one message per telemetry message
    received that the client makes a request of, each a split of its task metrics, and one
    per health message with metadata and health metrics, each exactly its health metrics, in
    the order received, and is left with no message open. -/
theorem serveRun_delivers {doctor : Option (Doctor θ)} {s₀ : ServeState μ ι κ σ τ θ}
    (hserve : serve true doctor = .ok s₀) (actions : List (ServeAction μ ι κ σ τ θ))
    (hreliable : ∀ c ∈ tcsCalls (serveRun size s₀ actions).calls, c.2 = none)
    (hidle : (serveRun size s₀ actions).pending = []) :
    let s := serveRun size s₀ actions
    let requests := (tcsCalls s.calls).map Prod.fst
    (∃ frames,
      reassemble (fun r : PublishMetricsRequest μ ι κ σ => r.metadata.fin) (·.taskMetrics) [] []
          (requests.filterMap TcsRequest.metrics?) = (frames, []) ∧
      List.Forall₂ SplitsMessage ((s.received.filterMap TcsMessage.metrics?).filter (·.publishes))
        frames) ∧
    reassemble (fun r : PublishHealthRequest τ => decide (r.metadata.fin = some true)) (·.tasks)
        [] [] (requests.filterMap TcsRequest.health?) =
      ((s.received.filterMap TcsMessage.health?).filterMap HealthMessage.published?, []) := by
  intro s requests
  -- the loop's requests are those of every message received, in order
  have hrequests : requests = s.received.flatMap (TcsMessage.requests size) := by
    have h := serveRun_refines size (serve_refines size hserve) actions _
      (answers_of_reliable [] _ hreliable)
    rw [hidle, makeRequests, publishMessages_of_reliable _ size (fun _ _ => rfl)] at h
    simpa using h.symm
  obtain ⟨frames, hframes, hrun⟩ := reassemble_flatMap_requests size s.received []
  refine ⟨⟨frames, by simpa [hrequests] using hrun, hframes⟩, ?_⟩
  rw [hrequests, reassemble_flatMap_healthRequests, List.nil_append]

/-- A telemetry message of one task metric and a health message of twelve entries, with an
    instance status tick between the requests of the health message. -/
theorem serveRun_delivers_interleaved :
    let s₀ : ServeState Nat Nat Nat Nat Nat Nat :=
      ⟨[], [], some ⟨"c", "i", [⟨0, 1, "OK", "docker"⟩], false⟩, []⟩
    let actions : List (ServeAction Nat Nat Nat Nat Nat Nat) :=
      [.receive (.metrics ⟨none, some ⟨"c", "i", false, "m", false⟩, [⟨0, [1], [2]⟩]⟩),
        .makeRequest none,
        .receive (.health ⟨some ⟨some "c", none, none, some "n"⟩, some (List.range 12)⟩),
        .makeRequest none, .tick ⟨"a", none⟩, .makeRequest none]
    let s := serveRun (fun _ => 0) s₀ actions
    serve true s₀.doctor = .ok s₀ ∧ (∀ c ∈ tcsCalls s.calls, c.2 = none) ∧ s.pending = [] ∧
      let requests := (tcsCalls s.calls).map Prod.fst
      (∃ frames,
        reassemble (fun r : PublishMetricsRequest Nat Nat Nat Nat => r.metadata.fin) (·.taskMetrics)
            [] [] (requests.filterMap TcsRequest.metrics?) = (frames, []) ∧
        List.Forall₂ SplitsMessage ((s.received.filterMap TcsMessage.metrics?).filter (·.publishes))
          frames) ∧
      reassemble (fun r : PublishHealthRequest Nat => decide (r.metadata.fin = some true)) (·.tasks)
          [] [] (requests.filterMap TcsRequest.health?) =
        ((s.received.filterMap TcsMessage.health?).filterMap HealthMessage.published?, []) :=
  ⟨rfl, by decide, by decide, serveRun_delivers (fun _ => 0) rfl _ (by decide) (by decide)⟩

end

/-! ### The instance status loop is not disturbed -/

/-- What the instance status loop sees of the state, if the client has a doctor: the doctor
    and the loop's own calls on the connection. -/
def ServeState.instanceStatusState (s : ServeState μ ι κ σ τ θ) : Option (InstanceStatusState θ) :=
  s.doctor.map fun doctor => ⟨doctor, instanceStatusCalls s.calls⟩

section

variable (size : PublishMetricsRequest μ ι κ σ → Nat)

/-- An action that does not change the doctor is, to the instance status loop, its tick if it
    is one, and nothing otherwise. -/
theorem serveStep_instanceStatusState (s : ServeState μ ι κ σ τ θ)
    (action : ServeAction μ ι κ σ τ θ) (haction : action.changesDoctor = false) :
    (serveStep size s action).instanceStatusState =
      s.instanceStatusState.map fun t => action.tick?.toList.foldl instanceStatusStep t := by
  cases action with
  | receive _ | makeRequest _ =>
    simp only [serveStep]
    split <;> simp [ServeState.instanceStatusState, ServeAction.tick?, Function.comp_def]
  | tick tick =>
    simp only [serveStep]
    split
    · next hnone => simp [ServeState.instanceStatusState, hnone]
    · next doctor hdoctor =>
      simp [ServeState.instanceStatusState, hdoctor, ServeAction.tick?,
        instanceStatusStep_calls doctor (instanceStatusCalls s.calls)]
  | doctor doctor => simp [ServeAction.changesDoctor] at haction

theorem serveRun_instanceStatusState (s : ServeState μ ι κ σ τ θ)
    (actions : List (ServeAction μ ι κ σ τ θ))
    (hfixed : ∀ action ∈ actions, action.changesDoctor = false) :
    (serveRun size s actions).instanceStatusState =
      s.instanceStatusState.map fun t =>
        (actions.filterMap ServeAction.tick?).foldl instanceStatusStep t := by
  induction actions generalizing s with
  | nil => simp [serveRun]
  | cons action actions ih =>
    rw [serveRun, List.foldl_cons, ← serveRun,
      ih _ fun a ha => hfixed a (List.mem_cons_of_mem action ha),
      serveStep_instanceStatusState size s action
        (hfixed action (List.mem_cons_self action actions)),
      Option.map_map]
    cases htick : action.tick? <;> simp [List.filterMap_cons, htick, Function.comp_def]

/-- Between two changes of the doctor, whatever the publishing loop does in between, the
    instance status loop ends with the doctor, and has made the requests with their results,
    that `publishInstanceStatus` alone makes over the same ticks from the same state. -/
theorem serveRun_instanceStatus (s : ServeState μ ι κ σ τ θ) {doctor : Doctor θ}
    (hdoctor : s.doctor = some doctor) (actions : List (ServeAction μ ι κ σ τ θ))
    (hfixed : ∀ action ∈ actions, action.changesDoctor = false) :
    (serveRun size s actions).instanceStatusState =
      some (publishInstanceStatus true ⟨doctor, instanceStatusCalls s.calls⟩
        (actions.filterMap ServeAction.tick?)) := by
  rw [serveRun_instanceStatusState size s actions hfixed, ServeState.instanceStatusState, hdoctor]
  rfl

/-! ### The instance status is reported once per change of the doctor -/

/-- One report is due if the client has a doctor whose status is not reported. -/
def ServeState.reportsDue (s : ServeState μ ι κ σ τ θ) : Nat :=
  match s.doctor with
  | some doctor => if doctor.statusReported then 0 else 1
  | none => 0

/-- The instance status requests on the connection that went through. -/
def ServeState.reports (s : ServeState μ ι κ σ τ θ) : Nat :=
  (instanceStatusCalls s.calls).countP (·.2 = none)

/-- A request that goes through marks the status reported, so a report and the report due
    trade places; only a change of the doctor can make a report due again. -/
theorem serveStep_reports_le (s : ServeState μ ι κ σ τ θ) (action : ServeAction μ ι κ σ τ θ) :
    (serveStep size s action).reports + (serveStep size s action).reportsDue ≤
      s.reports + s.reportsDue + if action.changesDoctor then 1 else 0 := by
  cases action with
  | receive _ | makeRequest _ =>
    simp only [serveStep]
    split <;> simp [ServeState.reports, ServeState.reportsDue, ServeAction.changesDoctor]
  | tick tick =>
    simp only [serveStep, ServeAction.changesDoctor]
    split
    · simp
    · next doctor hdoctor =>
      rcases instanceStatusStep_cases ⟨doctor, []⟩ tick with ⟨hstep, -⟩ | ⟨-, -, err, -, hstep⟩ |
        ⟨hreported, -, -, hstep⟩
      · simp [hstep, ServeState.reports, ServeState.reportsDue, hdoctor]
      · -- a failed request is no report
        simp [hstep, ServeState.reports, ServeState.reportsDue, hdoctor]
      · -- a request that goes through is the report that was due
        simp only at hreported
        simp [hstep, ServeState.reports, ServeState.reportsDue, hdoctor, hreported,
          InstanceStatusState.setStatusReported]
  | doctor doctor =>
    simp only [serveStep, ServeAction.changesDoctor, if_true]
    cases s.doctor <;> simp only [ServeState.reports, ServeState.reportsDue, Option.map] <;>
      split <;> omega

/-- Over any run of the goroutines, in any interleaving and whatever the connection does, the
    instance status requests that go through number at most the report due at the start and
    one per change of the doctor: without a change of the doctor the status is reported at
    most once. -/
theorem serveRun_reports_le (s : ServeState μ ι κ σ τ θ)
    (actions : List (ServeAction μ ι κ σ τ θ)) :
    (serveRun size s actions).reports ≤
      s.reports + s.reportsDue + actions.countP (·.changesDoctor) := by
  suffices h : (serveRun size s actions).reports + (serveRun size s actions).reportsDue ≤
      s.reports + s.reportsDue + actions.countP (·.changesDoctor) by omega
  induction actions generalizing s with
  | nil => simp [serveRun]
  | cons action actions ih =>
    have hstep := serveStep_reports_le size s action
    have hrun := ih (serveStep size s action)
    rw [serveRun, List.foldl_cons, ← serveRun, List.countP_cons]
    cases h : action.changesDoctor <;>
      simp only [h, if_true, Bool.false_eq_true, if_false] at hstep ⊢ <;> omega

end

/-! ### The request hook -/

/-- The credentials `credentialsCache.Retrieve` returns. -/
structure Credentials where
  accessKeyID : String
  secretAccessKey : String
  sessionToken : String
  deriving DecidableEq, Repr

/-- What the request hook uses of the HTTP, credential and signing libraries, which are not
    among the sources, for HTTP requests `ρ`: a signed request is returned rather than
    changed in place. -/
structure SignApi (ρ : Type) where
  newRequest : String → String → List UInt8 → Except String ρ
  retrieve : Except String Credentials
  hasKeys : Credentials → Bool
  signHTTPRequestV1 : ρ → String → String → Credentials → List UInt8 → Except String ρ
  host : ρ → String
  headerAdd : ρ → String → String → ρ
  headerWrite : ρ → List UInt8

/-- `signRequestFunc`, the hook `MakeRequest` applies to the payload of every request: build a
    GET request of the payload, retrieve credentials, sign the request, and return its header,
    a blank line and the payload. Returns the data and the error, each nil or not: credentials
    retrieved without error but without keys give neither. -/
def signRequestFunc {ρ : Type} (api : SignApi ρ) (url region : String) (payload : List UInt8) :
    Option (List UInt8) × Option String :=
  match api.newRequest "GET" url payload with
  | .error err => (none, some err)
  | .ok request =>
    match api.retrieve with
    | .error err => (none, some err)
    | .ok credentialsProvider =>
      if !api.hasKeys credentialsProvider then (none, none)
      else
        match api.signHTTPRequestV1 request region "ecs" credentialsProvider payload with
        | .error err => (none, some err)
        | .ok request =>
          let request := api.headerAdd request "Host" (api.host request)
          (some (api.headerWrite request ++ "\r\n".toUTF8.data.toList ++ payload), none)

/-- The hook returns data or an error, never both. The data is the header, a blank line and
    the payload; it returns neither exactly when the request is built and the credentials are
    retrieved without error but have no keys. -/
theorem signRequestFunc_cases {ρ : Type} (api : SignApi ρ) (url region : String)
    (payload : List UInt8) :
    (signRequestFunc api url region payload).1 = none ∨
      ((signRequestFunc api url region payload).2 = none ∧
        ∃ header,
          (signRequestFunc api url region payload).1 = some (header ++ [13, 10] ++ payload)) := by
  unfold signRequestFunc
  rcases api.newRequest "GET" url payload with err | request
  · exact .inl rfl
  rcases api.retrieve with err | credentials
  · exact .inl rfl
  dsimp only
  cases api.hasKeys credentials
  · exact .inl rfl
  rcases api.signHTTPRequestV1 request region "ecs" credentials payload with err | signed
  · exact .inl rfl
  · exact .inr ⟨rfl, _, rfl⟩

theorem signRequestFunc_eq_none_none_iff {ρ : Type} (api : SignApi ρ) (url region : String)
    (payload : List UInt8) :
    signRequestFunc api url region payload = (none, none) ↔
      (∃ request, api.newRequest "GET" url payload = .ok request) ∧
        ∃ credentials, api.retrieve = .ok credentials ∧ api.hasKeys credentials = false := by
  unfold signRequestFunc
  rcases api.newRequest "GET" url payload with err | request
  · simp
  rcases api.retrieve with err | credentials
  · simp
  cases hkeys : api.hasKeys credentials
  · simp [hkeys]
  · simp only [hkeys, Bool.not_true, Bool.false_eq_true, if_false]
    split <;> simp [hkeys]

end Tcs

end EcsAgent
