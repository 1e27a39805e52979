import EcsAgent.Tcs.Publish
import EcsAgent.Tcs.Batch.Split
import EcsAgent.Tcs.Batch.Shape

/-!
# Framing on the Connection

The backend, which is not among the sources, learns where a message ends from the `Fin`
flag of its requests. `reassemble` is that reading: the entries of the requests of one kind
are gathered until a marked request closes a message. It is this development's statement of
what the flag is for, and the theorems here say what the backend makes of the requests
`publishMessages` makes.

Over a connection that never fails, the backend closes one message per message the client
received, in order, with its entries (`publishMessages_reassemble_metrics`,
`publishMessages_reassemble_health`). Over any connection, the backend receives only the
requests that went through, and of a message cut short by a failure these are a prefix of
its requests that carries no `Fin`. The backend then reads them as it would read the
messages one by one (`reassemble_wentThrough`): each message adds the entries of its requests
that went through, and closes a message exactly when all its requests went through and it
has any. The entries of a message cut short are read as part of the next message the backend
closes.

## Main definitions

* `reassemble`: The backend's reading of the requests by their `Fin` flags.
* `FramedIn`: A message's requests of one kind are unmarked requests ended by a marked one.
* `frameOf`: What the backend makes of a prefix of one message's requests.
* `TelemetryMessage.publishes`, `HealthMessage.published?`: Whether the client makes a request
  of a message.

## Theorems

* `reassemble_frame`: A run of unmarked requests ended by a marked one closes one message.
* `reassemble_block`: A block with at most its last request marked is read in one step.
* `FramedIn.part`: In a prefix of a framed message's requests, a request is marked exactly
  when the prefix is all of them.
* `convertedRequests_metricsToPublishMetricRequests`, `healthToPublishHealthRequests_frame`:
  A message the client makes a request of is cut into unmarked requests ended by a marked
  one.
* `reassemble_parts`: Prefixes of the messages' requests are read message by message.
* `reassemble_wentThrough`: Over any connection, the requests that went through are read
  message by message.
* `publishMessages_reassemble_metrics_parts`, `publishMessages_reassemble_health_parts`: The
  same, for each kind of request.
* `publishMessages_reassemble_metrics`: Over a connection that never fails, the backend closes
  one message per telemetry message that has requests, each a split of its task metrics.
* `publishMessages_reassemble_health`: Over a connection that never fails, the backend closes
  one message per health message that has requests, each its health metrics.
-/

namespace EcsAgent

namespace Tcs

variable {μ ι κ σ τ : Type}

/-! ### How the backend reads the connection -/

section

variable {ρ ε : Type} (fin : ρ → Bool) (entries : ρ → List ε)

/-- The backend's reading of requests of one kind: their entries are gathered until a
    request marked `Fin` closes the message. Returns the entries of the closed messages, in
    order, and those of the message still open. -/
def reassemble : List (List ε) → List ε → List ρ → List (List ε) × List ε
  | closed, current, [] => (closed, current)
  | closed, current, r :: rs =>
    if fin r then reassemble (closed ++ [current ++ entries r]) [] rs
    else reassemble closed (current ++ entries r) rs

/-- Unmarked requests ended by a marked one close one message, with their entries. -/
theorem reassemble_frame (init : List ρ) (last : ρ) (hinit : ∀ r ∈ init, fin r = false)
    (hlast : fin last = true) (closed : List (List ε)) (current : List ε) (rest : List ρ) :
    reassemble fin entries closed current (init ++ last :: rest) =
      reassemble fin entries (closed ++ [current ++ (init ++ [last]).flatMap entries]) [] rest := by
  induction init generalizing current with
  | nil => simp [reassemble, hlast]
  | cons r rs ih =>
    have hr : fin r = false := hinit r (List.mem_cons_self r rs)
    rw [List.cons_append, reassemble, if_neg (by simp [hr]),
      ih (fun r' hr' => hinit r' (List.mem_cons_of_mem r hr'))]
    simp

/-- Unmarked requests add their entries to the open message. -/
theorem reassemble_unmarked (l : List ρ) (hl : ∀ r ∈ l, fin r = false) (closed : List (List ε))
    (current : List ε) (rest : List ρ) :
    reassemble fin entries closed current (l ++ rest) =
      reassemble fin entries closed (current ++ l.flatMap entries) rest := by
  induction l generalizing current with
  | nil => simp
  | cons r rs ih =>
    rw [List.cons_append, reassemble, if_neg (by simp [hl r (List.mem_cons_self r rs)]),
      ih (fun r' hr' => hl r' (List.mem_cons_of_mem r hr'))]
    simp

/-- A block whose requests before its last are unmarked is read in one step: it closes a
    message if it holds a marked request, and otherwise adds its entries to the open one. -/
theorem reassemble_block (b : List ρ) (hb : ∀ r ∈ b.dropLast, fin r = false)
    (closed : List (List ε)) (current : List ε) (rest : List ρ) :
    reassemble fin entries closed current (b ++ rest) =
      if b.any fin then reassemble fin entries (closed ++ [current ++ b.flatMap entries]) [] rest
      else reassemble fin entries closed (current ++ b.flatMap entries) rest := by
  rcases List.eq_nil_or_concat' b with rfl | ⟨init, last, rfl⟩
  · simp
  rw [List.dropLast_concat] at hb
  cases hlast : fin last
  · -- no marked request: the block only adds its entries
    have hall : ∀ r ∈ init ++ [last], fin r = false := fun r hr => by
      rcases List.mem_append.mp hr with hr | hr
      exacts [hb r hr, List.mem_singleton.mp hr ▸ hlast]
    rw [reassemble_unmarked fin entries _ hall,
      if_neg (by rw [Bool.not_eq_true, List.any_eq_false]; exact fun r hr => by simp [hall r hr])]
  · rw [List.append_assoc, List.singleton_append, reassemble_frame fin entries init last hb hlast,
      if_pos (by simp [hlast])]

end

/-! ### Messages cut short -/

section

variable {ρ ε : Type} (get? : TcsRequest μ ι κ σ τ → Option ρ) (fin : ρ → Bool)
  (entries : ρ → List ε)

/-- A message's requests of the kind `get?` reads are framed: there are none if the message
    is not published in that kind; otherwise all its requests are of the kind, and they are
    unmarked requests ended by one marked request. -/
def FramedIn (publishes : Bool) (requests : List (TcsRequest μ ι κ σ τ)) : Prop :=
  (publishes = false ∧ requests.filterMap get? = []) ∨
    (publishes = true ∧ (∀ r ∈ requests, (get? r).isSome) ∧
      ∃ init last, requests.filterMap get? = init ++ [last] ∧ (∀ r ∈ init, fin r = false) ∧
        fin last = true)

/-- In a prefix of a framed message's requests, the requests of the kind are unmarked but
    maybe the last, and one is marked exactly when the prefix is as long as the requests, so
    all of them, and the message is published in the kind. -/
theorem FramedIn.part {get? : TcsRequest μ ι κ σ τ → Option ρ} {fin : ρ → Bool}
    {publishes : Bool} {requests part : List (TcsRequest μ ι κ σ τ)}
    (h : FramedIn get? fin publishes requests) (hpart : part <+: requests) :
    (∀ r ∈ (part.filterMap get?).dropLast, fin r = false) ∧
      (part.filterMap get?).any fin = (decide (part.length = requests.length) && publishes) := by
  have hsub := hpart.filterMap get?
  rcases h with ⟨rfl, hnil⟩ | ⟨rfl, hkind, init, last, heq, hinit, hlast⟩
  · rw [hnil, List.prefix_nil] at hsub
    simp [hsub]
  rw [heq, List.prefix_concat_iff] at hsub
  rcases hsub with hall | hshort
  · -- every request was made: the last is the marked one
    have hlength : (part.filterMap get?).length = (requests.filterMap get?).length := by
      rw [hall, heq]
    rw [List.filterMap_length_eq_length.mpr fun r hr => hkind r (hpart.subset hr),
      List.filterMap_length_eq_length.mpr hkind] at hlength
    exact ⟨by rw [hall, List.dropLast_concat]; exact hinit, by simp [hall, hlast, hlength]⟩
  · -- a request failed: what was made is unmarked, and is not all of the requests
    have hunmarked : ∀ r ∈ part.filterMap get?, fin r = false := fun r hr =>
      hinit r (hshort.subset hr)
    have hne : part.length ≠ requests.length := fun hlength => by
      have := hshort.length_le
      rw [List.filterMap_length_eq_length.mpr fun r hr => hkind r (hpart.subset hr), hlength,
        ← List.filterMap_length_eq_length.mpr hkind, heq, List.length_append,
        List.length_singleton] at this
      omega
    refine ⟨fun r hr => hunmarked r (List.dropLast_subset _ hr), ?_⟩
    rw [decide_eq_false hne, Bool.false_and, List.any_eq_false]
    exact fun r hr => by simp [hunmarked r hr]

/-- What the backend makes of a prefix of one message's requests: the entries of those of
    the kind, and whether they close a message, which they do when they are as many as the
    message's requests, so all of them, and the message is published in the kind. -/
def frameOf (publishes : TcsMessage μ ι κ σ τ → Bool) (size : PublishMetricsRequest μ ι κ σ → Nat)
    (message : TcsMessage μ ι κ σ τ) (part : List (TcsRequest μ ι κ σ τ)) : List ε × Bool :=
  ((part.filterMap get?).flatMap entries,
    decide (part.length = (message.requests size).length) && publishes message)

/-- If every message's requests of a kind are framed, the backend reads prefixes of the
    messages' requests, sent one message after the other, as it would read the messages one
    by one, each through `frameOf`. -/
theorem reassemble_parts (publishes : TcsMessage μ ι κ σ τ → Bool)
    (size : PublishMetricsRequest μ ι κ σ → Nat)
    (hframed : ∀ message, FramedIn get? fin (publishes message) (message.requests size))
    {messages : List (TcsMessage μ ι κ σ τ)} {parts : List (List (TcsRequest μ ι κ σ τ))}
    (hparts : List.Forall₂ (fun message part => part <+: message.requests size) messages parts)
    (closed : List (List ε)) (current : List ε) :
    reassemble fin entries closed current (parts.flatten.filterMap get?) =
      reassemble Prod.snd Prod.fst closed current
        (List.zipWith (frameOf get? entries publishes size) messages parts) := by
  induction hparts generalizing closed current with
  | nil => simp [reassemble]
  | cons hpart _ ih =>
    obtain ⟨hdropLast, hany⟩ := (hframed _).part hpart
    rw [List.flatten_cons, List.filterMap_append, reassemble_block fin entries _ hdropLast,
      List.zipWith_cons_cons, reassemble, frameOf, hany]
    split <;> rw [ih]

/-- If every message's requests of a kind are framed, then over any connection the backend,
    given the requests of that kind that went through, reads them as it would read the
    messages one by one, each through `frameOf` of the requests of its part that went
    through. -/
theorem reassemble_wentThrough (publishes : TcsMessage μ ι κ σ τ → Bool)
    (size : PublishMetricsRequest μ ι κ σ → Nat)
    (hframed : ∀ message, FramedIn get? fin (publishes message) (message.requests size))
    (makeRequest : List (TcsRequest μ ι κ σ τ) → TcsRequest μ ι κ σ τ → Option String)
    (messages : List (TcsMessage μ ι κ σ τ)) :
    reassemble fin entries [] []
        ((wentThrough makeRequest [] (publishMessages makeRequest size [] messages)).filterMap get?) =
      reassemble Prod.snd Prod.fst [] []
        (List.zipWith (frameOf get? entries publishes size) messages
          (wentThroughParts makeRequest [] (publishParts makeRequest size [] messages))) := by
  obtain ⟨hrun, hparts⟩ := publishParts_spec makeRequest size [] messages
  rw [hrun, List.nil_append, wentThrough_flatten]
  exact reassemble_parts get? fin entries publishes size hframed hparts.forall₂_wentThrough [] []

end

/-- Whether the client makes a request of a telemetry message: it has metadata and is idle
    or carries a task metric. -/
def TelemetryMessage.publishes (m : TelemetryMessage μ ι κ σ) : Bool :=
  match m.metadata with
  | none => false
  | some metadata => metadata.idle || !m.taskMetrics.isEmpty

/-- `entries` are the task metrics of `m`, each split as the batching may split it. -/
def SplitsMessage (m : TelemetryMessage μ ι κ σ) (entries : List (TaskMetric ι κ σ)) : Prop :=
  ∃ groups, List.Forall₂ IsSplitOf m.taskMetrics groups ∧ entries = groups.flatten

/-- The health metrics of a health message the client makes a request of: it has metadata
    and a non-empty list. -/
def HealthMessage.published? (h : HealthMessage τ) : Option (List τ) :=
  match h.metadata, h.healthMetrics with
  | some _, some l => if l.isEmpty then none else some l
  | _, _ => none

/-- Whether the client makes metrics requests of a message. -/
def TcsMessage.publishesMetrics : TcsMessage μ ι κ σ τ → Bool
  | .metrics m => m.publishes
  | .health _ => false

/-- Whether the client makes health requests of a message. -/
def TcsMessage.publishesHealth : TcsMessage μ ι κ σ τ → Bool
  | .metrics _ => false
  | .health h => h.published?.isSome

/-! ### The framing of telemetry messages -/

/-- A non-idle message with a task metric, or an idle one, is cut into unmarked requests
    ended by one marked request. -/
theorem metricsToPublishMetricRequests_frame (size : PublishMetricsRequest μ ι κ σ → Nat)
    (instanceMetrics : Option μ) (metadata : MetricsMetadata)
    (taskMetrics : List (TaskMetric ι κ σ)) (h : metadata.idle = true ∨ taskMetrics ≠ []) :
    ∃ init last, metricsToPublishMetricRequests size ⟨instanceMetrics, some metadata, taskMetrics⟩ =
        .ok (init ++ [last]) ∧ (∀ r ∈ init, r.metadata.fin = false) ∧ last.metadata.fin = true := by
  cases hidle : metadata.idle
  · obtain ⟨reqs, l, heq, hshaped, -⟩ := metricsToPublishMetricRequests_eq_snoc size instanceMetrics
      metadata taskMetrics hidle (by simpa [hidle] using h)
    exact ⟨reqs, _, heq, fun r hr => by simp [hshaped.metadata_eq r hr], rfl⟩
  · exact ⟨[], _, metricsToPublishMetricRequests_idle size instanceMetrics metadata taskMetrics hidle,
      by simp, rfl⟩

/-- The requests of a telemetry message: none if the client makes no request of it; otherwise
    unmarked requests ended by one marked request, whose task metrics split the message's. -/
theorem convertedRequests_metricsToPublishMetricRequests (size : PublishMetricsRequest μ ι κ σ → Nat)
    (m : TelemetryMessage μ ι κ σ) :
    (m.publishes = false ∧
        convertedRequests (τ := τ) (metricsToPublishMetricRequests size) TcsRequest.metrics m = []) ∨
      (m.publishes = true ∧ ∃ init last,
        convertedRequests (τ := τ) (metricsToPublishMetricRequests size) TcsRequest.metrics m =
          (init ++ [last]).map TcsRequest.metrics ∧
        (∀ r ∈ init, r.metadata.fin = false) ∧ last.metadata.fin = true ∧
        SplitsMessage m ((init ++ [last]).flatMap (·.taskMetrics))) := by
  obtain ⟨instanceMetrics, _ | metadata, taskMetrics⟩ := m
  · exact .inl ⟨rfl, by simp [convertedRequests]⟩
  by_cases hp : metadata.idle = true ∨ taskMetrics ≠ []
  · obtain ⟨init, last, heq, hinit, hlast⟩ :=
      metricsToPublishMetricRequests_frame size instanceMetrics metadata taskMetrics hp
    obtain ⟨groups, hgroups, hflat⟩ :=
      metricsToPublishMetricRequests_groups size instanceMetrics metadata taskMetrics heq
    refine .inr ⟨?_, init, last, by simp [convertedRequests, heq], hinit, hlast, groups, hgroups,
      hflat⟩
    rcases hp with hp | hp <;> simp [TelemetryMessage.publishes, hp]
  · obtain ⟨hidle, rfl⟩ : metadata.idle = false ∧ taskMetrics = [] := by simpa using hp
    exact .inl ⟨by simp [TelemetryMessage.publishes, hidle], by
      simp [convertedRequests, metricsToPublishMetricRequests_of_not_idle _ _ _ _ hidle, sendRemaining]⟩

/-- A message's metrics requests are framed: there are none unless it is a telemetry message
    the client makes a request of, and then they are unmarked requests ended by a marked one. -/
theorem TcsMessage.framedIn_metrics (size : PublishMetricsRequest μ ι κ σ → Nat)
    (message : TcsMessage μ ι κ σ τ) :
    FramedIn TcsRequest.metrics? (fun r : PublishMetricsRequest μ ι κ σ => r.metadata.fin)
      message.publishesMetrics (message.requests size) := by
  cases message with
  | health h =>
    exact .inl ⟨rfl, by simp [TcsMessage.requests, List.filterMap_map, TcsRequest.metrics?,
      Function.comp_def]⟩
  | metrics m =>
    rcases convertedRequests_metricsToPublishMetricRequests (τ := τ) size m with ⟨hpub, heq⟩ |
      ⟨hpub, init, last, heq, hinit, hlast, -⟩
    · exact .inl ⟨hpub, by simp [TcsMessage.requests, heq]⟩
    · refine .inr ⟨hpub, ?_, init, last, ?_, hinit, hlast⟩
      · simp only [TcsMessage.requests, heq, List.mem_map]
        rintro _ ⟨r, -, rfl⟩
        rfl
      · simp [TcsMessage.requests, heq, List.filterMap_map, TcsRequest.metrics?, Function.comp_def]

/-- Whatever the connection does, the backend, given the metrics requests that went through,
    reads them as it would read the messages one by one: each message adds the task metrics
    of its requests that went through, and closes a message exactly when all its requests
    went through and the client makes a request of it. A message cut short by a failure
    closes no message of its own: the task metrics of its requests that went through are read
    as part of the next message the backend closes. -/
theorem publishMessages_reassemble_metrics_parts (size : PublishMetricsRequest μ ι κ σ → Nat)
    (makeRequest : List (TcsRequest μ ι κ σ τ) → TcsRequest μ ι κ σ τ → Option String)
    (messages : List (TcsMessage μ ι κ σ τ)) :
    reassemble (fun r : PublishMetricsRequest μ ι κ σ => r.metadata.fin) (·.taskMetrics) [] []
        ((wentThrough makeRequest [] (publishMessages makeRequest size [] messages)).filterMap
          TcsRequest.metrics?) =
      reassemble Prod.snd Prod.fst [] []
        (List.zipWith (frameOf TcsRequest.metrics? (·.taskMetrics) TcsMessage.publishesMetrics size)
          messages (wentThroughParts makeRequest [] (publishParts makeRequest size [] messages))) :=
  reassemble_wentThrough _ _ _ _ size (TcsMessage.framedIn_metrics size) makeRequest messages

/-- Two telemetry messages, the first of two requests: the connection fails at the second
    request, the one marked `Fin`, and the backend reads the task metric of the first request
    as part of the second message. -/
example :
    let size : PublishMetricsRequest Nat Nat Nat Nat → Nat := fun r =>
      if 2 ≤ r.taskMetrics.length then publishMetricRequestSizeLimit + 1 else 0
    let makeRequest : List (TcsRequest Nat Nat Nat Nat Nat) → TcsRequest Nat Nat Nat Nat Nat →
      Option String := fun made _ => if made.length = 1 then some "closed" else none
    let messages : List (TcsMessage Nat Nat Nat Nat Nat) :=
      [.metrics ⟨none, some ⟨"c", "i", false, "m", false⟩, [⟨1, [1], []⟩, ⟨2, [2], []⟩]⟩,
        .metrics ⟨none, some ⟨"c", "i", false, "n", false⟩, [⟨3, [3], []⟩]⟩]
    reassemble (fun r : PublishMetricsRequest Nat Nat Nat Nat => r.metadata.fin) (·.taskMetrics)
        [] [] ((wentThrough makeRequest [] (publishMessages makeRequest size [] messages)).filterMap
          TcsRequest.metrics?) =
      ([[⟨1, [1], []⟩, ⟨3, [3], []⟩]], []) := by
  decide

/-- The requests of one telemetry message close, at the backend, one message holding a split
    of its task metrics if the client makes a request of it, and nothing otherwise. -/
theorem reassemble_metricsToPublishMetricRequests (size : PublishMetricsRequest μ ι κ σ → Nat)
    (m : TelemetryMessage μ ι κ σ) :
    ∃ frame, List.Forall₂ SplitsMessage ([m].filter (·.publishes)) frame ∧
      ∀ closed rest,
        reassemble (fun r : PublishMetricsRequest μ ι κ σ => r.metadata.fin) (·.taskMetrics) closed []
            ((convertedRequests (τ := τ) (metricsToPublishMetricRequests size)
              TcsRequest.metrics m).filterMap TcsRequest.metrics? ++ rest) =
          reassemble (fun r : PublishMetricsRequest μ ι κ σ => r.metadata.fin) (·.taskMetrics)
            (closed ++ frame) [] rest := by
  rcases convertedRequests_metricsToPublishMetricRequests (τ := τ) size m with ⟨hpub, heq⟩ |
    ⟨hpub, init, last, heq, hinit, hlast, hsplit⟩
  · exact ⟨[], by simp [hpub], fun _ _ => by simp [heq]⟩
  · refine ⟨[(init ++ [last]).flatMap (·.taskMetrics)], by simpa [hpub] using hsplit,
      fun closed rest => ?_⟩
    simp [heq, List.filterMap_map, TcsRequest.metrics?, Function.comp_def,
      reassemble_frame _ _ init last hinit hlast]

/-- The metrics requests of messages received one after the other close, at the backend,
    one message per telemetry message the client makes a request of, in order, each a split
    of its task metrics. -/
theorem reassemble_flatMap_requests (size : PublishMetricsRequest μ ι κ σ → Nat)
    (messages : List (TcsMessage μ ι κ σ τ)) (closed : List (List (TaskMetric ι κ σ))) :
    ∃ frames, List.Forall₂ SplitsMessage
        ((messages.filterMap TcsMessage.metrics?).filter (·.publishes)) frames ∧
      reassemble (fun r : PublishMetricsRequest μ ι κ σ => r.metadata.fin) (·.taskMetrics) closed []
          ((messages.flatMap (TcsMessage.requests size)).filterMap TcsRequest.metrics?) =
        (closed ++ frames, []) := by
  induction messages generalizing closed with
  | nil => exact ⟨[], List.Forall₂.nil, by simp [reassemble]⟩
  | cons message messages ih =>
    cases message with
    | metrics m =>
      obtain ⟨frame, hframe, hre⟩ := reassemble_metricsToPublishMetricRequests (τ := τ) size m
      obtain ⟨frames, hframes, hrun⟩ := ih (closed ++ frame)
      refine ⟨frame ++ frames, ?_, ?_⟩
      · cases hm : m.publishes <;>
          simpa [List.filter_cons, TcsMessage.metrics?, hm] using List.rel_append hframe hframes
      · simp only [List.flatMap_cons, List.filterMap_append, TcsMessage.requests, hre, hrun,
          List.append_assoc]
    | health h =>
      obtain ⟨frames, hframes, hrun⟩ := ih closed
      have hnone : ((TcsMessage.health h : TcsMessage μ ι κ σ τ).requests size).filterMap
          TcsRequest.metrics? = [] :=
        List.filterMap_eq_nil_iff.mpr (by simp [TcsMessage.requests, TcsRequest.metrics?])
      refine ⟨frames, by simpa [TcsMessage.metrics?] using hframes, ?_⟩
      rw [List.flatMap_cons, List.filterMap_append, hnone, List.nil_append, hrun]

/-- Over a connection that never fails, the backend, closing a message at each request
    marked `Fin`, closes one message per telemetry message the client makes a request of, in
    the order received and whatever health messages came between, each holding a split of
    its task metrics, and is left with no open message. -/
theorem publishMessages_reassemble_metrics (size : PublishMetricsRequest μ ι κ σ → Nat)
    (makeRequest : List (TcsRequest μ ι κ σ τ) → TcsRequest μ ι κ σ τ → Option String)
    (hreliable : ∀ made r, makeRequest made r = none) (messages : List (TcsMessage μ ι κ σ τ)) :
    ∃ frames,
      reassemble (fun r : PublishMetricsRequest μ ι κ σ => r.metadata.fin) (·.taskMetrics) [] []
          ((publishMessages makeRequest size [] messages).filterMap TcsRequest.metrics?) =
        (frames, []) ∧
      List.Forall₂ SplitsMessage ((messages.filterMap TcsMessage.metrics?).filter (·.publishes))
        frames := by
  obtain ⟨frames, hframes, hrun⟩ := reassemble_flatMap_requests size messages []
  rw [publishMessages_of_reliable makeRequest size hreliable, List.nil_append]
  exact ⟨frames, by simpa using hrun, hframes⟩

/-- Two telemetry messages, the second idle and empty, around a health message, over a
    connection that never fails. -/
theorem publishMessages_reassemble_metrics_two :
    let makeRequest : List (TcsRequest Nat Nat Nat Nat Nat) → TcsRequest Nat Nat Nat Nat Nat →
      Option String := fun _ _ => none
    let messages : List (TcsMessage Nat Nat Nat Nat Nat) :=
      [.metrics ⟨none, some ⟨"c", "i", false, "m", false⟩, [⟨0, [1], [2]⟩]⟩,
        .health ⟨some ⟨none, none, none, none⟩, some [0]⟩,
        .metrics ⟨none, some ⟨"c", "i", true, "n", false⟩, []⟩]
    (∀ made r, makeRequest made r = none) ∧
    ∃ frames,
      reassemble (fun r : PublishMetricsRequest Nat Nat Nat Nat => r.metadata.fin) (·.taskMetrics)
          [] [] ((publishMessages makeRequest (fun _ => 0) [] messages).filterMap
            TcsRequest.metrics?) =
        (frames, []) ∧
      List.Forall₂ SplitsMessage ((messages.filterMap TcsMessage.metrics?).filter (·.publishes))
        frames :=
  ⟨fun _ _ => rfl, publishMessages_reassemble_metrics _ _ (fun _ _ => rfl) _⟩

/-! ### The framing of health messages -/

/-- A health message the client makes a request of is cut into unmarked requests ended by one
    marked request; any other gets no request. -/
theorem healthToPublishHealthRequests_frame (h : HealthMessage τ) :
    (h.published? = none ∧ healthToPublishHealthRequests h = []) ∨
      (h.published?.isSome ∧ ∃ init last, healthToPublishHealthRequests h = init ++ [last] ∧
        (∀ r ∈ init, decide (r.metadata.fin = some true) = false) ∧
        decide (last.metadata.fin = some true) = true) := by
  match h with
  | ⟨none, _⟩ | ⟨some _, none⟩ =>
    exact .inl ⟨rfl, by simp [healthToPublishHealthRequests]⟩
  | ⟨some metadata, some l⟩ =>
  by_cases hl : l = []
  · subst hl
    exact .inl ⟨rfl, by simp [healthToPublishHealthRequests_eq]⟩
  have hmap := healthToPublishHealthRequests_map_metadata metadata l hl
  obtain ⟨init, lasts, heq, hinit, hlasts⟩ := List.map_eq_append_iff.mp hmap
  obtain ⟨last, tl, rfl, hlast, htl⟩ := List.map_eq_cons_iff.mp hlasts
  rw [List.map_eq_nil_iff] at htl
  subst htl
  refine .inr ⟨by simp [HealthMessage.published?, hl], init, last, heq, fun r hr => ?_,
    by simp [hlast, copyHealthMetadata]⟩
  rw [(List.eq_replicate_iff.mp hinit).2 _ (List.mem_map_of_mem _ hr)]
  simp [copyHealthMetadata]

/-- The requests of a health message the client makes a request of carry its health
    metrics, in order. -/
theorem healthToPublishHealthRequests_flatMap_tasks {h : HealthMessage τ} {l : List τ}
    (hl : h.published? = some l) : (healthToPublishHealthRequests h).flatMap (·.tasks) = l := by
  match h, hl with
  | ⟨none, _⟩, hl | ⟨some _, none⟩, hl => simp [HealthMessage.published?] at hl
  | ⟨some metadata, some l'⟩, hl =>
    simp only [HealthMessage.published?] at hl
    split at hl
    · cases hl
    · cases hl
      rw [List.flatMap_def, healthToPublishHealthRequests_map_tasks,
        flatten_pages (by simp [tasksInHealthMessage])]

/-- The requests of one health message close, at the backend, one message holding its
    health metrics if the client makes a request of it, and nothing otherwise. -/
theorem reassemble_healthToPublishHealthRequests (h : HealthMessage τ)
    (closed : List (List τ)) (rest : List (PublishHealthRequest τ)) :
    reassemble (fun r : PublishHealthRequest τ => decide (r.metadata.fin = some true)) (·.tasks)
        closed [] (healthToPublishHealthRequests h ++ rest) =
      reassemble (fun r : PublishHealthRequest τ => decide (r.metadata.fin = some true)) (·.tasks)
        (closed ++ h.published?.toList) [] rest := by
  rcases healthToPublishHealthRequests_frame h with ⟨hnone, heq⟩ |
    ⟨hsome, init, last, heq, hinit, hlast⟩
  · simp [heq, hnone]
  · obtain ⟨l, hl⟩ := Option.isSome_iff_exists.mp hsome
    rw [heq, List.append_assoc, List.singleton_append, reassemble_frame _ _ init last hinit hlast,
      ← heq, healthToPublishHealthRequests_flatMap_tasks hl, hl]
    simp

/-- A message's health requests are framed: there are none unless it is a health message the
    client makes a request of, and then they are unmarked requests ended by a marked one. -/
theorem TcsMessage.framedIn_health (size : PublishMetricsRequest μ ι κ σ → Nat)
    (message : TcsMessage μ ι κ σ τ) :
    FramedIn TcsRequest.health? (fun r : PublishHealthRequest τ => decide (r.metadata.fin = some true))
      message.publishesHealth (message.requests size) := by
  cases message with
  | metrics m =>
    refine .inl ⟨rfl, ?_⟩
    simp only [TcsMessage.requests, convertedRequests]
    split <;> simp [List.filterMap_eq_nil_iff, TcsRequest.health?]
  | health h =>
    rcases healthToPublishHealthRequests_frame h with ⟨hnone, heq⟩ |
      ⟨hsome, init, last, heq, hinit, hlast⟩
    · exact .inl ⟨by simp [publishesHealth, hnone], by simp [TcsMessage.requests, heq]⟩
    · refine .inr ⟨by simpa [publishesHealth] using hsome, ?_, init, last, ?_, hinit, hlast⟩
      · simp only [TcsMessage.requests, List.mem_map]
        rintro _ ⟨r, -, rfl⟩
        rfl
      · simp [TcsMessage.requests, heq, List.filterMap_map, TcsRequest.health?, Function.comp_def]

/-- Whatever the connection does, the backend, given the health requests that went through,
    reads them as it would read the messages one by one: each message adds the health metrics
    of its requests that went through, and closes a message exactly when all its requests
    went through and the client makes a request of it. The health metrics that went through
    of a message cut short by a failure are read as part of the next message the backend
    closes. -/
theorem publishMessages_reassemble_health_parts (size : PublishMetricsRequest μ ι κ σ → Nat)
    (makeRequest : List (TcsRequest μ ι κ σ τ) → TcsRequest μ ι κ σ τ → Option String)
    (messages : List (TcsMessage μ ι κ σ τ)) :
    reassemble (fun r : PublishHealthRequest τ => decide (r.metadata.fin = some true)) (·.tasks)
        [] [] ((wentThrough makeRequest [] (publishMessages makeRequest size [] messages)).filterMap
          TcsRequest.health?) =
      reassemble Prod.snd Prod.fst [] []
        (List.zipWith (frameOf TcsRequest.health? (·.tasks) TcsMessage.publishesHealth size)
          messages (wentThroughParts makeRequest [] (publishParts makeRequest size [] messages))) :=
  reassemble_wentThrough _ _ _ _ size (TcsMessage.framedIn_health size) makeRequest messages

theorem reassemble_flatMap_healthRequests (size : PublishMetricsRequest μ ι κ σ → Nat)
    (messages : List (TcsMessage μ ι κ σ τ)) (closed : List (List τ)) :
    reassemble (fun r : PublishHealthRequest τ => decide (r.metadata.fin = some true)) (·.tasks)
        closed [] ((messages.flatMap (TcsMessage.requests size)).filterMap TcsRequest.health?) =
      (closed ++ (messages.filterMap TcsMessage.health?).filterMap HealthMessage.published?, []) := by
  induction messages generalizing closed with
  | nil => simp [reassemble]
  | cons message messages ih =>
    cases message with
    | metrics m =>
      have hnone : ((TcsMessage.metrics m : TcsMessage μ ι κ σ τ).requests size).filterMap
          TcsRequest.health? = [] := by
        simp only [TcsMessage.requests, convertedRequests]
        split <;> simp [List.filterMap_eq_nil_iff, TcsRequest.health?]
      rw [List.flatMap_cons, List.filterMap_append, hnone, List.nil_append, ih]
      simp [TcsMessage.health?]
    | health h =>
      have hsome : ((TcsMessage.health h : TcsMessage μ ι κ σ τ).requests size).filterMap
          TcsRequest.health? = healthToPublishHealthRequests h := by
        simp [TcsMessage.requests, List.filterMap_map, TcsRequest.health?, Function.comp_def]
      rw [List.flatMap_cons, List.filterMap_append, hsome, reassemble_healthToPublishHealthRequests,
        ih]
      cases hp : h.published? <;> simp [TcsMessage.health?, List.filterMap_cons, hp]

/-- Over a connection that never fails, the backend, closing a message at each request
    marked `Fin`, closes one message per health message with metadata and health metrics,
    in the order received and whatever telemetry messages came between, each holding
    exactly its health metrics, and is left with no open message. -/
theorem publishMessages_reassemble_health (size : PublishMetricsRequest μ ι κ σ → Nat)
    (makeRequest : List (TcsRequest μ ι κ σ τ) → TcsRequest μ ι κ σ τ → Option String)
    (hreliable : ∀ made r, makeRequest made r = none) (messages : List (TcsMessage μ ι κ σ τ)) :
    reassemble (fun r : PublishHealthRequest τ => decide (r.metadata.fin = some true)) (·.tasks)
        [] [] ((publishMessages makeRequest size [] messages).filterMap TcsRequest.health?) =
      ((messages.filterMap TcsMessage.health?).filterMap HealthMessage.published?, []) := by
  rw [publishMessages_of_reliable makeRequest size hreliable, List.nil_append,
    reassemble_flatMap_healthRequests, List.nil_append]

/-- A health message of twelve entries and an empty one around a telemetry message, over a
    connection that never fails. -/
theorem publishMessages_reassemble_health_twelve :
    let makeRequest : List (TcsRequest Nat Nat Nat Nat Nat) → TcsRequest Nat Nat Nat Nat Nat →
      Option String := fun _ _ => none
    let messages : List (TcsMessage Nat Nat Nat Nat Nat) :=
      [.health ⟨some ⟨some "c", none, none, some "m"⟩, some (List.range 12)⟩,
        .metrics ⟨none, some ⟨"c", "i", false, "m", false⟩, [⟨0, [1], [2]⟩]⟩,
        .health ⟨some ⟨some "c", none, none, some "n"⟩, some []⟩]
    (∀ made r, makeRequest made r = none) ∧
    reassemble (fun r : PublishHealthRequest Nat => decide (r.metadata.fin = some true))
        (·.tasks) [] [] ((publishMessages makeRequest (fun _ => 0) [] messages).filterMap
          TcsRequest.health?) =
      ((messages.filterMap TcsMessage.health?).filterMap HealthMessage.published?, []) :=
  ⟨fun _ _ => rfl, publishMessages_reassemble_health _ _ (fun _ _ => rfl) _⟩

end Tcs

end EcsAgent
