import EcsAgent.Tcs.Batch
import EcsAgent.Tcs.Health
import Mathlib.Data.List.Forall2

/-!
# Publishing on the Connection

`publishMessages` is the client's publishing loop. It takes telemetry messages and health
messages from two channels, in whatever order `select` picks them, until its context is
done. Each message is converted into requests, and `publishMetricsOnce` or
`publishHealthOnce` makes them on the connection one after the other, stopping at the first
error; the error is logged and the loop goes on with the next message.

`MakeRequest` belongs to the websocket client, which is not among the sources, and what it
does is left open: `makeRequest made r` is the error it returns for the request `r` after
the requests `made` before it on the connection, `none` for success. Every theorem here
holds for every such function, that is for every pattern of connection failures.

`publishMetricsOnce` and `publishHealthOnce` are one function, `publishOnce`, at their two
conversions. The health conversion never fails, and enters as one that always succeeds.

`makeRequests` returns every request `MakeRequest` was called on, the one that failed
included. `wentThrough` keeps those that went through, which is all a backend can be sure to
have received. `MadeUntilFailure` says what the loop makes of one message's requests: a
prefix of them that all go through, then, unless that is all of them, the next one, which
fails. `publishParts` cuts the requests the loop makes into the part made for each message,
and `publishParts_spec` says that each part is what `MadeUntilFailure` describes, after the
parts before it, so a failure cuts short only its own message. What the backend makes of the
parts is the subject of `EcsAgent.Tcs.Framing`.

## Main definitions

* `TcsRequest`, `TcsMessage`: What the connection carries and what the loop receives.
* `makeRequests`: The loop of `publishMetricsOnce` and `publishHealthOnce` over requests.
* `wentThrough`, `wentThroughParts`: The requests that went through.
* `publishOnce`, `publishMetricsOnce`, `publishHealthOnce`: Publishing one message.
* `publishMessages`: The publishing loop.
* `publishParts`: The requests made for each message.
* `MadeUntilFailure`, `PartsMade`: What the loop makes of one message, and of each in turn.

## Theorems

* `makeRequests_spec`: The requests made are those up to the first that fails, that one
  included.
* `MadeUntilFailure.prefix`, `MadeUntilFailure.wentThrough_prefix`: What is made, and what of
  it went through, are prefixes of the requests.
* `wentThrough_flatten`: The requests that went through, part by part.
* `publishStep_eq_append`: One message has its requests made up to the first failure.
* `publishParts_spec`: The loop makes the parts in turn, each up to its first failure.
* `publishMessages_prefixes`: Whatever the failures, each message has its requests made up to
  its first failure, in the order received, and all of them over a connection that never
  fails.
-/

namespace EcsAgent

namespace Tcs

variable {μ ι κ σ τ : Type}

/-- A request on the connection: `MakeRequest` takes either kind. -/
inductive TcsRequest (μ ι κ σ τ : Type)
  | metrics (request : PublishMetricsRequest μ ι κ σ)
  | health (request : PublishHealthRequest τ)
  deriving DecidableEq, Repr

/-- A message `publishMessages` receives, from the metrics or from the health channel. -/
inductive TcsMessage (μ ι κ σ τ : Type)
  | metrics (message : TelemetryMessage μ ι κ σ)
  | health (message : HealthMessage τ)
  deriving DecidableEq, Repr

/-- The publish-metrics request, if it is one. -/
def TcsRequest.metrics? : TcsRequest μ ι κ σ τ → Option (PublishMetricsRequest μ ι κ σ)
  | .metrics r => some r
  | .health _ => none

/-- The publish-health request, if it is one. -/
def TcsRequest.health? : TcsRequest μ ι κ σ τ → Option (PublishHealthRequest τ)
  | .metrics _ => none
  | .health r => some r

/-- The telemetry message, if it is one. -/
def TcsMessage.metrics? : TcsMessage μ ι κ σ τ → Option (TelemetryMessage μ ι κ σ)
  | .metrics m => some m
  | .health _ => none

/-- The health message, if it is one. -/
def TcsMessage.health? : TcsMessage μ ι κ σ τ → Option (HealthMessage τ)
  | .metrics _ => none
  | .health h => some h

/-! ### The publishing loop -/

section

variable (makeRequest : List (TcsRequest μ ι κ σ τ) → TcsRequest μ ι κ σ τ → Option String)

/-- The loop of `publishMetricsOnce` and `publishHealthOnce` over the requests: each is made
    in turn, after those already `made`, and the first error stops the loop and is
    returned. The list returned holds every request `MakeRequest` was called on, the one
    that failed included. -/
def makeRequests :
    List (TcsRequest μ ι κ σ τ) → List (TcsRequest μ ι κ σ τ) →
      List (TcsRequest μ ι κ σ τ) × Option String
  | made, [] => (made, none)
  | made, request :: requests =>
    match makeRequest made request with
    | some err => (made ++ [request], some err)
    | none => makeRequests (made ++ [request]) requests

/-- The requests of `requests`, made in turn after the requests `made`, that went through:
    those `makeRequest` returned no error for. -/
def wentThrough :
    List (TcsRequest μ ι κ σ τ) → List (TcsRequest μ ι κ σ τ) → List (TcsRequest μ ι κ σ τ)
  | _, [] => []
  | made, request :: requests =>
    match makeRequest made request with
    | none => request :: wentThrough (made ++ [request]) requests
    | some _ => wentThrough (made ++ [request]) requests

/-- The requests of each part that went through, the parts made in turn after `made`. -/
def wentThroughParts :
    List (TcsRequest μ ι κ σ τ) → List (List (TcsRequest μ ι κ σ τ)) →
      List (List (TcsRequest μ ι κ σ τ))
  | _, [] => []
  | made, part :: parts => wentThrough makeRequest made part :: wentThroughParts (made ++ part) parts

/-- What the loop of `makeRequests`, after the requests `made`, makes of `requests`: the
    requests of a prefix `ok` of them, which all go through, and then nothing more if `ok` is
    all of them, and otherwise the next request, which fails. -/
def MadeUntilFailure (made requests part : List (TcsRequest μ ι κ σ τ)) : Prop :=
  ∃ ok, ok <+: requests ∧ wentThrough makeRequest made ok = ok ∧
    (part = requests ∧ ok = requests ∨
      ∃ r, ok ++ [r] <+: requests ∧ makeRequest (made ++ ok) r ≠ none ∧ part = ok ++ [r])

/-- `publishMetricsOnce` and `publishHealthOnce`: convert the message, return a conversion
    error at once, and otherwise make the requests. -/
def publishOnce {α ρ : Type} (toRequests : α → Except String (List ρ))
    (wrap : ρ → TcsRequest μ ι κ σ τ) (made : List (TcsRequest μ ι κ σ τ)) (message : α) :
    List (TcsRequest μ ι κ σ τ) × Option String :=
  match toRequests message with
  | .error err => (made, some err)
  | .ok requests => makeRequests makeRequest made (requests.map wrap)

/-- `publishMetricsOnce`. -/
def publishMetricsOnce (size : PublishMetricsRequest μ ι κ σ → Nat)
    (made : List (TcsRequest μ ι κ σ τ)) (message : TelemetryMessage μ ι κ σ) :
    List (TcsRequest μ ι κ σ τ) × Option String :=
  publishOnce makeRequest (metricsToPublishMetricRequests size) TcsRequest.metrics made message

/-- `publishHealthOnce`. Its conversion returns no error. -/
def publishHealthOnce (made : List (TcsRequest μ ι κ σ τ)) (health : HealthMessage τ) :
    List (TcsRequest μ ι κ σ τ) × Option String :=
  publishOnce makeRequest (fun h => .ok (healthToPublishHealthRequests h)) TcsRequest.health
    made health

/-- One message of `publishMessages`: it is published, and an error is logged. -/
def publishStep (size : PublishMetricsRequest μ ι κ σ → Nat) (made : List (TcsRequest μ ι κ σ τ)) :
    TcsMessage μ ι κ σ τ → List (TcsRequest μ ι κ σ τ)
  | .metrics m => (publishMetricsOnce makeRequest size made m).1
  | .health h => (publishHealthOnce makeRequest made h).1

/-- `publishMessages`, over the messages received before the context is done, in the order
    received. Returns the requests made on the connection. -/
def publishMessages (size : PublishMetricsRequest μ ι κ σ → Nat)
    (made : List (TcsRequest μ ι κ σ τ)) (messages : List (TcsMessage μ ι κ σ τ)) :
    List (TcsRequest μ ι κ σ τ) :=
  messages.foldl (publishStep makeRequest size) made

/-- The requests `publishMessages` makes for each message, in the order received: what one
    step adds to the requests already made. -/
def publishParts (size : PublishMetricsRequest μ ι κ σ → Nat) (made : List (TcsRequest μ ι κ σ τ)) :
    List (TcsMessage μ ι κ σ τ) → List (List (TcsRequest μ ι κ σ τ))
  | [] => []
  | message :: messages =>
    (publishStep makeRequest size made message).drop made.length ::
      publishParts size (publishStep makeRequest size made message) messages

end

/-- The requests a conversion gives, none if it fails. -/
def convertedRequests {α ρ : Type} (toRequests : α → Except String (List ρ))
    (wrap : ρ → TcsRequest μ ι κ σ τ) (message : α) : List (TcsRequest μ ι κ σ τ) :=
  match toRequests message with
  | .error _ => []
  | .ok requests => requests.map wrap

/-- The requests the client converts a message into. -/
def TcsMessage.requests (size : PublishMetricsRequest μ ι κ σ → Nat) :
    TcsMessage μ ι κ σ τ → List (TcsRequest μ ι κ σ τ)
  | .metrics m => convertedRequests (metricsToPublishMetricRequests size) TcsRequest.metrics m
  | .health h => (healthToPublishHealthRequests h).map TcsRequest.health

/-- What the loop of `publishMessages`, after the requests `made`, makes of the messages:
    one part per message, in turn, each what the loop of `makeRequests` makes of the
    message's requests after the parts before it. -/
def PartsMade (makeRequest : List (TcsRequest μ ι κ σ τ) → TcsRequest μ ι κ σ τ → Option String)
    (size : PublishMetricsRequest μ ι κ σ → Nat) :
    List (TcsRequest μ ι κ σ τ) → List (TcsMessage μ ι κ σ τ) → List (List (TcsRequest μ ι κ σ τ)) →
      Prop
  | _, [], parts => parts = []
  | made, message :: messages, parts =>
    ∃ part rest, parts = part :: rest ∧ MadeUntilFailure makeRequest made (message.requests size) part ∧
      PartsMade makeRequest size (made ++ part) messages rest

section

variable (makeRequest : List (TcsRequest μ ι κ σ τ) → TcsRequest μ ι κ σ τ → Option String)

@[simp] theorem wentThrough_nil (made : List (TcsRequest μ ι κ σ τ)) :
    wentThrough makeRequest made [] = [] := rfl

theorem wentThrough_append (made l₁ l₂ : List (TcsRequest μ ι κ σ τ)) :
    wentThrough makeRequest made (l₁ ++ l₂) =
      wentThrough makeRequest made l₁ ++ wentThrough makeRequest (made ++ l₁) l₂ := by
  induction l₁ generalizing made with
  | nil => simp
  | cons r rs ih =>
    cases h : makeRequest made r <;> simp [wentThrough, h, ih]

/-- The requests of the parts that went through are those of their concatenation. -/
theorem wentThrough_flatten (made : List (TcsRequest μ ι κ σ τ))
    (parts : List (List (TcsRequest μ ι κ σ τ))) :
    wentThrough makeRequest made parts.flatten = (wentThroughParts makeRequest made parts).flatten := by
  induction parts generalizing made with
  | nil => rfl
  | cons part parts ih => rw [List.flatten_cons, wentThrough_append, ih]; rfl

/-- The loop of `makeRequests` makes, after the requests before, the part of the requests
    that `MadeUntilFailure` describes. -/
theorem makeRequests_spec (made requests : List (TcsRequest μ ι κ σ τ)) :
    ∃ part, (makeRequests makeRequest made requests).1 = made ++ part ∧
      MadeUntilFailure makeRequest made requests part := by
  induction requests generalizing made with
  | nil => exact ⟨[], by simp [makeRequests], [], List.prefix_refl _, rfl, .inl ⟨rfl, rfl⟩⟩
  | cons r rs ih =>
    cases h : makeRequest made r with
    | some e =>
      -- the first request fails: it is the only one made
      exact ⟨[r], by simp [makeRequests, h], [], List.nil_prefix, rfl,
        .inr ⟨r, by simp, by simp [h], rfl⟩⟩
    | none =>
      obtain ⟨part, hmade, ok, hok, hthrough, hend⟩ := ih (made ++ [r])
      refine ⟨r :: part, by simp [makeRequests, h, hmade], r :: ok,
        List.cons_prefix_cons.mpr ⟨rfl, hok⟩, by simp [wentThrough, h, hthrough], ?_⟩
      rcases hend with ⟨rfl, rfl⟩ | ⟨r', hr', hfail, rfl⟩
      · exact .inl ⟨rfl, rfl⟩
      · exact .inr ⟨r', List.cons_prefix_cons.mpr ⟨rfl, hr'⟩, by simpa using hfail, rfl⟩

section

variable {makeRequest} {made requests part : List (TcsRequest μ ι κ σ τ)}

/-- What is made of the requests is a prefix of them. -/
theorem MadeUntilFailure.prefix (h : MadeUntilFailure makeRequest made requests part) :
    part <+: requests := by
  obtain ⟨ok, -, -, ⟨rfl, -⟩ | ⟨r, hr, -, rfl⟩⟩ := h
  exacts [List.prefix_refl _, hr]

/-- Over a connection that never fails, all of the requests are made. -/
theorem MadeUntilFailure.eq_of_reliable (h : MadeUntilFailure makeRequest made requests part)
    (hreliable : ∀ made r, makeRequest made r = none) : part = requests := by
  obtain ⟨ok, -, -, ⟨rfl, -⟩ | ⟨r, -, hfail, -⟩⟩ := h
  exacts [rfl, absurd (hreliable _ _) hfail]

/-- The requests of what is made that went through are a prefix of the requests: the failed
    request, if any, is the last one made. -/
theorem MadeUntilFailure.wentThrough_prefix (h : MadeUntilFailure makeRequest made requests part) :
    wentThrough makeRequest made part <+: requests := by
  obtain ⟨ok, hok, hthrough, ⟨rfl, rfl⟩ | ⟨r, -, hfail, rfl⟩⟩ := h
  · simpa only [hthrough] using hok
  · obtain ⟨err, herr⟩ := Option.ne_none_iff_exists'.mp hfail
    simpa [wentThrough_append, hthrough, wentThrough, herr] using hok

end

/-- Over a connection that never fails, every request is made. -/
theorem makeRequests_of_reliable (hreliable : ∀ made r, makeRequest made r = none)
    (made requests : List (TcsRequest μ ι κ σ τ)) :
    (makeRequests makeRequest made requests).1 = made ++ requests := by
  obtain ⟨part, hmade, hpart⟩ := makeRequests_spec makeRequest made requests
  rw [hmade, hpart.eq_of_reliable hreliable]

theorem publishOnce_fst {α ρ : Type} (toRequests : α → Except String (List ρ))
    (wrap : ρ → TcsRequest μ ι κ σ τ) (made : List (TcsRequest μ ι κ σ τ)) (message : α) :
    (publishOnce makeRequest toRequests wrap made message).1 =
      (makeRequests makeRequest made (convertedRequests toRequests wrap message)).1 := by
  unfold publishOnce convertedRequests
  split <;> simp [makeRequests]

theorem publishStep_eq (size : PublishMetricsRequest μ ι κ σ → Nat)
    (made : List (TcsRequest μ ι κ σ τ)) (message : TcsMessage μ ι κ σ τ) :
    publishStep makeRequest size made message =
      (makeRequests makeRequest made (message.requests size)).1 := by
  cases message <;> simp [publishStep, publishMetricsOnce, publishHealthOnce, publishOnce_fst,
    TcsMessage.requests, convertedRequests]

/-- Over a connection that never fails, the requests of every message are made, in the order
    the messages were received. -/
theorem publishMessages_of_reliable (size : PublishMetricsRequest μ ι κ σ → Nat)
    (hreliable : ∀ made r, makeRequest made r = none) (made : List (TcsRequest μ ι κ σ τ))
    (messages : List (TcsMessage μ ι κ σ τ)) :
    publishMessages makeRequest size made messages =
      made ++ messages.flatMap (TcsMessage.requests size) := by
  induction messages generalizing made with
  | nil => simp [publishMessages]
  | cons m ms ih =>
    simp only [publishMessages, List.foldl_cons] at ih ⊢
    rw [ih, publishStep_eq, makeRequests_of_reliable makeRequest hreliable]
    simp

/-- One step makes, after the requests already made, what `MadeUntilFailure` describes of
    the message's requests. -/
theorem publishStep_eq_append (size : PublishMetricsRequest μ ι κ σ → Nat)
    (made : List (TcsRequest μ ι κ σ τ)) (message : TcsMessage μ ι κ σ τ) :
    ∃ part, publishStep makeRequest size made message = made ++ part ∧
      MadeUntilFailure makeRequest made (message.requests size) part := by
  rw [publishStep_eq]
  exact makeRequests_spec makeRequest made (message.requests size)

theorem publishParts_cons (size : PublishMetricsRequest μ ι κ σ → Nat)
    {made part : List (TcsRequest μ ι κ σ τ)} {message : TcsMessage μ ι κ σ τ}
    (hstep : publishStep makeRequest size made message = made ++ part)
    (messages : List (TcsMessage μ ι κ σ τ)) :
    publishParts makeRequest size made (message :: messages) =
      part :: publishParts makeRequest size (made ++ part) messages := by
  rw [publishParts, hstep, List.drop_left]

/-- The requests made are those made before, then the parts of the messages in turn, each
    what the loop of `makeRequests` makes of its message's requests. -/
theorem publishParts_spec (size : PublishMetricsRequest μ ι κ σ → Nat)
    (made : List (TcsRequest μ ι κ σ τ)) (messages : List (TcsMessage μ ι κ σ τ)) :
    publishMessages makeRequest size made messages =
        made ++ (publishParts makeRequest size made messages).flatten ∧
      PartsMade makeRequest size made messages (publishParts makeRequest size made messages) := by
  induction messages generalizing made with
  | nil => exact ⟨by simp [publishMessages, publishParts], rfl⟩
  | cons m ms ih =>
    obtain ⟨part, hstep, hpart⟩ := publishStep_eq_append makeRequest size made m
    obtain ⟨hrun, hparts⟩ := ih (made ++ part)
    rw [publishParts_cons makeRequest size hstep]
    refine ⟨?_, part, _, rfl, hpart, hparts⟩
    rw [publishMessages, List.foldl_cons, hstep, ← publishMessages, hrun, List.flatten_cons,
      List.append_assoc]

section

variable {makeRequest} {size : PublishMetricsRequest μ ι κ σ → Nat}

/-- Over a connection that never fails, every part is all of its message's requests. -/
theorem PartsMade.eq_of_reliable {made : List (TcsRequest μ ι κ σ τ)}
    {messages : List (TcsMessage μ ι κ σ τ)} {parts : List (List (TcsRequest μ ι κ σ τ))}
    (h : PartsMade makeRequest size made messages parts)
    (hreliable : ∀ made r, makeRequest made r = none) :
    parts = messages.map (TcsMessage.requests size) := by
  induction messages generalizing made parts with
  | nil => exact h
  | cons m ms ih =>
    obtain ⟨part, rest, rfl, hpart, hrest⟩ := h
    rw [hpart.eq_of_reliable hreliable, ih hrest, List.map_cons]

/-- The requests of each part that went through are a prefix of its message's requests. -/
theorem PartsMade.forall₂_wentThrough {made : List (TcsRequest μ ι κ σ τ)}
    {messages : List (TcsMessage μ ι κ σ τ)} {parts : List (List (TcsRequest μ ι κ σ τ))}
    (h : PartsMade makeRequest size made messages parts) :
    List.Forall₂ (fun message part => part <+: message.requests size) messages
      (wentThroughParts makeRequest made parts) := by
  induction messages generalizing made parts with
  | nil => cases h; exact .nil
  | cons m ms ih =>
    obtain ⟨part, rest, rfl, hpart, hrest⟩ := h
    exact .cons hpart.wentThrough_prefix (ih hrest)

end

/-- Whatever the connection does, the loop makes, for each message in turn, a prefix of its
    requests: those up to the first that fails, that one included, and all of them if none
    fails. A failure on one message does not stop the next, no request is made twice, out of
    order, or of a message it does not belong to, and over a connection that never fails,
    every request is made. -/
theorem publishMessages_prefixes (size : PublishMetricsRequest μ ι κ σ → Nat)
    (made : List (TcsRequest μ ι κ σ τ)) (messages : List (TcsMessage μ ι κ σ τ)) :
    ∃ parts, PartsMade makeRequest size made messages parts ∧
      publishMessages makeRequest size made messages = made ++ parts.flatten ∧
      ((∀ made r, makeRequest made r = none) → parts = messages.map (TcsMessage.requests size)) :=
  have h := publishParts_spec makeRequest size made messages
  ⟨_, h.2, h.1, h.2.eq_of_reliable⟩

end

end Tcs

end EcsAgent
