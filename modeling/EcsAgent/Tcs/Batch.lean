import EcsAgent.Tcs.Model

/-!
# Batching Task Metrics into Requests

`metricsToPublishMetricRequests` and `serviceConnectMetricsToPublishMetricRequests`, the
two nested loops that cut a telemetry message into publish-metrics requests.

The outer loop walks the task metrics and keeps a batch: the requests made so far and the
task metrics waiting for the next request. For each task metric it first measures the
batch with that task metric added, without its service connect metrics, and sends the
batch if that overflows the size limit. A task metric with service connect metrics then
goes through the inner loop, which adds them one at a time to an entry being filled and,
whenever the next one would overflow, sends the batch with the entry as it was and starts
a new entry for the same task with no container metrics. Whatever entry is left is
appended to the batch, and a batch of `tasksInMetricMessage` entries is sent as a page.
After the loop the remaining entries go out in a last request marked `Fin`.

The size of a request is `len(jsonutil.BuildJSON(request))` in the source. Nothing here
depends on how JSON is printed, so the size is a parameter: any function from requests to
numbers. Every theorem about the batching holds for every such function, which is every
pattern of overflows the limit can produce.

The outer loop body is split in three at the source's own seams (the size check, the
service connect loop, the page check), each a definition of its own, and `taskMetricStep`
composes them. Every place the source flushes the batch is the same two lines, so it is
one operation, `MetricsBatch.send`.

The model rests on one assumption about aliasing. The inner loop (`client.go`, lines 262 to
291) starts its entry from `ServiceConnectMetricsWrapper[:0]`, a slice of the task metric's
own array, so its appends write the service connect metrics it collects back into the array
it is ranging over, and the entry it returns, which the last request carries without a
copy, still points into that array. The writes land at or below the index being read and
after it has been read, so the loop itself sees the original metrics. The model reads task
metrics as values, and so assumes that no two task metrics of a message share that array:
if two did, the writes for one would show in the other.

## Main definitions

* `MetricsBatch`: The requests made so far and the task metrics waiting for the next one.
* `MetricsBatch.send`: Flush the waiting task metrics into a request.
* `serviceConnectMetricStep`, `serviceConnectMetricsToPublishMetricRequests`: The inner loop.
* `flushIfOverflowing`, `addServiceConnectMetrics`, `appendTaskMetric`: The three parts of
  the outer loop's body.
* `taskMetricStep`, `metricsLoop`: The outer loop.
* `sendRemaining`: The last request, after the loop.
* `metricsToPublishMetricRequests`: The whole conversion.

## Theorems

* `metricsLoop_append`: The outer loop over two lists runs over one, then the other.
* `serviceConnectMetricStep_cases`, `flushIfOverflowing_cases`, `appendTaskMetric_cases`:
  Everything one part of an iteration can do.
* `addServiceConnectMetrics_eq`: The `nil` check before the inner loop is inert.
* `taskMetricStep_eq`: Every send of an iteration filters the instance metrics at the
  request count of its own moment.
-/

namespace EcsAgent

namespace Tcs

variable {μ ι κ σ : Type}

/-- The two slices of `metricsToPublishMetricRequests` that live across iterations: the
    requests made so far and the task metrics waiting for the next request. -/
structure MetricsBatch (μ ι κ σ : Type) where
  requests : List (PublishMetricsRequest μ ι κ σ)
  messageTaskMetrics : List (TaskMetric ι κ σ)

/-- The flush at every send point of the source: a request carrying a copy of the waiting
    task metrics is appended, and the waiting task metrics are reset. -/
def MetricsBatch.send (b : MetricsBatch μ ι κ σ) (instanceMetrics : Option μ)
    (requestMetadata : MetricsMetadata) : MetricsBatch μ ι κ σ :=
  { requests := b.requests ++
      [newPublishMetricsRequest instanceMetrics requestMetadata (copyTaskMetrics b.messageTaskMetrics)]
    messageTaskMetrics := [] }

@[simp] theorem MetricsBatch.send_requests (b : MetricsBatch μ ι κ σ) (im : Option μ)
    (md : MetricsMetadata) :
    (b.send im md).requests = b.requests ++ [⟨im, md, b.messageTaskMetrics⟩] := rfl

@[simp] theorem MetricsBatch.send_messageTaskMetrics (b : MetricsBatch μ ι κ σ) (im : Option μ)
    (md : MetricsMetadata) : (b.send im md).messageTaskMetrics = [] := rfl

/-- The state of the inner loop: the entry being filled, and the batch. -/
structure ServiceConnectBatch (μ ι κ σ : Type) where
  tempTaskMetric : TaskMetric ι κ σ
  batch : MetricsBatch μ ι κ σ

/-! ### The inner loop -/

section

variable (size : PublishMetricsRequest μ ι κ σ → Nat)

/-- One iteration of the loop of `serviceConnectMetricsToPublishMetricRequests`. The metric
    joins the entry being filled, and the batch is measured with that entry. On overflow
    the metric is taken back out, the batch is sent with the entry as it was, and a new
    entry is started holding this metric alone and no container metrics. -/
def serviceConnectMetricStep (instanceMetrics : Option μ) (requestMetadata : MetricsMetadata)
    (s : ServiceConnectBatch μ ι κ σ) (serviceConnectMetric : σ) : ServiceConnectBatch μ ι κ σ :=
  let messageInstanceMetrics := filterInstanceMetrics instanceMetrics s.batch.requests.length
  let tempTaskMetric := { s.tempTaskMetric with
    serviceConnectMetricsWrapper :=
      s.tempTaskMetric.serviceConnectMetricsWrapper ++ [serviceConnectMetric] }
  let tempMessage := newPublishMetricsRequest messageInstanceMetrics requestMetadata
    (copyTaskMetrics (s.batch.messageTaskMetrics ++ [tempTaskMetric]))
  if size tempMessage > publishMetricRequestSizeLimit then
    let tempTaskMetric := { tempTaskMetric with
      serviceConnectMetricsWrapper := tempTaskMetric.serviceConnectMetricsWrapper.dropLast }
    let taskMetricTruncated := { tempTaskMetric with
      serviceConnectMetricsWrapper :=
        copyServiceConnectMetrics tempTaskMetric.serviceConnectMetricsWrapper }
    { tempTaskMetric := { tempTaskMetric with
        serviceConnectMetricsWrapper := [serviceConnectMetric], containerMetrics := [] }
      batch := MetricsBatch.send
        { s.batch with messageTaskMetrics := s.batch.messageTaskMetrics ++ [taskMetricTruncated] }
        messageInstanceMetrics requestMetadata }
  else { s with tempTaskMetric := tempTaskMetric }

/-- `serviceConnectMetricsToPublishMetricRequests`: the task metric's service connect
    metrics added one at a time, starting from the task metric without any. It returns the
    entry still being filled and the batch. The source fills the entry in the task metric's
    own array; read as values here, which assumes no other task metric shares that array. -/
def serviceConnectMetricsToPublishMetricRequests (instanceMetrics : Option μ)
    (requestMetadata : MetricsMetadata) (taskMetric : TaskMetric ι κ σ)
    (b : MetricsBatch μ ι κ σ) : ServiceConnectBatch μ ι κ σ :=
  taskMetric.serviceConnectMetricsWrapper.foldl
    (serviceConnectMetricStep size instanceMetrics requestMetadata)
    { tempTaskMetric := { taskMetric with serviceConnectMetricsWrapper := [] }, batch := b }

/-! ### The outer loop -/

/-- The size check of the outer loop: the batch with the task metric added, stripped of its
    service connect metrics, is measured, and the batch is sent first if that overflows. -/
def flushIfOverflowing (messageInstanceMetrics : Option μ) (requestMetadata : MetricsMetadata)
    (taskMetric : TaskMetric ι κ σ) (b : MetricsBatch μ ι κ σ) : MetricsBatch μ ι κ σ :=
  let tempTaskMetric := { taskMetric with serviceConnectMetricsWrapper := [] }
  let tmsg := newPublishMetricsRequest messageInstanceMetrics requestMetadata
    (copyTaskMetrics (b.messageTaskMetrics ++ [tempTaskMetric]))
  if size tmsg > publishMetricRequestSizeLimit then
    b.send messageInstanceMetrics requestMetadata
  else b

/-- A task metric with service connect metrics goes through the inner loop; one without
    is the entry as it is. A nil slice and an empty one are the same list here, and on an
    empty one the inner loop returns the task metric unchanged. -/
def addServiceConnectMetrics (messageInstanceMetrics : Option μ)
    (requestMetadata : MetricsMetadata) (taskMetric : TaskMetric ι κ σ)
    (b : MetricsBatch μ ι κ σ) : ServiceConnectBatch μ ι κ σ :=
  if taskMetric.serviceConnectMetricsWrapper.isEmpty then ⟨taskMetric, b⟩
  else serviceConnectMetricsToPublishMetricRequests size messageInstanceMetrics requestMetadata
    taskMetric b

end

/-- The entry joins the batch, and a batch holding a multiple of `tasksInMetricMessage`
    entries is sent as a page. -/
def appendTaskMetric (messageInstanceMetrics : Option μ) (requestMetadata : MetricsMetadata)
    (s : ServiceConnectBatch μ ι κ σ) : MetricsBatch μ ι κ σ :=
  let b := { s.batch with messageTaskMetrics := s.batch.messageTaskMetrics ++ [s.tempTaskMetric] }
  if b.messageTaskMetrics.length % tasksInMetricMessage = 0 then
    b.send messageInstanceMetrics requestMetadata
  else b

section

variable (size : PublishMetricsRequest μ ι κ σ → Nat) (instanceMetrics : Option μ)
  (metadata : MetricsMetadata) (numTasks : Nat)

/-- One iteration of the outer loop, for the task metric at index `i` of `numTasks`. The
    page sent by the last iteration is marked `Fin`. -/
def taskMetricStep (b : MetricsBatch μ ι κ σ) (i : Nat) (taskMetric : TaskMetric ι κ σ) :
    MetricsBatch μ ι κ σ :=
  let messageInstanceMetrics := filterInstanceMetrics instanceMetrics b.requests.length
  let requestMetadata := copyMetricsMetadata metadata false
  let b := flushIfOverflowing size messageInstanceMetrics requestMetadata taskMetric b
  let s := addServiceConnectMetrics size messageInstanceMetrics requestMetadata taskMetric b
  appendTaskMetric messageInstanceMetrics
    (if i + 1 = numTasks then copyMetricsMetadata metadata true else requestMetadata) s

/-- The loop `for i, taskMetric := range taskMetrics`, from index `i` on. -/
def metricsLoop : Nat → List (TaskMetric ι κ σ) → MetricsBatch μ ι κ σ → MetricsBatch μ ι κ σ
  | _, [], b => b
  | i, taskMetric :: taskMetrics, b =>
    metricsLoop (i + 1) taskMetrics (taskMetricStep size instanceMetrics metadata numTasks b i taskMetric)

@[simp] theorem metricsLoop_nil (i : Nat) (b : MetricsBatch μ ι κ σ) :
    metricsLoop size instanceMetrics metadata numTasks i [] b = b := rfl

@[simp] theorem metricsLoop_cons (i : Nat) (t : TaskMetric ι κ σ) (ts : List (TaskMetric ι κ σ))
    (b : MetricsBatch μ ι κ σ) :
    metricsLoop size instanceMetrics metadata numTasks i (t :: ts) b =
      metricsLoop size instanceMetrics metadata numTasks (i + 1) ts
        (taskMetricStep size instanceMetrics metadata numTasks b i t) := rfl

theorem metricsLoop_append (i : Nat) (xs ys : List (TaskMetric ι κ σ)) (b : MetricsBatch μ ι κ σ) :
    metricsLoop size instanceMetrics metadata numTasks i (xs ++ ys) b =
      metricsLoop size instanceMetrics metadata numTasks (i + xs.length) ys
        (metricsLoop size instanceMetrics metadata numTasks i xs b) := by
  induction xs generalizing i b with
  | nil => rfl
  | cons x xs ih => simp only [List.cons_append, metricsLoop_cons, ih, List.length_cons]; rw [Nat.add_assoc, Nat.add_comm 1]

end

/-- After the loop, the task metrics left waiting go out in a last request, marked `Fin`. -/
def sendRemaining (instanceMetrics : Option μ) (metadata : MetricsMetadata)
    (b : MetricsBatch μ ι κ σ) : List (PublishMetricsRequest μ ι κ σ) :=
  if b.messageTaskMetrics.length > 0 then
    b.requests ++ [newPublishMetricsRequest
      (filterInstanceMetrics instanceMetrics b.requests.length)
      (copyMetricsMetadata metadata true) b.messageTaskMetrics]
  else b.requests

/-- `metricsToPublishMetricRequests`. A message without metadata is an error. An idle
    instance sends one request, with the message as it is and marked `Fin`. Otherwise the
    outer loop runs and the task metrics left waiting are sent. -/
def metricsToPublishMetricRequests (size : PublishMetricsRequest μ ι κ σ → Nat)
    (metrics : TelemetryMessage μ ι κ σ) : Except String (List (PublishMetricsRequest μ ι κ σ)) :=
  match metrics.metadata with
  | none => .error "nil metrics metadata"
  | some metadata =>
    if metadata.idle then
      .ok [newPublishMetricsRequest metrics.instanceMetrics { metadata with fin := true }
        metrics.taskMetrics]
    else
      .ok (sendRemaining metrics.instanceMetrics metadata
        (metricsLoop size metrics.instanceMetrics metadata metrics.taskMetrics.length 0
          metrics.taskMetrics ⟨[], []⟩))

section

variable (size : PublishMetricsRequest μ ι κ σ → Nat) (instanceMetrics : Option μ)
  (metadata : MetricsMetadata) (taskMetrics : List (TaskMetric ι κ σ))

@[simp] theorem metricsToPublishMetricRequests_nil_metadata :
    metricsToPublishMetricRequests size ⟨instanceMetrics, none, taskMetrics⟩ =
      .error "nil metrics metadata" := rfl

theorem metricsToPublishMetricRequests_idle (h : metadata.idle = true) :
    metricsToPublishMetricRequests size ⟨instanceMetrics, some metadata, taskMetrics⟩ =
      .ok [⟨instanceMetrics, { metadata with fin := true }, taskMetrics⟩] := by
  simp [metricsToPublishMetricRequests, h, newPublishMetricsRequest]

theorem metricsToPublishMetricRequests_of_not_idle (h : metadata.idle = false) :
    metricsToPublishMetricRequests size ⟨instanceMetrics, some metadata, taskMetrics⟩ =
      .ok (sendRemaining instanceMetrics metadata
        (metricsLoop size instanceMetrics metadata taskMetrics.length 0 taskMetrics ⟨[], []⟩)) := by
  simp [metricsToPublishMetricRequests, h]

/-- A message with metadata always converts. -/
theorem metricsToPublishMetricRequests_isOk :
    ∃ reqs, metricsToPublishMetricRequests size ⟨instanceMetrics, some metadata, taskMetrics⟩ =
      .ok reqs := by
  cases h : metadata.idle
  exacts [⟨_, metricsToPublishMetricRequests_of_not_idle size instanceMetrics metadata taskMetrics h⟩,
    ⟨_, metricsToPublishMetricRequests_idle size instanceMetrics metadata taskMetrics h⟩]

end

/-! ### What each part of an iteration does

One lemma per part of the loop body, saying everything it can do with the copies and the
`dropLast` taken out, so that no later proof unfolds the model. -/

section

variable (size : PublishMetricsRequest μ ι κ σ → Nat) (md : MetricsMetadata)

theorem serviceConnectMetricStep_cases (instanceMetrics : Option μ)
    (s : ServiceConnectBatch μ ι κ σ) (m : σ) :
    (size ⟨filterInstanceMetrics instanceMetrics s.batch.requests.length, md,
        s.batch.messageTaskMetrics ++ [{ s.tempTaskMetric with serviceConnectMetricsWrapper :=
          s.tempTaskMetric.serviceConnectMetricsWrapper ++ [m] }]⟩ > publishMetricRequestSizeLimit ∧
      serviceConnectMetricStep size instanceMetrics md s m =
        ⟨{ s.tempTaskMetric with serviceConnectMetricsWrapper := [m], containerMetrics := [] },
          ⟨s.batch.requests ++ [⟨filterInstanceMetrics instanceMetrics s.batch.requests.length, md,
            s.batch.messageTaskMetrics ++ [s.tempTaskMetric]⟩], []⟩⟩) ∨
    (¬ size ⟨filterInstanceMetrics instanceMetrics s.batch.requests.length, md,
        s.batch.messageTaskMetrics ++ [{ s.tempTaskMetric with serviceConnectMetricsWrapper :=
          s.tempTaskMetric.serviceConnectMetricsWrapper ++ [m] }]⟩ > publishMetricRequestSizeLimit ∧
      serviceConnectMetricStep size instanceMetrics md s m =
        ⟨{ s.tempTaskMetric with serviceConnectMetricsWrapper :=
          s.tempTaskMetric.serviceConnectMetricsWrapper ++ [m] }, s.batch⟩) := by
  dsimp only [serviceConnectMetricStep]
  split
  · exact Or.inl ⟨‹_›, by simp [MetricsBatch.send, newPublishMetricsRequest]⟩
  · exact Or.inr ⟨‹_›, rfl⟩

theorem flushIfOverflowing_cases (im : Option μ) (t : TaskMetric ι κ σ) (b : MetricsBatch μ ι κ σ) :
    (size ⟨im, md, b.messageTaskMetrics ++ [{ t with serviceConnectMetricsWrapper := [] }]⟩ >
        publishMetricRequestSizeLimit ∧
      flushIfOverflowing size im md t b = ⟨b.requests ++ [⟨im, md, b.messageTaskMetrics⟩], []⟩) ∨
    (¬ size ⟨im, md, b.messageTaskMetrics ++ [{ t with serviceConnectMetricsWrapper := [] }]⟩ >
        publishMetricRequestSizeLimit ∧
      flushIfOverflowing size im md t b = b) := by
  dsimp only [flushIfOverflowing]
  split
  · exact Or.inl ⟨‹_›, rfl⟩
  · exact Or.inr ⟨‹_›, rfl⟩

end

theorem appendTaskMetric_cases (im : Option μ) (md : MetricsMetadata)
    (s : ServiceConnectBatch μ ι κ σ) :
    ((s.batch.messageTaskMetrics.length + 1) % tasksInMetricMessage = 0 ∧
      appendTaskMetric im md s =
        ⟨s.batch.requests ++ [⟨im, md, s.batch.messageTaskMetrics ++ [s.tempTaskMetric]⟩], []⟩) ∨
    (¬ (s.batch.messageTaskMetrics.length + 1) % tasksInMetricMessage = 0 ∧
      appendTaskMetric im md s = ⟨s.batch.requests, s.batch.messageTaskMetrics ++ [s.tempTaskMetric]⟩) := by
  dsimp only [appendTaskMetric]
  split <;> rename_i h
  · exact Or.inl ⟨by simpa using h, rfl⟩
  · exact Or.inr ⟨by simpa using h, rfl⟩

/-! ### Normalising the loop body

The outer loop filters the instance metrics once, at the top of an iteration, and hands the
filtered value to the inner loop, which filters it again at its own request count; the page
check reuses the value from the top. The lemmas below show that each of these is the
filter at the request count of the moment it is used: the inner loop's double filter
because request counts only grow, the page check's because a page is only ever sent by an
iteration that has sent nothing before. -/

section

variable (size : PublishMetricsRequest μ ι κ σ → Nat) (instanceMetrics : Option μ)
  (md : MetricsMetadata)

theorem length_requests_le_serviceConnectMetricStep (s : ServiceConnectBatch μ ι κ σ) (m : σ) :
    s.batch.requests.length ≤
      (serviceConnectMetricStep size instanceMetrics md s m).batch.requests.length := by
  rcases serviceConnectMetricStep_cases size md instanceMetrics s m with ⟨-, h⟩ | ⟨-, h⟩ <;>
    simp [h]

theorem foldl_serviceConnectMetricStep_filterInstanceMetrics (k : Nat) (ms : List σ)
    (s : ServiceConnectBatch μ ι κ σ) (hk : k ≤ s.batch.requests.length) :
    ms.foldl (serviceConnectMetricStep size (filterInstanceMetrics instanceMetrics k) md) s =
      ms.foldl (serviceConnectMetricStep size instanceMetrics md) s := by
  induction ms generalizing s with
  | nil => rfl
  | cons m ms ih =>
    have hstep : serviceConnectMetricStep size (filterInstanceMetrics instanceMetrics k) md s m =
        serviceConnectMetricStep size instanceMetrics md s m := by
      simp only [serviceConnectMetricStep, filterInstanceMetrics_filterInstanceMetrics _ hk]
    rw [List.foldl_cons, List.foldl_cons, hstep]
    exact ih _ (hk.trans (length_requests_le_serviceConnectMetricStep size instanceMetrics md s m))

/-- The `nil` check in front of the inner loop changes nothing: on a task metric without
    service connect metrics the inner loop returns it as it is. -/
theorem addServiceConnectMetrics_eq (t : TaskMetric ι κ σ) (b : MetricsBatch μ ι κ σ) :
    addServiceConnectMetrics size instanceMetrics md t b =
      serviceConnectMetricsToPublishMetricRequests size instanceMetrics md t b := by
  unfold addServiceConnectMetrics serviceConnectMetricsToPublishMetricRequests
  split
  · rename_i h
    obtain ⟨info, cm, sc⟩ := t
    simp only [List.isEmpty_iff] at h
    subst h
    rfl
  · rfl

/-- Each step of the inner loop either sends nothing or empties the batch, so "nothing sent
    since `R`, or the batch is empty" survives the whole loop. -/
theorem serviceConnectMetricsToPublishMetricRequests_requests_or_nil
    (t : TaskMetric ι κ σ) (b : MetricsBatch μ ι κ σ) (R : List (PublishMetricsRequest μ ι κ σ))
    (h : b.requests = R ∨ b.messageTaskMetrics = []) :
    (serviceConnectMetricsToPublishMetricRequests size instanceMetrics md t b).batch.requests = R ∨
      (serviceConnectMetricsToPublishMetricRequests size instanceMetrics md t b).batch.messageTaskMetrics
        = [] := by
  refine List.foldlRecOn
    (motive := fun s : ServiceConnectBatch μ ι κ σ =>
      s.batch.requests = R ∨ s.batch.messageTaskMetrics = []) _ _ _ h ?_
  intro s hs m _
  rcases serviceConnectMetricStep_cases size md instanceMetrics s m with ⟨-, h⟩ | ⟨-, h⟩
  · exact Or.inr (by simp [h])
  · simpa [h] using hs

theorem appendTaskMetric_filterInstanceMetrics (k : Nat) (s : ServiceConnectBatch μ ι κ σ)
    (h : s.batch.requests.length = k ∨ s.batch.messageTaskMetrics = []) :
    appendTaskMetric (filterInstanceMetrics instanceMetrics k) md s =
      appendTaskMetric (filterInstanceMetrics instanceMetrics s.batch.requests.length) md s := by
  rcases h with h | h
  · rw [h]
  · -- the batch holds the one new entry, and one is not a multiple of a page
    simp [appendTaskMetric, h, tasksInMetricMessage]

end

/-- The outer loop body with every filter of the instance metrics taken at the request
    count of the moment it is used. -/
theorem taskMetricStep_eq (size : PublishMetricsRequest μ ι κ σ → Nat) (instanceMetrics : Option μ)
    (metadata : MetricsMetadata) (numTasks : Nat) (b : MetricsBatch μ ι κ σ) (i : Nat)
    (t : TaskMetric ι κ σ) :
    taskMetricStep size instanceMetrics metadata numTasks b i t =
      appendTaskMetric
        (filterInstanceMetrics instanceMetrics
          (serviceConnectMetricsToPublishMetricRequests size instanceMetrics
            (copyMetricsMetadata metadata false) t
            (flushIfOverflowing size (filterInstanceMetrics instanceMetrics b.requests.length)
              (copyMetricsMetadata metadata false) t b)).batch.requests.length)
        (if i + 1 = numTasks then copyMetricsMetadata metadata true
          else copyMetricsMetadata metadata false)
        (serviceConnectMetricsToPublishMetricRequests size instanceMetrics
          (copyMetricsMetadata metadata false) t
          (flushIfOverflowing size (filterInstanceMetrics instanceMetrics b.requests.length)
            (copyMetricsMetadata metadata false) t b)) := by
  set md₀ := copyMetricsMetadata metadata false
  set b₁ := flushIfOverflowing size (filterInstanceMetrics instanceMetrics b.requests.length) md₀ t b
  have hb₁ : b₁.requests = b.requests ∨ b₁.messageTaskMetrics = [] := by
    rcases flushIfOverflowing_cases size md₀ (filterInstanceMetrics instanceMetrics b.requests.length)
      t b with ⟨-, h⟩ | ⟨-, h⟩ <;> simp [b₁, h]
  have hk : b.requests.length ≤ b₁.requests.length := by
    rcases flushIfOverflowing_cases size md₀ (filterInstanceMetrics instanceMetrics b.requests.length)
      t b with ⟨-, h⟩ | ⟨-, h⟩ <;> simp [b₁, h]
  rw [taskMetricStep, addServiceConnectMetrics_eq, serviceConnectMetricsToPublishMetricRequests,
    foldl_serviceConnectMetricStep_filterInstanceMetrics size instanceMetrics md₀ _ _ _ hk]
  apply appendTaskMetric_filterInstanceMetrics
  rcases serviceConnectMetricsToPublishMetricRequests_requests_or_nil size instanceMetrics md₀ t b₁
    b.requests hb₁ with h | h
  · exact Or.inl (congrArg List.length h)
  · exact Or.inr h

end Tcs

end EcsAgent
