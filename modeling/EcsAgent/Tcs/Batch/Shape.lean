import EcsAgent.Tcs.Batch

/-!
# The Shape of the Request Stream

Four facts the backend relies on, whatever the sizes: the last request, and only that one,
is marked `Fin`; the instance metrics ride in the first request and no other; no request
carries more than a page of entries; and every request carries the message's metadata.

The requests are made at four places: the size check, the inner loop, the page check and
after the loop. `taskMetricStep_eq` has already put every one of them in the same form, a
request whose instance metrics are filtered at the number of requests before it, so one
lemma, `Shaped.snoc`, covers all the sends of unmarked requests. The only marked requests
are made by the page check of the last iteration and by `sendRemaining`, and exactly one of
the two fires: the page check empties the batch, and otherwise the batch still holds the
last entry.

## Main definitions

* `Shaped`: Requests that are unmarked, carry the instance metrics first only, and hold a
  page at most.
* `BatchShaped`: A shaped batch with less than a page waiting.

## Theorems

* `Shaped.snoc`: A request made at the current count keeps the requests shaped.
* `taskMetricStep_batchShaped`: An iteration other than the last keeps the batch shaped.
* `sendRemaining_taskMetricStep_last`: The last iteration and the final send add exactly one
  marked request, at the end.
* `metricsToPublishMetricRequests_eq_snoc`: Shaped requests, then one marked request.
* `metricsToPublishMetricRequests_shape`: The shape of the whole request stream.
-/

namespace EcsAgent

namespace Tcs

variable {μ ι κ σ : Type}

/-- Unmarked requests, the `k`-th carrying the instance metrics filtered at `k`, none of
    them holding more than a page. -/
structure Shaped (instanceMetrics : Option μ) (metadata : MetricsMetadata)
    (reqs : List (PublishMetricsRequest μ ι κ σ)) : Prop where
  instanceMetrics_eq : reqs.map (·.instanceMetrics) =
    (List.range reqs.length).map (filterInstanceMetrics instanceMetrics)
  metadata_eq : ∀ r ∈ reqs, r.metadata = copyMetricsMetadata metadata false
  length_le : ∀ r ∈ reqs, r.taskMetrics.length ≤ tasksInMetricMessage

/-- A batch whose requests are shaped, with less than a page waiting. -/
structure BatchShaped (instanceMetrics : Option μ) (metadata : MetricsMetadata)
    (b : MetricsBatch μ ι κ σ) : Prop where
  shaped : Shaped instanceMetrics metadata b.requests
  waiting_lt : b.messageTaskMetrics.length < tasksInMetricMessage

section

variable {instanceMetrics : Option μ} {metadata : MetricsMetadata}

theorem shaped_nil : Shaped instanceMetrics metadata ([] : List (PublishMetricsRequest μ ι κ σ)) :=
  ⟨rfl, by simp, by simp⟩

theorem Shaped.snoc {reqs : List (PublishMetricsRequest μ ι κ σ)}
    (h : Shaped instanceMetrics metadata reqs) {l : List (TaskMetric ι κ σ)}
    (hl : l.length ≤ tasksInMetricMessage) :
    Shaped instanceMetrics metadata (reqs ++
      [⟨filterInstanceMetrics instanceMetrics reqs.length, copyMetricsMetadata metadata false, l⟩]) := by
  obtain ⟨him, hmd, hlen⟩ := h
  refine ⟨?_, ?_, ?_⟩
  · simp [him, List.range_succ]
  all_goals simp only [List.mem_append, List.mem_singleton]; rintro r (hr | rfl)
  exacts [hmd r hr, rfl, hlen r hr, hl]

variable (size : PublishMetricsRequest μ ι κ σ → Nat)

theorem flushIfOverflowing_batchShaped (t : TaskMetric ι κ σ) (b : MetricsBatch μ ι κ σ)
    (h : BatchShaped instanceMetrics metadata b) :
    BatchShaped instanceMetrics metadata
      (flushIfOverflowing size (filterInstanceMetrics instanceMetrics b.requests.length)
        (copyMetricsMetadata metadata false) t b) := by
  rcases flushIfOverflowing_cases size (copyMetricsMetadata metadata false)
    (filterInstanceMetrics instanceMetrics b.requests.length) t b with ⟨-, hb⟩ | ⟨-, hb⟩ <;>
    rw [hb]
  · exact ⟨h.shaped.snoc h.waiting_lt.le, by simp [tasksInMetricMessage]⟩
  · exact h

theorem serviceConnectMetricsToPublishMetricRequests_batchShaped (t : TaskMetric ι κ σ)
    (b : MetricsBatch μ ι κ σ) (h : BatchShaped instanceMetrics metadata b) :
    BatchShaped instanceMetrics metadata
      (serviceConnectMetricsToPublishMetricRequests size instanceMetrics
        (copyMetricsMetadata metadata false) t b).batch := by
  refine List.foldlRecOn
    (motive := fun s : ServiceConnectBatch μ ι κ σ => BatchShaped instanceMetrics metadata s.batch)
    _ _ _ h ?_
  intro s hs m _
  rcases serviceConnectMetricStep_cases size (copyMetricsMetadata metadata false) instanceMetrics
    s m with ⟨-, hstep⟩ | ⟨-, hstep⟩ <;> rw [hstep]
  · -- the entry as it was completes the waiting task metrics to at most a page
    exact ⟨hs.shaped.snoc (by simpa using hs.waiting_lt), by simp [tasksInMetricMessage]⟩
  · exact hs

/-- Everything an iteration does before its page check keeps the batch shaped. -/
theorem prePage_batchShaped (t : TaskMetric ι κ σ) (b : MetricsBatch μ ι κ σ)
    (h : BatchShaped instanceMetrics metadata b) :
    BatchShaped instanceMetrics metadata
      (serviceConnectMetricsToPublishMetricRequests size instanceMetrics
        (copyMetricsMetadata metadata false) t
        (flushIfOverflowing size (filterInstanceMetrics instanceMetrics b.requests.length)
          (copyMetricsMetadata metadata false) t b)).batch :=
  serviceConnectMetricsToPublishMetricRequests_batchShaped size t _
    (flushIfOverflowing_batchShaped size t b h)

end

section

variable (size : PublishMetricsRequest μ ι κ σ → Nat) (instanceMetrics : Option μ)
  (metadata : MetricsMetadata) (numTasks : Nat)

theorem taskMetricStep_batchShaped (b : MetricsBatch μ ι κ σ) (i : Nat) (t : TaskMetric ι κ σ)
    (hi : i + 1 ≠ numTasks) (h : BatchShaped instanceMetrics metadata b) :
    BatchShaped instanceMetrics metadata (taskMetricStep size instanceMetrics metadata numTasks b i t) := by
  have hs := prePage_batchShaped size t b h
  rw [taskMetricStep_eq, if_neg hi]
  rcases appendTaskMetric_cases _ (copyMetricsMetadata metadata false) _ with
    ⟨-, hb⟩ | ⟨hpage, hb⟩ <;> rw [hb]
  · exact ⟨hs.shaped.snoc (by simpa using hs.waiting_lt), by simp [tasksInMetricMessage]⟩
  · refine ⟨hs.shaped, ?_⟩
    have := hs.waiting_lt
    simp only [tasksInMetricMessage, List.length_append, List.length_singleton] at hpage this ⊢
    omega

theorem metricsLoop_batchShaped (i : Nat) (ts : List (TaskMetric ι κ σ)) (b : MetricsBatch μ ι κ σ)
    (hi : i + ts.length < numTasks) (h : BatchShaped instanceMetrics metadata b) :
    BatchShaped instanceMetrics metadata (metricsLoop size instanceMetrics metadata numTasks i ts b) := by
  induction ts generalizing i b with
  | nil => exact h
  | cons t ts ih =>
    simp only [List.length_cons] at hi
    exact ih (i + 1) _ (by omega) (taskMetricStep_batchShaped size instanceMetrics metadata numTasks
      b i t (by omega) h)

/-- The last iteration and the send after the loop end the stream with exactly one marked
    request: the page check's if it fires, which empties the batch, and otherwise the one
    `sendRemaining` makes of the batch holding the last entry. -/
theorem sendRemaining_taskMetricStep_last (b : MetricsBatch μ ι κ σ) (i : Nat) (t : TaskMetric ι κ σ)
    (hi : i + 1 = numTasks) (h : BatchShaped instanceMetrics metadata b) :
    ∃ reqs l, sendRemaining instanceMetrics metadata
        (taskMetricStep size instanceMetrics metadata numTasks b i t) =
        reqs ++ [⟨filterInstanceMetrics instanceMetrics reqs.length,
          copyMetricsMetadata metadata true, l⟩] ∧
      Shaped instanceMetrics metadata reqs ∧ l.length ≤ tasksInMetricMessage := by
  have hs := prePage_batchShaped size t b h
  rw [taskMetricStep_eq, if_pos hi]
  set s := serviceConnectMetricsToPublishMetricRequests size instanceMetrics
    (copyMetricsMetadata metadata false) t
    (flushIfOverflowing size (filterInstanceMetrics instanceMetrics b.requests.length)
      (copyMetricsMetadata metadata false) t b)
  have hl : (s.batch.messageTaskMetrics ++ [s.tempTaskMetric]).length ≤ tasksInMetricMessage := by
    simpa using hs.waiting_lt
  refine ⟨s.batch.requests, _, ?_, hs.shaped, hl⟩
  rcases appendTaskMetric_cases (filterInstanceMetrics instanceMetrics s.batch.requests.length)
    (copyMetricsMetadata metadata true) s with
    ⟨-, hb⟩ | ⟨-, hb⟩ <;> simp [hb, sendRemaining, newPublishMetricsRequest]

end

/-- The instance metrics filtered at each count: the first request has them, no other. -/
theorem map_filterInstanceMetrics_range (im : μ) (n : Nat) :
    (List.range (n + 1)).map (filterInstanceMetrics (some im)) = some im :: List.replicate n none := by
  rw [List.range_succ_eq_map, List.map_cons, List.map_map]
  simp [Function.comp_def, List.map_const']

/-- A non-idle message with a task metric is cut into shaped requests followed by one
    marked request. -/
theorem metricsToPublishMetricRequests_eq_snoc (size : PublishMetricsRequest μ ι κ σ → Nat)
    (instanceMetrics : Option μ) (metadata : MetricsMetadata)
    (taskMetrics : List (TaskMetric ι κ σ)) (hidle : metadata.idle = false)
    (hne : taskMetrics ≠ []) :
    ∃ reqs l, metricsToPublishMetricRequests size ⟨instanceMetrics, some metadata, taskMetrics⟩ =
        .ok (reqs ++ [⟨filterInstanceMetrics instanceMetrics reqs.length,
          copyMetricsMetadata metadata true, l⟩]) ∧
      Shaped instanceMetrics metadata reqs ∧ l.length ≤ tasksInMetricMessage := by
  obtain ⟨init, last, rfl⟩ : ∃ init last, taskMetrics = init ++ [last] :=
    ⟨_, _, (List.dropLast_append_getLast hne).symm⟩
  have hloop := metricsLoop_batchShaped size instanceMetrics metadata (init ++ [last]).length 0 init
    ⟨[], []⟩ (by simp) ⟨shaped_nil, by simp [tasksInMetricMessage]⟩
  obtain ⟨reqs, l, heq, hshaped, hl⟩ := sendRemaining_taskMetricStep_last size instanceMetrics
    metadata (init ++ [last]).length _ init.length last (by simp) hloop
  refine ⟨reqs, l, ?_, hshaped, hl⟩
  rw [metricsToPublishMetricRequests_of_not_idle size instanceMetrics metadata _ hidle,
    metricsLoop_append, metricsLoop_cons, metricsLoop_nil, Nat.zero_add, heq]

/-- For a non-idle message with at least one task metric: exactly one request is marked
    `Fin`, the last; non-nil instance metrics ride in the first request and no other; no
    request carries more than a page; and every request carries the message's cluster,
    container instance, idle flag and message id. -/
theorem metricsToPublishMetricRequests_shape (size : PublishMetricsRequest μ ι κ σ → Nat)
    (instanceMetrics : Option μ) (metadata : MetricsMetadata)
    (taskMetrics : List (TaskMetric ι κ σ)) (hidle : metadata.idle = false)
    (hne : taskMetrics ≠ []) :
    ∃ reqs,
      metricsToPublishMetricRequests size ⟨instanceMetrics, some metadata, taskMetrics⟩ = .ok reqs ∧
      reqs.map (·.metadata.fin) = List.replicate (reqs.length - 1) false ++ [true] ∧
      (∀ im, instanceMetrics = some im →
        reqs.map (·.instanceMetrics) = some im :: List.replicate (reqs.length - 1) none) ∧
      (∀ r ∈ reqs, r.taskMetrics.length ≤ tasksInMetricMessage) ∧
      (∀ r ∈ reqs, r.metadata.cluster = metadata.cluster ∧
        r.metadata.containerInstance = metadata.containerInstance ∧
        r.metadata.idle = metadata.idle ∧ r.metadata.messageId = metadata.messageId) := by
  obtain ⟨reqs, l, heq, ⟨him, hmd, hlen⟩, hl⟩ :=
    metricsToPublishMetricRequests_eq_snoc size instanceMetrics metadata taskMetrics hidle hne
  refine ⟨_, heq, ?_, ?_, ?_, ?_⟩
  · simp [List.map_congr_left (fun r hr => congrArg MetricsMetadata.fin (hmd r hr))]
  · rintro im rfl
    simpa [him, List.range_succ] using map_filterInstanceMetrics_range im reqs.length
  · simp only [List.mem_append, List.mem_singleton]
    rintro r (hr | rfl)
    exacts [hlen r hr, hl]
  · simp only [List.mem_append, List.mem_singleton]
    rintro r (hr | rfl)
    · simp [hmd r hr, copyMetricsMetadata]
    · simp [copyMetricsMetadata]

/-- The shape at three task metrics with instance metrics, under a size that overflows at two
    task metrics, so that each goes out in a request of its own. -/
theorem metricsToPublishMetricRequests_shape_split :
    let size := fun r : PublishMetricsRequest Nat Nat Nat Nat =>
      if 2 ≤ r.taskMetrics.length then publishMetricRequestSizeLimit + 1 else 0
    let ts : List (TaskMetric Nat Nat Nat) := [⟨1, [1], []⟩, ⟨2, [2], []⟩, ⟨3, [3], []⟩]
    (⟨"c", "i", false, "m", false⟩ : MetricsMetadata).idle = false ∧ ts ≠ [] ∧
    ∃ reqs, metricsToPublishMetricRequests size ⟨some 7, some ⟨"c", "i", false, "m", false⟩, ts⟩ =
        .ok reqs ∧
      reqs.map (·.metadata.fin) = List.replicate (reqs.length - 1) false ++ [true] ∧
      (∀ im, some 7 = some im →
        reqs.map (·.instanceMetrics) = some im :: List.replicate (reqs.length - 1) none) ∧
      (∀ r ∈ reqs, r.taskMetrics.length ≤ tasksInMetricMessage) ∧
      (∀ r ∈ reqs, r.metadata.cluster = "c" ∧ r.metadata.containerInstance = "i" ∧
        r.metadata.idle = false ∧ r.metadata.messageId = "m") :=
  ⟨rfl, List.cons_ne_nil _ _, metricsToPublishMetricRequests_shape _ _ _ _ rfl (List.cons_ne_nil _ _)⟩

end Tcs

end EcsAgent
