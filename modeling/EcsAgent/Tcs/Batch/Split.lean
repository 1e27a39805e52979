import EcsAgent.Tcs.Batch
import Mathlib.Data.List.Forall2

/-!
# Every Task Metric Arrives Whole

What the backend receives, read entry by entry. The batching may cut a task metric into
several entries spread over consecutive requests, but it loses, repeats and reorders
nothing: the entries of all requests, read in order, fall into one group per input task
metric, in input order, and each group puts its task metric back together.

`IsSplitOf t parts` is what a group must satisfy. Every part carries the fields of `t`
that the client never touches, the first part carries the container metrics and the others
none, and the service connect metrics of the parts, one after the other, are those of `t`.

The observable is `MetricsBatch.entries`, the entries already in requests followed by the
waiting ones. A send moves entries from the second list to the first and so leaves it
unchanged, which is why no send point needs its own argument. The inner loop adds one
part per overflow; `IsSplitOf.cons` is the step that puts such a part in front of a split
of the rest.

## Main definitions

* `IsSplitOf`: A list of entries that splits one task metric.
* `MetricsBatch.entries`: The entries a batch has taken in, in order.

## Theorems

* `IsSplitOf.cons`: A part holding the container metrics, in front of a split of the rest.
* `foldl_serviceConnectMetricStep_entries`: The inner loop adds the parts of a split.
* `taskMetricStep_entries`: One outer iteration adds a split of its task metric.
* `metricsLoop_entries`: The outer loop adds one split per task metric.
* `metricsToPublishMetricRequests_splits`: The requests' entries are one split per input
  task metric, in order.
-/

namespace EcsAgent

namespace Tcs

variable {μ ι κ σ : Type}

/-- `parts` split the task metric `t`: each carries `t`'s other fields, the first carries
    its container metrics and the rest none, and their service connect metrics, in order,
    are `t`'s. -/
structure IsSplitOf (t : TaskMetric ι κ σ) (parts : List (TaskMetric ι κ σ)) : Prop where
  info_eq : ∀ e ∈ parts, e.info = t.info
  containerMetrics_eq :
    parts.map (·.containerMetrics) = t.containerMetrics :: List.replicate (parts.length - 1) []
  serviceConnectMetrics_eq :
    parts.flatMap (·.serviceConnectMetricsWrapper) = t.serviceConnectMetricsWrapper

theorem IsSplitOf.ne_nil {t : TaskMetric ι κ σ} {parts : List (TaskMetric ι κ σ)}
    (h : IsSplitOf t parts) : parts ≠ [] := by
  rintro rfl
  simpa using h.containerMetrics_eq

theorem isSplitOf_singleton (t : TaskMetric ι κ σ) : IsSplitOf t [t] :=
  ⟨by simp, by simp, by simp⟩

/-- A part holding `x`'s container metrics and service connect metrics, in front of a split
    of what `x` goes on to collect without container metrics, splits `x` with all of it. -/
theorem IsSplitOf.cons {x : TaskMetric ι κ σ} {q : List σ} {parts : List (TaskMetric ι κ σ)}
    (h : IsSplitOf { x with serviceConnectMetricsWrapper := q, containerMetrics := [] } parts) :
    IsSplitOf { x with serviceConnectMetricsWrapper := x.serviceConnectMetricsWrapper ++ q }
      (x :: parts) := by
  obtain ⟨p, ps, rfl⟩ := List.exists_cons_of_ne_nil h.ne_nil
  obtain ⟨hinfo, hcm, hsc⟩ := h
  refine ⟨by simpa using hinfo, ?_, by simp [hsc]⟩
  simp only [List.map_cons, List.length_cons, Nat.add_sub_cancel, List.cons.injEq] at hcm ⊢
  simp [hcm, List.replicate_succ]

/-- The entries a batch has taken in: those already in requests, then the waiting ones. -/
def MetricsBatch.entries (b : MetricsBatch μ ι κ σ) : List (TaskMetric ι κ σ) :=
  b.requests.flatMap (·.taskMetrics) ++ b.messageTaskMetrics

@[simp] theorem MetricsBatch.entries_send (b : MetricsBatch μ ι κ σ) (im : Option μ)
    (md : MetricsMetadata) : (b.send im md).entries = b.entries := by
  simp [MetricsBatch.entries]

section

variable (size : PublishMetricsRequest μ ι κ σ → Nat) (instanceMetrics : Option μ)
  (md : MetricsMetadata)

/-- The inner loop, run from any state over any metrics, adds the parts of a split of the
    entry being filled extended by those metrics; the last part is the entry it leaves. -/
theorem foldl_serviceConnectMetricStep_entries (ms : List σ) (s : ServiceConnectBatch μ ι κ σ) :
    ∃ parts, (ms.foldl (serviceConnectMetricStep size instanceMetrics md) s).batch.entries =
        s.batch.entries ++ parts ∧
      IsSplitOf { s.tempTaskMetric with
          serviceConnectMetricsWrapper := s.tempTaskMetric.serviceConnectMetricsWrapper ++ ms }
        (parts ++ [(ms.foldl (serviceConnectMetricStep size instanceMetrics md) s).tempTaskMetric]) := by
  induction ms generalizing s with
  | nil => exact ⟨[], by simp, by simpa using isSplitOf_singleton s.tempTaskMetric⟩
  | cons m ms ih =>
    obtain ⟨parts, hentries, hsplit⟩ := ih (serviceConnectMetricStep size instanceMetrics md s m)
    rw [List.foldl_cons]
    rcases serviceConnectMetricStep_cases size md instanceMetrics s m with ⟨-, h⟩ | ⟨-, h⟩ <;>
      rw [h] at hentries hsplit ⊢
    · -- overflow: the entry as it was is sent as a part of its own
      refine ⟨s.tempTaskMetric :: parts, by rw [hentries]; simp [MetricsBatch.entries], ?_⟩
      simpa using IsSplitOf.cons (x := s.tempTaskMetric) (q := m :: ms) (by simpa using hsplit)
    · exact ⟨parts, hentries, by simpa using hsplit⟩

theorem serviceConnectMetricsToPublishMetricRequests_entries (t : TaskMetric ι κ σ)
    (b : MetricsBatch μ ι κ σ) :
    ∃ parts, (serviceConnectMetricsToPublishMetricRequests size instanceMetrics md t b).batch.entries =
        b.entries ++ parts ∧
      IsSplitOf t (parts ++
        [(serviceConnectMetricsToPublishMetricRequests size instanceMetrics md t b).tempTaskMetric]) := by
  simpa using foldl_serviceConnectMetricStep_entries size instanceMetrics md
    t.serviceConnectMetricsWrapper ⟨{ t with serviceConnectMetricsWrapper := [] }, b⟩

end

theorem flushIfOverflowing_entries (size : PublishMetricsRequest μ ι κ σ → Nat) (im : Option μ)
    (md : MetricsMetadata) (t : TaskMetric ι κ σ) (b : MetricsBatch μ ι κ σ) :
    (flushIfOverflowing size im md t b).entries = b.entries := by
  rcases flushIfOverflowing_cases size md im t b with ⟨-, h⟩ | ⟨-, h⟩ <;>
    simp [h, MetricsBatch.entries]

theorem appendTaskMetric_entries (im : Option μ) (md : MetricsMetadata)
    (s : ServiceConnectBatch μ ι κ σ) :
    (appendTaskMetric im md s).entries = s.batch.entries ++ [s.tempTaskMetric] := by
  rcases appendTaskMetric_cases im md s with ⟨-, h⟩ | ⟨-, h⟩ <;> simp [h, MetricsBatch.entries]

theorem sendRemaining_flatMap (im : Option μ) (md : MetricsMetadata) (b : MetricsBatch μ ι κ σ) :
    (sendRemaining im md b).flatMap (·.taskMetrics) = b.entries := by
  unfold sendRemaining
  split
  · simp [MetricsBatch.entries, newPublishMetricsRequest]
  · simp_all [MetricsBatch.entries]

section

variable (size : PublishMetricsRequest μ ι κ σ → Nat) (instanceMetrics : Option μ)
  (metadata : MetricsMetadata) (numTasks : Nat)

theorem taskMetricStep_entries (b : MetricsBatch μ ι κ σ) (i : Nat) (t : TaskMetric ι κ σ) :
    ∃ g, IsSplitOf t g ∧
      (taskMetricStep size instanceMetrics metadata numTasks b i t).entries = b.entries ++ g := by
  obtain ⟨parts, hentries, hsplit⟩ := serviceConnectMetricsToPublishMetricRequests_entries size
    instanceMetrics (copyMetricsMetadata metadata false) t
    (flushIfOverflowing size (filterInstanceMetrics instanceMetrics b.requests.length)
      (copyMetricsMetadata metadata false) t b)
  refine ⟨_, hsplit, ?_⟩
  rw [taskMetricStep_eq, appendTaskMetric_entries, hentries, flushIfOverflowing_entries,
    List.append_assoc]

theorem metricsLoop_entries (i : Nat) (ts : List (TaskMetric ι κ σ)) (b : MetricsBatch μ ι κ σ) :
    ∃ groups, List.Forall₂ IsSplitOf ts groups ∧
      (metricsLoop size instanceMetrics metadata numTasks i ts b).entries =
        b.entries ++ groups.flatten := by
  induction ts generalizing i b with
  | nil => exact ⟨[], List.Forall₂.nil, by simp⟩
  | cons t ts ih =>
    obtain ⟨g, hg, hstep⟩ := taskMetricStep_entries size instanceMetrics metadata numTasks b i t
    obtain ⟨groups, hgroups, hrun⟩ :=
      ih (i + 1) (taskMetricStep size instanceMetrics metadata numTasks b i t)
    exact ⟨g :: groups, List.Forall₂.cons hg hgroups, by simp [hrun, hstep]⟩

end

/-- Whatever requests a message with metadata is cut into, their entries are one split per
    task metric, in order. -/
theorem metricsToPublishMetricRequests_groups (size : PublishMetricsRequest μ ι κ σ → Nat)
    (instanceMetrics : Option μ) (metadata : MetricsMetadata)
    (taskMetrics : List (TaskMetric ι κ σ)) {reqs : List (PublishMetricsRequest μ ι κ σ)}
    (h : metricsToPublishMetricRequests size ⟨instanceMetrics, some metadata, taskMetrics⟩ = .ok reqs) :
    ∃ groups, List.Forall₂ IsSplitOf taskMetrics groups ∧
      reqs.flatMap (·.taskMetrics) = groups.flatten := by
  cases hidle : metadata.idle
  · rw [metricsToPublishMetricRequests_of_not_idle size instanceMetrics metadata taskMetrics hidle,
      Except.ok.injEq] at h
    obtain ⟨groups, hgroups, hrun⟩ := metricsLoop_entries size instanceMetrics metadata
      taskMetrics.length 0 taskMetrics ⟨[], []⟩
    exact ⟨groups, hgroups, by simpa [← h, sendRemaining_flatMap, MetricsBatch.entries] using hrun⟩
  · rw [metricsToPublishMetricRequests_idle size instanceMetrics metadata taskMetrics hidle,
      Except.ok.injEq] at h
    refine ⟨taskMetrics.map ([·]), ?_, ?_⟩
    · exact List.forall₂_map_right_iff.mpr (List.forall₂_same.mpr fun t _ => isSplitOf_singleton t)
    · simp only [← h, List.flatMap_singleton]
      exact (List.flatMap_singleton' taskMetrics).symm

/-- The entries of the requests, read in order, are one split per input task metric, in
    input order, whatever the sizes; an idle instance sends its task metrics untouched in
    its single request. -/
theorem metricsToPublishMetricRequests_splits (size : PublishMetricsRequest μ ι κ σ → Nat)
    (instanceMetrics : Option μ) (metadata : MetricsMetadata)
    (taskMetrics : List (TaskMetric ι κ σ)) :
    ∃ reqs groups,
      metricsToPublishMetricRequests size ⟨instanceMetrics, some metadata, taskMetrics⟩ = .ok reqs ∧
      List.Forall₂ IsSplitOf taskMetrics groups ∧
      reqs.flatMap (·.taskMetrics) = groups.flatten ∧
      (metadata.idle = true → reqs.map (·.taskMetrics) = [taskMetrics]) := by
  obtain ⟨reqs, h⟩ := metricsToPublishMetricRequests_isOk size instanceMetrics metadata taskMetrics
  obtain ⟨groups, hgroups, hflat⟩ :=
    metricsToPublishMetricRequests_groups size instanceMetrics metadata taskMetrics h
  refine ⟨reqs, groups, h, hgroups, hflat, fun hidle => ?_⟩
  rw [metricsToPublishMetricRequests_idle size instanceMetrics metadata taskMetrics hidle,
    Except.ok.injEq] at h
  simp [← h]

end Tcs

end EcsAgent
