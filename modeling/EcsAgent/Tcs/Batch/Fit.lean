import EcsAgent.Tcs.Batch

/-!
# Every Request Fits

The batching measures candidates, not the requests it sends. The request sent when the next
task metric overflows, the entry cut short by the inner loop, the entry left over after a
split at the last service connect metric, and the final request are never measured as
such. They still fit, provided the size behaves sensibly and no single unit is too big on
its own: that is `metricsToPublishMetricRequests_fit`.

"Behaves sensibly" is `SizeMonotone`: taking something out of a request, or marking it
`Fin`, never makes it bigger. "No unit is too big" is `TaskFits`: each task metric stripped
of its service connect metrics fits in a request of its own, and so does each of its
service connect metrics alone, without the container metrics.

The proof carries one invariant through both loops. What is waiting in the batch would fit
if it were sent now (`BatchFits`), and inside the inner loop, the waiting entries together
with the entry being filled would (`EntryFits`). Every send point then sends something the
invariant has already bounded: either a candidate that was measured, or a single unit,
which the precondition bounds with the instance metrics and which can only have lost them
since.

## Main definitions

* `SizeMonotone`: The monotonicity assumed of the size.
* `TaskFits`: The units of one task metric each fit in a request of their own.
* `BatchFits`, `EntryFits`: The invariants of the outer and the inner loop.

## Theorems

* `SizeMonotone.filterInstanceMetrics_le`: Filtering the instance metrics never grows a
  request.
* `foldl_serviceConnectMetricStep_entryFits`: The inner loop keeps the entry fitting.
* `taskMetricStep_batchFits`, `metricsLoop_batchFits`: The outer loop keeps the batch
  fitting.
* `metricsToPublishMetricRequests_fit`: Every request fits and carries an entry.
-/

namespace EcsAgent

namespace Tcs

variable {μ ι κ σ : Type}

/-- Taking a task metric out of a request, a service connect metric or the container
    metrics out of one of its task metrics, or its instance metrics away, or marking it
    `Fin`, never makes a request bigger. -/
structure SizeMonotone (size : PublishMetricsRequest μ ι κ σ → Nat) : Prop where
  remove_taskMetric : ∀ im md (l₁ l₂ : List (TaskMetric ι κ σ)) e,
    size ⟨im, md, l₁ ++ l₂⟩ ≤ size ⟨im, md, l₁ ++ e :: l₂⟩
  remove_serviceConnectMetric : ∀ im md (l₁ l₂ : List (TaskMetric ι κ σ)) e s₁ m s₂,
    e.serviceConnectMetricsWrapper = s₁ ++ m :: s₂ →
      size ⟨im, md, l₁ ++ { e with serviceConnectMetricsWrapper := s₁ ++ s₂ } :: l₂⟩ ≤
        size ⟨im, md, l₁ ++ e :: l₂⟩
  remove_containerMetrics : ∀ im md (l₁ l₂ : List (TaskMetric ι κ σ)) e,
    size ⟨im, md, l₁ ++ { e with containerMetrics := [] } :: l₂⟩ ≤ size ⟨im, md, l₁ ++ e :: l₂⟩
  drop_instanceMetrics : ∀ im md l, size ⟨none, md, l⟩ ≤ size ⟨im, md, l⟩
  set_fin : ∀ im md l, md.fin = false → size ⟨im, { md with fin := true }, l⟩ ≤ size ⟨im, md, l⟩

section

variable {size : PublishMetricsRequest μ ι κ σ → Nat} (hmono : SizeMonotone size)

include hmono

theorem SizeMonotone.filterInstanceMetrics_le (im : Option μ) (k : Nat) (md : MetricsMetadata)
    (l : List (TaskMetric ι κ σ)) :
    size ⟨filterInstanceMetrics im k, md, l⟩ ≤ size ⟨im, md, l⟩ := by
  cases k with
  | zero => simp
  | succ k => simpa using hmono.drop_instanceMetrics im md l

theorem SizeMonotone.copyMetricsMetadata_le (im : Option μ) (md : MetricsMetadata) (fin : Bool)
    (l : List (TaskMetric ι κ σ)) :
    size ⟨im, copyMetricsMetadata md fin, l⟩ ≤ size ⟨im, copyMetricsMetadata md false, l⟩ := by
  cases fin with
  | false => exact le_rfl
  | true => exact hmono.set_fin im (copyMetricsMetadata md false) l rfl

end

variable (size : PublishMetricsRequest μ ι κ σ → Nat) (instanceMetrics : Option μ)
  (metadata : MetricsMetadata)

/-- Each unit of a task metric fits in a request of its own with the instance metrics: the
    task metric without its service connect metrics, and each service connect metric alone
    without the container metrics. -/
def TaskFits (t : TaskMetric ι κ σ) : Prop :=
  size ⟨instanceMetrics, copyMetricsMetadata metadata false,
      [{ t with serviceConnectMetricsWrapper := [] }]⟩ ≤ publishMetricRequestSizeLimit ∧
    ∀ m ∈ t.serviceConnectMetricsWrapper,
      size ⟨instanceMetrics, copyMetricsMetadata metadata false,
        [{ t with serviceConnectMetricsWrapper := [m], containerMetrics := [] }]⟩ ≤
        publishMetricRequestSizeLimit

/-- The requests fit and carry an entry each, and the waiting entries would fit in a request
    made now. -/
structure BatchFits (b : MetricsBatch μ ι κ σ) : Prop where
  requests_fit : ∀ r ∈ b.requests, size r ≤ publishMetricRequestSizeLimit ∧ r.taskMetrics ≠ []
  waiting_fit : b.messageTaskMetrics ≠ [] →
    size ⟨filterInstanceMetrics instanceMetrics b.requests.length,
      copyMetricsMetadata metadata false, b.messageTaskMetrics⟩ ≤ publishMetricRequestSizeLimit

/-- Inside the inner loop for `t`: the requests fit and carry an entry each, the waiting
    entries and the entry being filled would fit in a request made now, and that entry is
    one of `t`'s. -/
structure EntryFits (t : TaskMetric ι κ σ) (s : ServiceConnectBatch μ ι κ σ) : Prop where
  requests_fit : ∀ r ∈ s.batch.requests, size r ≤ publishMetricRequestSizeLimit ∧ r.taskMetrics ≠ []
  entry_fit : size ⟨filterInstanceMetrics instanceMetrics s.batch.requests.length,
    copyMetricsMetadata metadata false, s.batch.messageTaskMetrics ++ [s.tempTaskMetric]⟩ ≤
      publishMetricRequestSizeLimit
  info_eq : s.tempTaskMetric.info = t.info

/-- A request that fits, with an entry, keeps the requests fitting. -/
theorem requests_fit_snoc {reqs : List (PublishMetricsRequest μ ι κ σ)}
    (h : ∀ r ∈ reqs, size r ≤ publishMetricRequestSizeLimit ∧ r.taskMetrics ≠ [])
    {r : PublishMetricsRequest μ ι κ σ} (hr : size r ≤ publishMetricRequestSizeLimit)
    (hne : r.taskMetrics ≠ []) :
    ∀ r' ∈ reqs ++ [r], size r' ≤ publishMetricRequestSizeLimit ∧ r'.taskMetrics ≠ [] := by
  simp only [List.mem_append, List.mem_singleton]
  rintro r' (hr' | rfl)
  exacts [h r' hr', ⟨hr, hne⟩]

section

variable {size} {instanceMetrics} {metadata} (hmono : SizeMonotone size)

include hmono

theorem flushIfOverflowing_entryFits (t : TaskMetric ι κ σ) (ht : TaskFits size instanceMetrics metadata t)
    (b : MetricsBatch μ ι κ σ) (h : BatchFits size instanceMetrics metadata b) :
    EntryFits size instanceMetrics metadata t
      ⟨{ t with serviceConnectMetricsWrapper := [] },
        flushIfOverflowing size (filterInstanceMetrics instanceMetrics b.requests.length)
          (copyMetricsMetadata metadata false) t b⟩ := by
  -- a task metric alone never overflows, so a send here sends a non-empty batch
  have halone := fun k => (hmono.filterInstanceMetrics_le instanceMetrics k _ _).trans ht.1
  rcases flushIfOverflowing_cases size (copyMetricsMetadata metadata false)
    (filterInstanceMetrics instanceMetrics b.requests.length) t b with ⟨hov, hb⟩ | ⟨hov, hb⟩ <;>
    rw [hb]
  · have hne : b.messageTaskMetrics ≠ [] := by
      rintro hnil
      simp only [hnil, List.nil_append] at hov
      exact absurd (halone _) (not_le.mpr hov)
    exact ⟨requests_fit_snoc size h.requests_fit (h.waiting_fit hne) hne,
      by simpa using halone (b.requests.length + 1), rfl⟩
  · exact ⟨h.requests_fit, not_lt.mp hov, rfl⟩

theorem foldl_serviceConnectMetricStep_entryFits (t : TaskMetric ι κ σ)
    (ht : TaskFits size instanceMetrics metadata t) (s : ServiceConnectBatch μ ι κ σ)
    (h : EntryFits size instanceMetrics metadata t s) :
    EntryFits size instanceMetrics metadata t
      (t.serviceConnectMetricsWrapper.foldl
        (serviceConnectMetricStep size instanceMetrics (copyMetricsMetadata metadata false)) s) := by
  refine List.foldlRecOn
    (motive := fun s => EntryFits size instanceMetrics metadata t s) _ _ _ h ?_
  intro s hs m hm
  rcases serviceConnectMetricStep_cases size (copyMetricsMetadata metadata false) instanceMetrics
    s m with ⟨-, hstep⟩ | ⟨hov, hstep⟩ <;> rw [hstep]
  · -- the entry as it was is sent; the new entry holds `m` alone
    refine ⟨requests_fit_snoc size hs.requests_fit hs.entry_fit (by simp), ?_, hs.info_eq⟩
    have hm := (hmono.filterInstanceMetrics_le instanceMetrics (s.batch.requests.length + 1) _ _).trans
      (ht.2 m hm)
    simpa [hs.info_eq] using hm
  · exact ⟨hs.requests_fit, not_lt.mp hov, hs.info_eq⟩

theorem taskMetricStep_batchFits (numTasks i : Nat) (t : TaskMetric ι κ σ)
    (ht : TaskFits size instanceMetrics metadata t) (b : MetricsBatch μ ι κ σ)
    (h : BatchFits size instanceMetrics metadata b) :
    BatchFits size instanceMetrics metadata (taskMetricStep size instanceMetrics metadata numTasks b i t) := by
  set s := serviceConnectMetricsToPublishMetricRequests size instanceMetrics
    (copyMetricsMetadata metadata false) t
    (flushIfOverflowing size (filterInstanceMetrics instanceMetrics b.requests.length)
      (copyMetricsMetadata metadata false) t b)
  have hs : EntryFits size instanceMetrics metadata t s :=
    foldl_serviceConnectMetricStep_entryFits hmono t ht _ (flushIfOverflowing_entryFits hmono t ht b h)
  rw [taskMetricStep_eq]
  rcases appendTaskMetric_cases (filterInstanceMetrics instanceMetrics s.batch.requests.length)
    (if i + 1 = numTasks then copyMetricsMetadata metadata true
      else copyMetricsMetadata metadata false) s with ⟨-, hb⟩ | ⟨-, hb⟩ <;> rw [hb]
  · -- the page, marked or not, is no bigger than the candidate the invariant bounds
    refine ⟨requests_fit_snoc size hs.requests_fit ?_ (by simp), by simp⟩
    split
    · exact (hmono.copyMetricsMetadata_le _ metadata true _).trans hs.entry_fit
    · exact hs.entry_fit
  · exact ⟨hs.requests_fit, fun _ => hs.entry_fit⟩

theorem metricsLoop_batchFits (numTasks i : Nat) (ts : List (TaskMetric ι κ σ))
    (hts : ∀ t ∈ ts, TaskFits size instanceMetrics metadata t) (b : MetricsBatch μ ι κ σ)
    (h : BatchFits size instanceMetrics metadata b) :
    BatchFits size instanceMetrics metadata (metricsLoop size instanceMetrics metadata numTasks i ts b) := by
  induction ts generalizing i b with
  | nil => exact h
  | cons t ts ih =>
    exact ih (i + 1) (fun t' ht' => hts t' (List.mem_cons_of_mem t ht')) _
      (taskMetricStep_batchFits hmono numTasks i t (hts t (List.mem_cons_self t ts)) b h)

theorem sendRemaining_fit (b : MetricsBatch μ ι κ σ) (h : BatchFits size instanceMetrics metadata b) :
    ∀ r ∈ sendRemaining instanceMetrics metadata b,
      size r ≤ publishMetricRequestSizeLimit ∧ r.taskMetrics ≠ [] := by
  unfold sendRemaining
  split
  · rename_i hpos
    have hne : b.messageTaskMetrics ≠ [] := List.ne_nil_of_length_pos hpos
    exact requests_fit_snoc size h.requests_fit
      ((hmono.copyMetricsMetadata_le _ metadata true _).trans (h.waiting_fit hne)) hne
  · exact h.requests_fit

end

/-- Under a monotone size, if each task metric without its service connect metrics, and each
    of its service connect metrics alone without the container metrics, fits in a request of
    its own, then every request of a non-idle message fits and carries a task metric. -/
theorem metricsToPublishMetricRequests_fit (size : PublishMetricsRequest μ ι κ σ → Nat)
    (hmono : SizeMonotone size) (instanceMetrics : Option μ) (metadata : MetricsMetadata)
    (taskMetrics : List (TaskMetric ι κ σ)) (hidle : metadata.idle = false)
    (hfit : ∀ t ∈ taskMetrics, size ⟨instanceMetrics, copyMetricsMetadata metadata false,
      [{ t with serviceConnectMetricsWrapper := [] }]⟩ ≤ publishMetricRequestSizeLimit)
    (hfitServiceConnect : ∀ t ∈ taskMetrics, ∀ m ∈ t.serviceConnectMetricsWrapper,
      size ⟨instanceMetrics, copyMetricsMetadata metadata false,
        [{ t with serviceConnectMetricsWrapper := [m], containerMetrics := [] }]⟩ ≤
        publishMetricRequestSizeLimit) :
    ∃ reqs,
      metricsToPublishMetricRequests size ⟨instanceMetrics, some metadata, taskMetrics⟩ = .ok reqs ∧
      ∀ r ∈ reqs, size r ≤ publishMetricRequestSizeLimit ∧ r.taskMetrics ≠ [] :=
  ⟨_, metricsToPublishMetricRequests_of_not_idle size instanceMetrics metadata taskMetrics hidle,
    sendRemaining_fit hmono _ (metricsLoop_batchFits hmono _ 0 taskMetrics
      (fun t ht => ⟨hfit t ht, hfitServiceConnect t ht⟩) ⟨[], []⟩ ⟨by simp, by simp⟩)⟩

/-- A size of 300000 bytes per entry and 400000 per service connect metric is monotone, and
    under it a task metric with three service connect metrics, which the inner loop has to
    split, meets the preconditions. -/
theorem metricsToPublishMetricRequests_fit_split :
    let size := fun r : PublishMetricsRequest Nat Nat Nat Nat =>
      300000 * r.taskMetrics.length +
        400000 * (r.taskMetrics.flatMap (·.serviceConnectMetricsWrapper)).length
    let md : MetricsMetadata := ⟨"c", "i", false, "m", false⟩
    let ts : List (TaskMetric Nat Nat Nat) := [⟨0, [1], [2, 3, 4]⟩]
    SizeMonotone size ∧ md.idle = false ∧
    (∀ t ∈ ts, size ⟨some 7, copyMetricsMetadata md false,
      [{ t with serviceConnectMetricsWrapper := [] }]⟩ ≤ publishMetricRequestSizeLimit) ∧
    (∀ t ∈ ts, ∀ m ∈ t.serviceConnectMetricsWrapper,
      size ⟨some 7, copyMetricsMetadata md false,
        [{ t with serviceConnectMetricsWrapper := [m], containerMetrics := [] }]⟩ ≤
        publishMetricRequestSizeLimit) ∧
    ∃ reqs, metricsToPublishMetricRequests size ⟨some 7, some md, ts⟩ = .ok reqs ∧
      ∀ r ∈ reqs, size r ≤ publishMetricRequestSizeLimit ∧ r.taskMetrics ≠ [] := by
  intro size md ts
  have hmono : SizeMonotone size := by
    refine ⟨fun _ _ _ _ _ => ?_, fun _ _ _ _ _ _ _ _ h => ?_, fun _ _ _ _ _ => ?_,
      fun _ _ _ => le_rfl, fun _ _ _ _ => le_rfl⟩ <;>
      simp only [size, List.length_append, List.length_cons, List.flatMap_append,
        List.flatMap_cons, *] <;> omega
  have hfit : ∀ t ∈ ts, size ⟨some 7, copyMetricsMetadata md false,
      [{ t with serviceConnectMetricsWrapper := [] }]⟩ ≤ publishMetricRequestSizeLimit := by
    simp [size, ts, publishMetricRequestSizeLimit]
  have hfitServiceConnect : ∀ t ∈ ts, ∀ m ∈ t.serviceConnectMetricsWrapper,
      size ⟨some 7, copyMetricsMetadata md false,
        [{ t with serviceConnectMetricsWrapper := [m], containerMetrics := [] }]⟩ ≤
        publishMetricRequestSizeLimit := by
    simp [size, ts, publishMetricRequestSizeLimit]
  exact ⟨hmono, rfl, hfit, hfitServiceConnect,
    metricsToPublishMetricRequests_fit size hmono (some 7) md ts rfl hfit hfitServiceConnect⟩

end Tcs

end EcsAgent
