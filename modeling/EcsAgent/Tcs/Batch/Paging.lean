import EcsAgent.Tcs.Batch
import EcsAgent.Tcs.Pages
import Mathlib.Data.List.Infix

/-!
# Batching Without Overflow Is Paging

The size checks of `metricsToPublishMetricRequests` measure candidate requests: the batch
with the next task metric added without its service connect metrics, then, in the inner
loop, with each longer prefix of them. While no check fires, the batch moves as a pager
does, so the candidates the run measures are fixed by the message alone: `fitCandidates`
lists those of one iteration, and `pagingCandidates` those of the whole walk. When none of
them exceeds the size limit, the inner loop puts every service connect metric back into the
task metric it came from, and what is left is paging: the requests carry the task metrics
in consecutive pages of `tasksInMetricMessage`, the last one shorter. Nothing is assumed of
the size of any other request.

The proof is a simulation. `pagerOf` reads a batch as the state of the abstract pager of
`EcsAgent.Tcs.Pages`, the sealed pages and the open one, and `taskMetricStep_pagerOf` says one
iteration moves it as `pageStep` does. The page check of the code tests the batch length
modulo a page where the pager tests for a full page; they agree because the batch never
holds a full page between iterations, which is the invariant carried alongside.

## Main definitions

* `pagerOf`: A batch read as the pager's state.
* `fitCandidates`, `pagingCandidates`: The requests the size checks measure while none
  overflows, in one iteration and over the message.

## Theorems

* `serviceConnectMetricsToPublishMetricRequests_of_fits`: Without overflow the inner loop
  gives the task metric back whole.
* `taskMetricStep_pagerOf`: Without overflow an iteration is a step of the pager.
* `metricsLoop_pagerOf`: Without overflow the outer loop is the pager's walk.
* `metricsToPublishMetricRequests_pages`: Without overflow the requests are the pages.
-/

namespace EcsAgent

namespace Tcs

variable {μ ι κ σ : Type}

/-- A batch as the state of the pager: the task metrics of the requests made, and the
    waiting ones. -/
def pagerOf (b : MetricsBatch μ ι κ σ) : List (List (TaskMetric ι κ σ)) × List (TaskMetric ι κ σ) :=
  (b.requests.map (·.taskMetrics), b.messageTaskMetrics)

/-- The requests the size checks of one iteration measure while none overflows, at a pager
    state whose sealed pages are the requests made and whose open page is waiting: the open
    page with the task metric added, holding each prefix of its service connect metrics in
    turn, the empty one first. -/
def fitCandidates (instanceMetrics : Option μ) (metadata : MetricsMetadata)
    (p : List (List (TaskMetric ι κ σ)) × List (TaskMetric ι κ σ)) (t : TaskMetric ι κ σ) :
    List (PublishMetricsRequest μ ι κ σ) :=
  t.serviceConnectMetricsWrapper.inits.map fun pre =>
    ⟨filterInstanceMetrics instanceMetrics p.1.length, copyMetricsMetadata metadata false,
      p.2 ++ [{ t with serviceConnectMetricsWrapper := pre }]⟩

/-- The requests the size checks measure over a walk in which none overflows: each task
    metric's candidates, at the pager's state when it is reached. -/
def pagingCandidates (instanceMetrics : Option μ) (metadata : MetricsMetadata) :
    List (List (TaskMetric ι κ σ)) × List (TaskMetric ι κ σ) → List (TaskMetric ι κ σ) →
      List (PublishMetricsRequest μ ι κ σ)
  | _, [] => []
  | p, t :: ts => fitCandidates instanceMetrics metadata p t ++
      pagingCandidates instanceMetrics metadata (pageStep tasksInMetricMessage p t) ts

section

variable (size : PublishMetricsRequest μ ι κ σ → Nat) (instanceMetrics : Option μ)
  (md : MetricsMetadata)

theorem foldl_serviceConnectMetricStep_of_fits (ms : List σ) (t : TaskMetric ι κ σ) (q : List σ)
    (b : MetricsBatch μ ι κ σ)
    (hfit : ∀ pre, pre <+: ms → size ⟨filterInstanceMetrics instanceMetrics b.requests.length, md,
      b.messageTaskMetrics ++ [{ t with serviceConnectMetricsWrapper := q ++ pre }]⟩ ≤
        publishMetricRequestSizeLimit) :
    ms.foldl (serviceConnectMetricStep size instanceMetrics md)
        ⟨{ t with serviceConnectMetricsWrapper := q }, b⟩ =
      ⟨{ t with serviceConnectMetricsWrapper := q ++ ms }, b⟩ := by
  induction ms generalizing q with
  | nil => simp
  | cons m ms ih =>
    rcases serviceConnectMetricStep_cases size md instanceMetrics
      ⟨{ t with serviceConnectMetricsWrapper := q }, b⟩ m with ⟨hov, -⟩ | ⟨-, h⟩
    · exact absurd (hfit [m] (by simp)) (not_le.mpr hov)
    · rw [List.foldl_cons, h]
      simpa using ih (q ++ [m]) fun pre hpre => by
        simpa using hfit (m :: pre) (List.cons_prefix_cons.mpr ⟨rfl, hpre⟩)

theorem serviceConnectMetricsToPublishMetricRequests_of_fits (t : TaskMetric ι κ σ)
    (b : MetricsBatch μ ι κ σ)
    (hfit : ∀ pre, pre <+: t.serviceConnectMetricsWrapper →
      size ⟨filterInstanceMetrics instanceMetrics b.requests.length, md,
        b.messageTaskMetrics ++ [{ t with serviceConnectMetricsWrapper := pre }]⟩ ≤
          publishMetricRequestSizeLimit) :
    serviceConnectMetricsToPublishMetricRequests size instanceMetrics md t b = ⟨t, b⟩ := by
  simpa using foldl_serviceConnectMetricStep_of_fits size instanceMetrics md
    t.serviceConnectMetricsWrapper t [] b (by simpa using hfit)

theorem flushIfOverflowing_of_fits (im : Option μ) (t : TaskMetric ι κ σ) (b : MetricsBatch μ ι κ σ)
    (hfit : size ⟨im, md, b.messageTaskMetrics ++ [{ t with serviceConnectMetricsWrapper := [] }]⟩ ≤
      publishMetricRequestSizeLimit) :
    flushIfOverflowing size im md t b = b := by
  rcases flushIfOverflowing_cases size md im t b with ⟨hov, -⟩ | ⟨-, h⟩
  · exact absurd hfit (not_le.mpr hov)
  · exact h

end

section

variable (size : PublishMetricsRequest μ ι κ σ → Nat) (instanceMetrics : Option μ)
  (metadata : MetricsMetadata) (numTasks : Nat)

/-- Without overflow of the candidates it measures, an iteration moves the batch as the
    pager's step moves its state, and the batch still holds less than a page. -/
theorem taskMetricStep_pagerOf (b : MetricsBatch μ ι κ σ) (i : Nat) (t : TaskMetric ι κ σ)
    (hb : b.messageTaskMetrics.length < tasksInMetricMessage)
    (hfit : ∀ r ∈ fitCandidates instanceMetrics metadata (pagerOf b) t,
      size r ≤ publishMetricRequestSizeLimit) :
    pagerOf (taskMetricStep size instanceMetrics metadata numTasks b i t) =
        pageStep tasksInMetricMessage (pagerOf b) t ∧
      (taskMetricStep size instanceMetrics metadata numTasks b i t).messageTaskMetrics.length <
        tasksInMetricMessage := by
  -- the candidate at a prefix of the service connect metrics fits
  have hpre : ∀ pre, pre <+: t.serviceConnectMetricsWrapper →
      size ⟨filterInstanceMetrics instanceMetrics b.requests.length,
        copyMetricsMetadata metadata false,
        b.messageTaskMetrics ++ [{ t with serviceConnectMetricsWrapper := pre }]⟩ ≤
          publishMetricRequestSizeLimit := fun pre hpre =>
    hfit _ (List.mem_map.mpr ⟨pre, (List.mem_inits _ _).mpr hpre, by simp [pagerOf]⟩)
  rw [taskMetricStep_eq, flushIfOverflowing_of_fits size _ _ _ _ (hpre [] (List.nil_prefix)),
    serviceConnectMetricsToPublishMetricRequests_of_fits size _ _ _ _ hpre]
  simp only [tasksInMetricMessage] at hb ⊢
  rcases appendTaskMetric_cases (filterInstanceMetrics instanceMetrics b.requests.length)
    (if i + 1 = numTasks then copyMetricsMetadata metadata true
      else copyMetricsMetadata metadata false) ⟨t, b⟩ with ⟨hpage, h⟩ | ⟨hpage, h⟩ <;>
    simp only [tasksInMetricMessage] at hpage <;> rw [h]
  · have hfull : b.messageTaskMetrics.length + 1 = 10 := by omega
    simp [pagerOf, pageStep, hfull]
  · have hopen : b.messageTaskMetrics.length + 1 ≠ 10 := by omega
    simp only [pagerOf, pageStep, List.length_append, List.length_singleton, if_neg hopen]
    exact ⟨trivial, by omega⟩

theorem metricsLoop_pagerOf (i : Nat) (ts : List (TaskMetric ι κ σ)) (b : MetricsBatch μ ι κ σ)
    (hb : b.messageTaskMetrics.length < tasksInMetricMessage)
    (hfit : ∀ r ∈ pagingCandidates instanceMetrics metadata (pagerOf b) ts,
      size r ≤ publishMetricRequestSizeLimit) :
    pagerOf (metricsLoop size instanceMetrics metadata numTasks i ts b) =
        ts.foldl (pageStep tasksInMetricMessage) (pagerOf b) ∧
      (metricsLoop size instanceMetrics metadata numTasks i ts b).messageTaskMetrics.length <
        tasksInMetricMessage := by
  induction ts generalizing i b with
  | nil => exact ⟨rfl, hb⟩
  | cons t ts ih =>
    simp only [pagingCandidates, List.mem_append] at hfit
    obtain ⟨hstep, hlt⟩ := taskMetricStep_pagerOf size instanceMetrics metadata numTasks b i t hb
      fun r hr => hfit r (.inl hr)
    rw [metricsLoop_cons, List.foldl_cons, ← hstep]
    exact ih (i + 1) _ hlt fun r hr => hfit r (.inr (hstep ▸ hr))

end

theorem sendRemaining_map (im : Option μ) (md : MetricsMetadata) (b : MetricsBatch μ ι κ σ) :
    (sendRemaining im md b).map (·.taskMetrics) = closePages (pagerOf b) := by
  unfold sendRemaining closePages pagerOf
  by_cases h : b.messageTaskMetrics = [] <;> simp [h, newPublishMetricsRequest, List.length_pos]

/-- If no candidate request the size checks measure exceeds the size limit, the requests of
    a non-idle message carry the task metrics in consecutive pages of `tasksInMetricMessage`,
    unchanged. -/
theorem metricsToPublishMetricRequests_pages (size : PublishMetricsRequest μ ι κ σ → Nat)
    (instanceMetrics : Option μ) (metadata : MetricsMetadata)
    (taskMetrics : List (TaskMetric ι κ σ)) (hidle : metadata.idle = false)
    (hsize : ∀ r ∈ pagingCandidates instanceMetrics metadata ([], []) taskMetrics,
      size r ≤ publishMetricRequestSizeLimit) :
    ∃ reqs,
      metricsToPublishMetricRequests size ⟨instanceMetrics, some metadata, taskMetrics⟩ = .ok reqs ∧
      reqs.map (·.taskMetrics) = pages tasksInMetricMessage taskMetrics := by
  refine ⟨_, metricsToPublishMetricRequests_of_not_idle size instanceMetrics metadata taskMetrics
    hidle, ?_⟩
  obtain ⟨hrun, -⟩ := metricsLoop_pagerOf size instanceMetrics metadata taskMetrics.length 0
    taskMetrics ⟨[], []⟩ (by simp [tasksInMetricMessage]) hsize
  rw [sendRemaining_map, hrun]
  exact closePages_foldl_pageStep (by simp [tasksInMetricMessage]) taskMetrics [] []
    (by simp [tasksInMetricMessage])

/-- Twelve task metrics, each with a service connect metric, under a size that grows with
    the number of task metrics and overflows past ten: every candidate holds at most ten, and
    the requests are the pages of ten and two. -/
theorem metricsToPublishMetricRequests_pages_twelve :
    let size := fun r : PublishMetricsRequest Nat Nat Nat Nat => 100000 * r.taskMetrics.length
    let metadata : MetricsMetadata := ⟨"c", "i", false, "m", false⟩
    let ts : List (TaskMetric Nat Nat Nat) := (List.range 12).map fun i => ⟨i, [i], [i]⟩
    metadata.idle = false ∧
    (∀ r ∈ pagingCandidates none metadata ([], []) ts, size r ≤ publishMetricRequestSizeLimit) ∧
    ∃ reqs, metricsToPublishMetricRequests size ⟨none, some metadata, ts⟩ = .ok reqs ∧
      reqs.map (·.taskMetrics) = pages tasksInMetricMessage ts := by
  intro size metadata ts
  have hsize : ∀ r ∈ pagingCandidates none metadata ([], []) ts,
      size r ≤ publishMetricRequestSizeLimit := by
    decide
  exact ⟨rfl, hsize, metricsToPublishMetricRequests_pages size none metadata ts rfl hsize⟩

end Tcs

end EcsAgent
