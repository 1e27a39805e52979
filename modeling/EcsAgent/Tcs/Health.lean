import EcsAgent.Tcs.Pages

/-!
# Paging Task Health into Requests

`healthToPublishHealthRequests` cuts a health message into publish-health requests of
`tasksInHealthMessage` entries each. The loop reuses one buffer: a full page is copied out
and the buffer reset, and after the loop what is left goes out uncopied. Full pages test
the index of the entry, not the length of the buffer, and they compute `Fin` from whether
that entry is the last one, while the remainder is always marked.

`taskHealthStep_pagerOf` says the loop is the pager of `EcsAgent.Tcs.Pages`: the buffer
always holds the index modulo a page, so testing the index is testing for a full buffer.
The `Fin` flags are settled the way the metrics requests' are: every iteration but the last
sends unmarked pages, and the last one either sends a marked page and empties the buffer,
or leaves the buffer for the marked remainder.

The metadata of every request is built by `copyHealthMetadata`, which reads the message's
fields through `aws.ToString`. A nil field therefore comes out as the empty string, not as
nil, and a request agrees with the message on a field only where the message's field is
set. `healthToPublishHealthRequests_cluster_nil` is a message where they differ.

## Main definitions

* `HealthBatch`: The requests made so far and the buffered task health entries.
* `taskHealthStep`, `healthLoop`: The loop over the task health entries.
* `healthToPublishHealthRequests`: The whole conversion.

## Theorems

* `healthLoop_pagerOf`: The loop is the pager's walk.
* `healthToPublishHealthRequests_map_metadata`: All requests but the last are unmarked, the
  last is marked.
* `healthToPublishHealthRequests_getElem_metadata`: The same, request by request.
* `healthToPublishHealthRequests_pages`: The requests are the pages, marked `Fin` exactly
  at the last, with the message's metadata read through `aws.ToString`.
-/

namespace EcsAgent

namespace Tcs

variable {τ : Type}

/-- The requests made so far and the buffered task health entries. -/
structure HealthBatch (τ : Type) where
  requests : List (PublishHealthRequest τ)
  taskHealths : List τ

/-- One iteration of the loop of `healthToPublishHealthRequests`, for the entry at index `i`
    of `numOfTasks`: the entry joins the buffer, and at every `tasksInHealthMessage`-th
    entry the buffer is copied into a request, marked `Fin` if this entry is the last. -/
def taskHealthStep (metadata : HealthMetadata) (numOfTasks : Nat) (b : HealthBatch τ) (i : Nat)
    (taskHealth : τ) : HealthBatch τ :=
  let taskHealths := b.taskHealths ++ [taskHealth]
  if (i + 1) % tasksInHealthMessage = 0 then
    let requestMetadata := copyHealthMetadata metadata (decide (i + 1 = numOfTasks))
    let requestTaskHealth := copyTaskHealthMetrics taskHealths
    { requests := b.requests ++ [newPublishHealthMetricsRequest requestMetadata requestTaskHealth]
      taskHealths := [] }
  else { b with taskHealths := taskHealths }

/-- The loop `for i, taskHealth := range taskHealthMetrics`, from index `i` on. -/
def healthLoop (metadata : HealthMetadata) (numOfTasks : Nat) :
    Nat → List τ → HealthBatch τ → HealthBatch τ
  | _, [], b => b
  | i, taskHealth :: taskHealths, b =>
    healthLoop metadata numOfTasks (i + 1) taskHealths (taskHealthStep metadata numOfTasks b i taskHealth)

/-- `healthToPublishHealthRequests`. Without metadata or health metrics there is nothing to
    report; otherwise the loop runs and the buffered entries are sent in a last request,
    marked `Fin`. The source's error result is always nil and is left out. -/
def healthToPublishHealthRequests (health : HealthMessage τ) : List (PublishHealthRequest τ) :=
  match health.metadata, health.healthMetrics with
  | some metadata, some taskHealthMetrics =>
    let b := healthLoop metadata taskHealthMetrics.length 0 taskHealthMetrics ⟨[], []⟩
    if b.taskHealths.length ≠ 0 then
      b.requests ++ [newPublishHealthMetricsRequest (copyHealthMetadata metadata true) b.taskHealths]
    else b.requests
  | _, _ => []

section

variable (metadata : HealthMetadata) (numOfTasks : Nat)

@[simp] theorem healthLoop_nil (i : Nat) (b : HealthBatch τ) :
    healthLoop metadata numOfTasks i [] b = b := rfl

@[simp] theorem healthLoop_cons (i : Nat) (th : τ) (ths : List τ) (b : HealthBatch τ) :
    healthLoop metadata numOfTasks i (th :: ths) b =
      healthLoop metadata numOfTasks (i + 1) ths (taskHealthStep metadata numOfTasks b i th) := rfl

theorem healthLoop_append (i : Nat) (xs ys : List τ) (b : HealthBatch τ) :
    healthLoop metadata numOfTasks i (xs ++ ys) b =
      healthLoop metadata numOfTasks (i + xs.length) ys (healthLoop metadata numOfTasks i xs b) := by
  induction xs generalizing i b with
  | nil => rfl
  | cons x xs ih =>
    simp only [List.cons_append, healthLoop_cons, ih, List.length_cons]
    rw [Nat.add_assoc, Nat.add_comm 1]

/-- Everything one iteration can do. -/
theorem taskHealthStep_cases (b : HealthBatch τ) (i : Nat) (th : τ) :
    ((i + 1) % tasksInHealthMessage = 0 ∧
      taskHealthStep metadata numOfTasks b i th =
        ⟨b.requests ++ [⟨copyHealthMetadata metadata (decide (i + 1 = numOfTasks)), b.taskHealths ++ [th]⟩],
          []⟩) ∨
    (¬ (i + 1) % tasksInHealthMessage = 0 ∧
      taskHealthStep metadata numOfTasks b i th = ⟨b.requests, b.taskHealths ++ [th]⟩) := by
  unfold taskHealthStep
  split
  · exact Or.inl ⟨‹_›, rfl⟩
  · exact Or.inr ⟨‹_›, rfl⟩

theorem healthToPublishHealthRequests_eq (taskHealthMetrics : List τ) :
    healthToPublishHealthRequests ⟨some metadata, some taskHealthMetrics⟩ =
      let b := healthLoop metadata taskHealthMetrics.length 0 taskHealthMetrics ⟨[], []⟩
      if b.taskHealths.length = 0 then b.requests
      else b.requests ++ [⟨copyHealthMetadata metadata true, b.taskHealths⟩] := by
  simp only [healthToPublishHealthRequests, ne_eq, ite_not]
  rfl

end

/-! ### The task health lists are the pages -/

/-- A batch as the state of the pager: the entries of the requests made, and the buffer. -/
def HealthBatch.pagerOf (b : HealthBatch τ) : List (List τ) × List τ :=
  (b.requests.map (·.tasks), b.taskHealths)

section

variable (metadata : HealthMetadata) (numOfTasks : Nat)

/-- The buffer holds the index modulo a page, so a full page by index is a full buffer and
    the iteration is a step of the pager. -/
theorem taskHealthStep_pagerOf (b : HealthBatch τ) (i : Nat) (th : τ)
    (hb : b.taskHealths.length = i % tasksInHealthMessage) :
    (taskHealthStep metadata numOfTasks b i th).pagerOf =
        pageStep tasksInHealthMessage b.pagerOf th ∧
      (taskHealthStep metadata numOfTasks b i th).taskHealths.length =
        (i + 1) % tasksInHealthMessage := by
  simp only [tasksInHealthMessage] at hb ⊢
  rcases taskHealthStep_cases metadata numOfTasks b i th with ⟨hpage, h⟩ | ⟨hpage, h⟩ <;>
    simp only [tasksInHealthMessage] at hpage <;> rw [h]
  · have hfull : b.taskHealths.length + 1 = 10 := by omega
    exact ⟨by simp [HealthBatch.pagerOf, pageStep, hfull], by simpa using hpage.symm⟩
  · have hopen : b.taskHealths.length + 1 ≠ 10 := by omega
    refine ⟨by simp [HealthBatch.pagerOf, pageStep, hopen], ?_⟩
    simp only [List.length_append, List.length_singleton]
    omega

theorem healthLoop_pagerOf (i : Nat) (ths : List τ) (b : HealthBatch τ)
    (hb : b.taskHealths.length = i % tasksInHealthMessage) :
    (healthLoop metadata numOfTasks i ths b).pagerOf =
      ths.foldl (pageStep tasksInHealthMessage) b.pagerOf := by
  induction ths generalizing i b with
  | nil => rfl
  | cons th ths ih =>
    obtain ⟨hstep, hlen⟩ := taskHealthStep_pagerOf metadata numOfTasks b i th hb
    rw [healthLoop_cons, List.foldl_cons, ← hstep]
    exact ih (i + 1) _ hlen

end

theorem healthToPublishHealthRequests_map_tasks (metadata : HealthMetadata) (taskHealthMetrics : List τ) :
    (healthToPublishHealthRequests ⟨some metadata, some taskHealthMetrics⟩).map (·.tasks) =
      pages tasksInHealthMessage taskHealthMetrics := by
  have hrun := healthLoop_pagerOf metadata taskHealthMetrics.length 0 taskHealthMetrics ⟨[], []⟩ rfl
  have hpages : closePages (taskHealthMetrics.foldl (pageStep tasksInHealthMessage) ([], [])) =
      pages tasksInHealthMessage taskHealthMetrics := by
    simpa using closePages_foldl_pageStep (show 0 < tasksInHealthMessage by
      simp [tasksInHealthMessage]) taskHealthMetrics [] [] (by simp [tasksInHealthMessage])
  rw [← hpages, healthToPublishHealthRequests_eq, ← show HealthBatch.pagerOf ⟨[], []⟩ = ([], [])
    from rfl, ← hrun]
  simp only [HealthBatch.pagerOf, closePages, List.isEmpty_iff, ← List.length_eq_zero]
  split <;> simp

/-! ### The `Fin` flags -/

section

variable (metadata : HealthMetadata) (numOfTasks : Nat)

theorem healthLoop_unmarked (i : Nat) (ths : List τ) (b : HealthBatch τ)
    (hi : i + ths.length < numOfTasks) (hb : ∀ r ∈ b.requests, r.metadata = copyHealthMetadata metadata false) :
    ∀ r ∈ (healthLoop metadata numOfTasks i ths b).requests,
      r.metadata = copyHealthMetadata metadata false := by
  induction ths generalizing i b with
  | nil => exact hb
  | cons th ths ih =>
    simp only [List.length_cons] at hi
    refine ih (i + 1) _ (by omega) ?_
    have hlast : decide (i + 1 = numOfTasks) = false := by simp; omega
    rcases taskHealthStep_cases metadata numOfTasks b i th with ⟨-, h⟩ | ⟨-, h⟩ <;> rw [h]
    · simp only [List.mem_append, List.mem_singleton, hlast]
      rintro r (hr | rfl)
      exacts [hb r hr, rfl]
    · exact hb

end

/-- All requests but the last are unmarked and the last is marked, each with the message's
    metadata read through `copyHealthMetadata`. -/
theorem healthToPublishHealthRequests_map_metadata (metadata : HealthMetadata)
    (taskHealthMetrics : List τ) (hne : taskHealthMetrics ≠ []) :
    (healthToPublishHealthRequests ⟨some metadata, some taskHealthMetrics⟩).map (·.metadata) =
      List.replicate ((healthToPublishHealthRequests ⟨some metadata, some taskHealthMetrics⟩).length - 1)
        (copyHealthMetadata metadata false) ++ [copyHealthMetadata metadata true] := by
  obtain ⟨init, last, rfl⟩ : ∃ init last, taskHealthMetrics = init ++ [last] :=
    ⟨_, _, (List.dropLast_append_getLast hne).symm⟩
  have hb := healthLoop_unmarked metadata (init ++ [last]).length 0 init ⟨[], []⟩ (by simp) (by simp)
  set b := healthLoop metadata (init ++ [last]).length 0 init ⟨[], []⟩
  have hmap : b.requests.map (·.metadata) =
      List.replicate b.requests.length (copyHealthMetadata metadata false) :=
    List.map_eq_replicate_iff.mpr hb
  have hlast : decide (init.length + 1 = (init ++ [last]).length) = true := by simp
  rw [healthToPublishHealthRequests_eq, healthLoop_append, healthLoop_cons, healthLoop_nil,
    Nat.zero_add]
  rcases taskHealthStep_cases metadata (init ++ [last]).length b init.length last with
    ⟨-, h⟩ | ⟨-, h⟩ <;> rw [h] <;> simp [hmap, hlast]

/-- Reading off one element of a list whose image is all `a` but a last `b`. -/
theorem apply_getElem_of_map_eq {α β : Type} {f : α → β} {l : List α} {a b : β}
    (h : l.map f = List.replicate (l.length - 1) a ++ [b]) (k : Nat) (hk : k < l.length) :
    f l[k] = if k + 1 = l.length then b else a := by
  have := List.getElem_of_eq h (by simpa using hk)
  rw [List.getElem_map, List.getElem_append] at this
  rw [this]
  by_cases hkl : k + 1 = l.length
  · simp [hkl, show ¬ k < l.length - 1 by omega]
  · simp [hkl, show k < l.length - 1 by omega]

/-- Each request's metadata is the message's, copied with `Fin` set exactly at the last
    request. -/
theorem healthToPublishHealthRequests_getElem_metadata (metadata : HealthMetadata)
    (taskHealthMetrics : List τ) (k : Nat)
    (hk : k < (healthToPublishHealthRequests ⟨some metadata, some taskHealthMetrics⟩).length) :
    (healthToPublishHealthRequests ⟨some metadata, some taskHealthMetrics⟩)[k].metadata =
      copyHealthMetadata metadata
        (decide (k + 1 = (healthToPublishHealthRequests ⟨some metadata, some taskHealthMetrics⟩).length)) := by
  by_cases hne : taskHealthMetrics = []
  · subst hne
    simp [healthToPublishHealthRequests_eq] at hk
  · rw [apply_getElem_of_map_eq (healthToPublishHealthRequests_map_metadata metadata
      taskHealthMetrics hne) k hk]
    split <;> simp_all

/-- For a health message with metadata and health metrics: the requests are as many as the
    pages of `tasksInHealthMessage` entries, carry those pages in order (so together the
    entries, each once), are marked `Fin` exactly at the last, and carry the message's
    cluster, container instance and message id read through `aws.ToString`, a nil field
    becoming the empty string. -/
theorem healthToPublishHealthRequests_pages (metadata : HealthMetadata) (taskHealthMetrics : List τ) :
    ∃ reqs, healthToPublishHealthRequests ⟨some metadata, some taskHealthMetrics⟩ = reqs ∧
      reqs.length = (taskHealthMetrics.length + tasksInHealthMessage - 1) / tasksInHealthMessage ∧
      reqs.map (·.tasks) = pages tasksInHealthMessage taskHealthMetrics ∧
      (reqs.map (·.tasks)).flatten = taskHealthMetrics ∧
      (∀ k (hk : k < reqs.length), reqs[k].metadata.fin = some (decide (k + 1 = reqs.length))) ∧
      ∀ r ∈ reqs, r.metadata.cluster = some (metadata.cluster.getD "") ∧
        r.metadata.containerInstance = some (metadata.containerInstance.getD "") ∧
        r.metadata.messageId = some (metadata.messageId.getD "") := by
  have hs : 0 < tasksInHealthMessage := by simp [tasksInHealthMessage]
  have hpages := healthToPublishHealthRequests_map_tasks metadata taskHealthMetrics
  have hmeta := healthToPublishHealthRequests_getElem_metadata metadata taskHealthMetrics
  generalize healthToPublishHealthRequests ⟨some metadata, some taskHealthMetrics⟩ = reqs at hpages hmeta
  refine ⟨reqs, rfl, ?_, hpages, ?_, fun k hk => by simp [hmeta k hk, copyHealthMetadata], ?_⟩
  · rw [← List.length_map reqs (·.tasks), hpages, length_pages hs]
  · rw [hpages, flatten_pages hs]
  · intro r hr
    obtain ⟨k, hk, rfl⟩ := List.getElem_of_mem hr
    simp [hmeta k hk, copyHealthMetadata]

/-- A request need not agree with its message on `Cluster`: at a message whose cluster is
    nil, the one request carries the empty string. -/
theorem healthToPublishHealthRequests_cluster_nil :
    ∃ r ∈ healthToPublishHealthRequests
        (⟨some ⟨none, some "i", none, some "m"⟩, some [0]⟩ : HealthMessage Nat),
      r.metadata.cluster ≠ none :=
  ⟨⟨⟨some "", some "i", some true, some "m"⟩, [0]⟩, List.mem_singleton_self _, by simp⟩

end Tcs

end EcsAgent
