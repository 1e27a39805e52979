import EcsAgent.Tcs.Model

/-!
# Pages of a List

The reference both request builders are measured against. Cutting a list into pages of
`size` elements is `pages`: take `size`, recurse on the rest. It says what paging is for,
and it is deliberately not how the client computes anything.

The client never takes `size` elements at once. It walks the list one element at a time,
appends to an open buffer, and seals the buffer when it is full; after the walk, what is
left in the buffer goes out as a last, shorter page. `pageStep` and `closePages` are that
walk with nothing else in it, and `closePages_foldl_pageStep` says it computes `pages`. The
two builders of `client.go` are then related to `pageStep`, not to `pages`, which keeps the
arithmetic of cutting out of their proofs.

## Main definitions

* `pages`: The consecutive pages of a list, the last one possibly shorter.
* `pageStep`: One element into the open page, sealing it once full.
* `closePages`: The sealed pages, then the open page if it holds anything.

## Theorems

* `pages_of_length_le`: A short non-empty list is one page.
* `pages_append_of_length_eq`: A full first page comes off the front.
* `flatten_pages`: The pages put back together are the list.
* `length_pages`: A list of `n` elements makes `⌈n / size⌉` pages.
* `closePages_foldl_pageStep`: Paging one element at a time computes `pages`.
-/

namespace EcsAgent

namespace Tcs

variable {α : Type}

/-- The consecutive pages of `size` elements of a list, the last one shorter when `size`
    does not divide the length. -/
def pages (size : Nat) (l : List α) : List (List α) :=
  if _h : 0 < size ∧ 0 < l.length then l.take size :: pages size (l.drop size) else []
termination_by l.length
decreasing_by
  simp only [List.length_drop]
  omega

@[simp] theorem pages_nil (size : Nat) : pages size ([] : List α) = [] := by
  rw [pages]; simp

theorem pages_of_ne_nil {size : Nat} {l : List α} (hs : 0 < size) (hl : l ≠ []) :
    pages size l = l.take size :: pages size (l.drop size) := by
  rw [pages, dif_pos ⟨hs, List.length_pos.mpr hl⟩]

theorem pages_of_length_le {size : Nat} {l : List α} (hl : l ≠ []) (hle : l.length ≤ size) :
    pages size l = [l] := by
  have hs : 0 < size := lt_of_lt_of_le (List.length_pos.mpr hl) hle
  rw [pages_of_ne_nil hs hl, List.take_of_length_le hle, List.drop_of_length_le hle, pages_nil]

theorem pages_append_of_length_eq {size : Nat} {a : List α} (b : List α) (hs : 0 < size)
    (ha : a.length = size) : pages size (a ++ b) = a :: pages size b := by
  have hne : a ++ b ≠ [] := by
    intro h
    simp only [List.append_eq_nil] at h
    simp only [h.1, List.length_nil] at ha
    omega
  rw [pages_of_ne_nil hs hne, List.take_left' ha, List.drop_left' ha]

theorem flatten_pages {size : Nat} (hs : 0 < size) (l : List α) :
    (pages size l).flatten = l := by
  induction l using WellFounded.induction (measure List.length).wf with
  | h l ih =>
    by_cases hl : l = []
    · simp [hl]
    · have hlt : (l.drop size).length < l.length := by
        have := List.length_pos.mpr hl
        simp only [List.length_drop]
        omega
      rw [pages_of_ne_nil hs hl, List.flatten_cons, ih _ hlt, List.take_append_drop]

theorem length_pages {size : Nat} (hs : 0 < size) (l : List α) :
    (pages size l).length = (l.length + size - 1) / size := by
  induction l using WellFounded.induction (measure List.length).wf with
  | h l ih =>
    by_cases hl : l = []
    · simp only [hl, pages_nil, List.length_nil, Nat.zero_add]
      exact (Nat.div_eq_of_lt (by omega)).symm
    · have hpos := List.length_pos.mpr hl
      have hlt : (l.drop size).length < l.length := by
        simp only [List.length_drop]
        omega
      rw [pages_of_ne_nil hs hl, List.length_cons, ih _ hlt, List.length_drop,
        show l.length + size - 1 = l.length - 1 + size by omega, Nat.add_div_right _ hs]
      congr 1
      by_cases hle : l.length ≤ size
      · rw [Nat.div_eq_of_lt (by omega), Nat.div_eq_of_lt (by omega)]
      · congr 1
        omega

/-! ### Paging one element at a time -/

/-- One element joins the open page; a page that reaches `size` elements is sealed. -/
def pageStep (size : Nat) (p : List (List α) × List α) (x : α) : List (List α) × List α :=
  if (p.2 ++ [x]).length = size then (p.1 ++ [p.2 ++ [x]], []) else (p.1, p.2 ++ [x])

/-- The sealed pages, then the open page if it holds anything. -/
def closePages (p : List (List α) × List α) : List (List α) :=
  if p.2.isEmpty then p.1 else p.1 ++ [p.2]

/-- Paging one element at a time computes `pages`. The open page is shorter than a full
    one, and it is the front of the first page still to come. -/
theorem closePages_foldl_pageStep {size : Nat} (hs : 0 < size) (l : List α) :
    ∀ (sealed : List (List α)) (cur : List α), cur.length < size →
      closePages (l.foldl (pageStep size) (sealed, cur)) = sealed ++ pages size (cur ++ l) := by
  induction l with
  | nil =>
    intro sealed cur hcur
    by_cases hc : cur = []
    · simp [closePages, hc]
    · simp [closePages, hc, pages_of_length_le hc hcur.le]
  | cons x xs ih =>
    intro sealed cur hcur
    rw [List.foldl_cons, pageStep]
    by_cases hfull : (cur ++ [x]).length = size
    · rw [if_pos hfull, ih _ _ (by simpa using hs), List.append_cons cur x xs,
        pages_append_of_length_eq xs hs hfull]
      simp
    · rw [if_neg hfull, ih _ _ (by simp only [List.length_append, List.length_singleton] at hfull ⊢; omega)]
      simp

end Tcs

end EcsAgent
