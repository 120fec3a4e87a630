/-! # Neighbours in a list

The pairs of neighbours in a list, and a list without its runs of equal items. Removing the runs
removes exactly the pairs of equal neighbours (`neighbours_withoutRuns`). -/

namespace DataRoute

variable {α : Type}

/-- The pairs of neighbours, from the left. -/
def neighbours : List α → List (α × α)
  | a :: b :: rest => (a, b) :: neighbours (b :: rest)
  | _ => []

/-- A list with one item for each run of equal items. -/
def withoutRuns [DecidableEq α] : List α → List α
  | a :: b :: rest => if a = b then withoutRuns (b :: rest) else a :: withoutRuns (b :: rest)
  | items => items

@[simp] theorem neighbours_nil : neighbours ([] : List α) = [] := rfl

@[simp] theorem neighbours_singleton (a : α) : neighbours [a] = [] := rfl

@[simp] theorem neighbours_cons_cons (a b : α) (rest : List α) :
    neighbours (a :: b :: rest) = (a, b) :: neighbours (b :: rest) := rfl

theorem neighbours_append_pair (before : List α) (a b : α) :
    neighbours (before ++ [a, b]) = neighbours (before ++ [a]) ++ [(a, b)] := by
  match before with
  | [] => rfl
  | [c] => rfl
  | c :: d :: rest =>
    have ih := neighbours_append_pair (d :: rest) a b
    simpa using ih

theorem mem_of_mem_neighbours {items : List α} {p : α × α} (h : p ∈ neighbours items) :
    p.1 ∈ items ∧ p.2 ∈ items := by
  match items with
  | [] => exact absurd h List.not_mem_nil
  | [a] => exact absurd h List.not_mem_nil
  | a :: b :: rest =>
    rcases List.mem_cons.1 h with rfl | h
    · exact ⟨List.mem_cons_self, List.mem_cons_of_mem _ List.mem_cons_self⟩
    · have ih := mem_of_mem_neighbours h
      exact ⟨List.mem_cons_of_mem _ ih.1, List.mem_cons_of_mem _ ih.2⟩

variable [DecidableEq α]

theorem withoutRuns_cons (a : α) (rest : List α) : ∃ t, withoutRuns (a :: rest) = a :: t := by
  induction rest generalizing a with
  | nil => exact ⟨[], rfl⟩
  | cons b rest ih =>
    by_cases h : a = b
    · obtain ⟨t, ht⟩ := ih b
      refine ⟨t, ?_⟩
      rw [withoutRuns, if_pos h, ht, h]
    · exact ⟨withoutRuns (b :: rest), by rw [withoutRuns, if_neg h]⟩

/-- Without runs, the pairs of neighbours are those that differ. -/
theorem neighbours_withoutRuns (items : List α) :
    neighbours (withoutRuns items) = (neighbours items).filter fun p => p.1 ≠ p.2 := by
  match items with
  | [] => rfl
  | [a] => rfl
  | a :: b :: rest =>
    have ih := neighbours_withoutRuns (b :: rest)
    by_cases h : a = b
    · rw [withoutRuns, if_pos h, ih, neighbours_cons_cons, List.filter_cons_of_neg]
      simpa using h
    · obtain ⟨t, ht⟩ := withoutRuns_cons b rest
      rw [withoutRuns, if_neg h, neighbours_cons_cons, List.filter_cons_of_pos, ← ih, ht,
        neighbours_cons_cons]
      simpa using h

end DataRoute
