import DataRoute.Proofs.Chains
import DataRoute.Score

/-! # Hops between regions

The hops of a plan are the neighbours on its itinerary that lie in different regions.  Leaving out
the repetitions first and pairing afterwards comes to the same (`neighbours_withoutRuns`), so the
hops are one journey from the first region of the itinerary to the last, which stays nowhere, and
there are none exactly if the itinerary knows one region at most (`hops_exact`). -/

namespace DataRoute

/-! ### Pairs of neighbours -/

section neighbours
variable {α : Type}

/-- Of two neighbouring pairs of neighbours the second begins where the first ends. -/
theorem joined_of_mem_neighbours {items : List α} {p : (α × α) × (α × α)}
    (h : p ∈ neighbours (neighbours items)) : p.1.2 = p.2.1 := by
  match items with
  | [] => simp at h
  | [a] => simp at h
  | [a, b] => simp at h
  | a :: b :: c :: rest =>
      rw [neighbours_cons_cons, neighbours_cons_cons, neighbours_cons_cons] at h
      rcases List.mem_cons.mp h with rfl | h
      · rfl
      · have hrest : p ∈ neighbours (neighbours (b :: c :: rest)) := by simpa using h
        exact joined_of_mem_neighbours hrest

theorem fst_head?_neighbours {items : List α} {p : α × α}
    (h : (neighbours items).head? = some p) : items.head? = some p.1 := by
  match items with
  | [] => simp at h
  | [a] => simp at h
  | a :: b :: rest =>
      obtain rfl : (a, b) = p := by simpa using h
      rfl

theorem snd_getLast?_neighbours {items : List α} {p : α × α}
    (h : (neighbours items).getLast? = some p) : items.getLast? = some p.2 := by
  match items with
  | [] => simp at h
  | [a] => simp at h
  | [a, b] =>
      obtain rfl : (a, b) = p := by simpa using h
      rfl
  | a :: b :: c :: rest =>
      have ih : (b :: c :: rest).getLast? = some p.2 := by
        apply snd_getLast?_neighbours
        simpa using h
      simpa using ih

variable [DecidableEq α]

theorem head?_withoutRuns (items : List α) : (withoutRuns items).head? = items.head? := by
  cases items with
  | nil => rfl
  | cons a rest =>
      obtain ⟨t, ht⟩ := withoutRuns_cons a rest
      rw [ht]
      rfl

theorem getLast?_withoutRuns (items : List α) :
    (withoutRuns items).getLast? = items.getLast? := by
  match items with
  | [] => rfl
  | [a] => rfl
  | a :: b :: rest =>
      have ih := getLast?_withoutRuns (b :: rest)
      obtain ⟨t, ht⟩ := withoutRuns_cons b rest
      by_cases h : a = b
      · rw [withoutRuns, if_pos h, ih]
        simp
      · rw [withoutRuns, if_neg h, List.getLast?_cons_cons, ← ih, ht, List.getLast?_cons_cons]

/-- No two neighbours differ exactly if all items are equal. -/
theorem filter_neighbours_eq_nil_iff {items : List α} :
    (neighbours items).filter (fun p => p.1 ≠ p.2) = [] ↔ ∀ a ∈ items, ∀ b ∈ items, a = b := by
  match items with
  | [] => simp
  | [a] => simp
  | a :: b :: rest =>
      have ih : (neighbours (b :: rest)).filter (fun p => p.1 ≠ p.2) = [] ↔
          ∀ c ∈ b :: rest, ∀ d ∈ b :: rest, c = d := filter_neighbours_eq_nil_iff
      rw [neighbours_cons_cons]
      by_cases h : a = b
      · subst h
        simp only [ne_eq, not_true_eq_false, decide_false, Bool.false_eq_true,
          not_false_eq_true, List.filter_cons_of_neg]
        rw [ih]
        simp
      · simp only [ne_eq, h, not_false_eq_true, decide_true, List.filter_cons_of_pos]
        constructor
        · intro hnil
          simp at hnil
        · intro hall
          exact absurd (hall a (by simp) b (by simp)) h

end neighbours

/-! ### The hops of a plan -/

/-- **Hops are the moves on the itinerary.**  They are the neighbours on it that differ, in its
order.  Each hop begins where the one before it ends and leads to another region, the first begins
where the itinerary does and the last ends where it does, and there are none exactly if all
regions of the itinerary are the same. -/
theorem hops_exact (request : Request) (plan : Plan) :
    hops request plan = (neighbours (itinerary request plan)).filter (fun p => p.1 ≠ p.2) ∧
    (∀ p ∈ neighbours (hops request plan), p.1.2 = p.2.1) ∧
    (∀ p ∈ hops request plan, p.1 ≠ p.2) ∧
    (∀ p, (hops request plan).head? = some p → (itinerary request plan).head? = some p.1) ∧
    (∀ p, (hops request plan).getLast? = some p → (itinerary request plan).getLast? = some p.2) ∧
    (hops request plan = [] ↔
      ∀ x ∈ itinerary request plan, ∀ y ∈ itinerary request plan, x = y) := by
  have hmoves : hops request plan =
      (neighbours (itinerary request plan)).filter (fun p => p.1 ≠ p.2) :=
    neighbours_withoutRuns _
  refine ⟨hmoves, fun p hp => joined_of_mem_neighbours hp, fun p hp => ?_, fun p hp => ?_,
    fun p hp => ?_, ?_⟩
  · rw [hmoves] at hp
    simpa using (List.mem_filter.mp hp).2
  · rw [← head?_withoutRuns]
    exact fst_head?_neighbours hp
  · rw [← getLast?_withoutRuns]
    exact snd_getLast?_neighbours hp
  · rw [hmoves]
    exact filter_neighbours_eq_nil_iff

namespace Sample

/-- A workload that runs where the rows are. -/
def localRequest : Request := { request with workloadCluster := some dear }

/-- Copies where the rows are and serves the columns from another region. -/
def awayAndBack : Plan :=
  [⟨copying, [], dear, some filtered⟩, ⟨reading, [], cheap, none⟩]

end Sample

/-- Data that stay in a region, leave it and come back make two hops. -/
theorem sample_hops :
    hops Sample.localRequest Sample.awayAndBack =
        [("theshire", "neverland"), ("neverland", "theshire")] ∧
      (itinerary Sample.localRequest Sample.awayAndBack).head? = some "theshire" ∧
      ∃ p ∈ neighbours (hops Sample.localRequest Sample.awayAndBack), p.1.2 = p.2.1 := by
  have hhops : hops Sample.localRequest Sample.awayAndBack =
      [("theshire", "neverland"), ("neverland", "theshire")] := by decide
  obtain ⟨-, hjoined, -, hbegins, -, -⟩ := hops_exact Sample.localRequest Sample.awayAndBack
  refine ⟨hhops, hbegins ("theshire", "neverland") (by rw [hhops]; rfl),
    (("theshire", "neverland"), ("neverland", "theshire")), ?_, hjoined _ ?_⟩
  · rw [hhops]
    simp
  · rw [hhops]
    simp

end DataRoute
