/-! # Maps in the order of their keys

A finite map is the list of its entries in the order of the keys, each key once. `insert` keeps
the order, and two maps with the same entries are equal. -/

namespace DataRoute

/-- A strict total order, as a test. -/
class KeyOrder (κ : Type) where
  before : κ → κ → Bool
  before_self : ∀ a, before a a = false
  before_trans : ∀ {a b c}, before a b = true → before b c = true → before a c = true
  eq_of_neither : ∀ {a b}, before a b = false → before b a = false → a = b

open KeyOrder

instance : KeyOrder String where
  before a b := decide (a < b)
  before_self a := by simp
  before_trans {a b c} h₁ h₂ := by
    simp only [decide_eq_true_eq] at h₁ h₂ ⊢
    exact String.lt_trans h₁ h₂
  eq_of_neither {a b} h₁ h₂ := by
    simp only [decide_eq_false_iff_not, String.not_lt] at h₁ h₂
    exact String.le_antisymm h₂ h₁

/-- Entries in the order of their keys. -/
structure SortedMap (κ α : Type) [KeyOrder κ] where
  entries : List (κ × α)
  sorted : entries.Pairwise fun a b => before a.1 b.1 = true

namespace SortedMap

variable {κ α : Type} [KeyOrder κ]

def empty : SortedMap κ α := ⟨[], List.Pairwise.nil⟩

/-- Puts an entry in its place in a list of entries. -/
def insertEntry (key : κ) (value : α) : List (κ × α) → List (κ × α)
  | [] => [(key, value)]
  | (k, v) :: rest =>
    if before key k then (key, value) :: (k, v) :: rest
    else if before k key then (k, v) :: insertEntry key value rest
    else (key, value) :: rest

theorem mem_insertEntry {key : κ} {value : α} {entries : List (κ × α)} {e : κ × α}
    (h : e ∈ insertEntry key value entries) : e = (key, value) ∨ e ∈ entries := by
  induction entries with
  | nil => simpa [insertEntry] using h
  | cons head rest ih =>
    rw [insertEntry] at h
    split at h
    · simpa using h
    · split at h
      · rcases List.mem_cons.1 h with rfl | h
        · exact .inr List.mem_cons_self
        · exact (ih h).imp_right (List.mem_cons_of_mem _)
      · rcases List.mem_cons.1 h with rfl | h
        · exact .inl rfl
        · exact .inr (List.mem_cons_of_mem _ h)

theorem sorted_insertEntry {key : κ} {value : α} {entries : List (κ × α)}
    (h : entries.Pairwise fun a b => before a.1 b.1 = true) :
    (insertEntry key value entries).Pairwise fun a b => before a.1 b.1 = true := by
  induction entries with
  | nil => simp [insertEntry]
  | cons head rest ih =>
    obtain ⟨hhead, hrest⟩ := List.pairwise_cons.1 h
    rw [insertEntry]
    split
    next hlt =>
      refine List.pairwise_cons.2 ⟨fun e he => ?_, h⟩
      rcases List.mem_cons.1 he with rfl | he
      · exact hlt
      · exact before_trans hlt (hhead e he)
    next hnot =>
      split
      next hgt =>
        refine List.pairwise_cons.2 ⟨fun e he => ?_, ih hrest⟩
        rcases mem_insertEntry he with rfl | he
        · exact hgt
        · exact hhead e he
      next hnot' =>
        have hkey : key = head.1 :=
          eq_of_neither (Bool.not_eq_true _ ▸ hnot) (Bool.not_eq_true _ ▸ hnot')
        exact List.pairwise_cons.2 ⟨fun e he => hkey ▸ hhead e he, hrest⟩

/-- Adds an entry; an entry with the same key is replaced. -/
def insert (m : SortedMap κ α) (key : κ) (value : α) : SortedMap κ α :=
  ⟨insertEntry key value m.entries, sorted_insertEntry m.sorted⟩

/-- The map of a list of entries; of entries with one key the last counts. -/
def ofList (entries : List (κ × α)) : SortedMap κ α :=
  entries.foldl (fun m e => m.insert e.1 e.2) empty

/-- The value at a key. -/
def get? [BEq κ] (m : SortedMap κ α) (key : κ) : Option α := m.entries.lookup key

def keys (m : SortedMap κ α) : List κ := m.entries.map Prod.fst

theorem get?_eq_some_iff [BEq κ] [LawfulBEq κ] {m : SortedMap κ α} {key : κ} {value : α} :
    m.get? key = some value ↔ (key, value) ∈ m.entries := by
  obtain ⟨entries, sorted⟩ := m
  unfold get?
  induction entries with
  | nil => simp
  | cons head rest ih =>
    obtain ⟨hhead, hrest⟩ := List.pairwise_cons.1 sorted
    rw [List.lookup_cons, List.mem_cons]
    by_cases h : key = head.1
    · subst h
      have hnot : (head.1, value) ∉ rest := fun hmem => by
        have := hhead _ hmem
        rw [before_self] at this
        exact absurd this (by decide)
      simp [hnot, Prod.ext_iff, eq_comm]
    · have hne : (key == head.1) = false := by simpa using h
      simp only [hne]
      rw [ih hrest]
      simp [Prod.ext_iff, h]

theorem get?_insert [BEq κ] [LawfulBEq κ] (m : SortedMap κ α) (key other : κ) (value : α) :
    (m.insert key value).get? other = if other == key then some value else m.get? other := by
  obtain ⟨entries, sorted⟩ := m
  unfold insert get?
  dsimp only
  clear sorted
  induction entries with
  | nil => rw [insertEntry, List.lookup_cons]; cases other == key <;> rfl
  | cons head rest ih =>
    rw [insertEntry]
    split
    · rw [List.lookup_cons]
      cases other == key <;> rfl
    · split
      next hgt =>
        rw [List.lookup_cons, List.lookup_cons, ih]
        cases hhead : other == head.1 with
        | false => rfl
        | true =>
          have hne : other ≠ key := by
            rintro rfl
            rw [beq_iff_eq.1 hhead, before_self] at hgt
            exact absurd hgt (by decide)
          rw [beq_eq_false_iff_ne.2 hne]
          rfl
      next hnot hnot' =>
        have hkey : key = head.1 :=
          eq_of_neither (Bool.not_eq_true _ ▸ hnot) (Bool.not_eq_true _ ▸ hnot')
        rw [List.lookup_cons, List.lookup_cons, ← hkey]
        cases other == key <;> rfl

theorem ext {m n : SortedMap κ α} (h : m.entries = n.entries) : m = n := by
  cases m
  cases n
  cases h
  rfl

end SortedMap

end DataRoute
