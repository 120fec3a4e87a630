import DataRoute.Proofs.Connection

/-! # Legs and the pairs of interfaces behind them

A capability declares pairs of interfaces, its passages, but the search looks at the two sides on
their own: it asks whether some passage leads to where a leg delivers, and whether some passage
begins where the leg picks up.  So both ends of a leg between stores are sides of passages
(`Leg.MatchesSides`), and these may be different ones.  Every leg on every route follows one
passage exactly if each capability has one for whatever it can be given and asked for
(`legs_follow_passages_iff`). -/

namespace DataRoute

/-- Whether each end of a leg matches a side of some pair of interfaces that its capability
declares. -/
structure Leg.MatchesSides (l : Leg) : Prop where
  source : ∃ p ∈ l.capability.passages, ∃ i ∈ p.source, i.compatible l.source.interface = true
  sink : ∃ p ∈ l.capability.passages, ∃ j ∈ p.sink, j.compatible l.sink.interface = true

namespace Capability

/-- Whether a capability can be asked to deliver through an interface: a declared sink, or another
interface with a protocol that matches one. -/
def DeliversThrough (c : Capability) (j : Interface) : Prop :=
  j ∈ c.declaredSinks ∨ j.protocol ≠ "" ∧ c.supportsSink (.store j) = true

/-- Whether a capability has one passage for each interface that it can pick up from and each that
it can be asked to deliver through. -/
def JoinsSides (c : Capability) : Prop :=
  ∀ i j, c.supportsSource (.store i) = true → c.DeliversThrough j →
    ∃ p ∈ c.passages, ∃ s ∈ p.source, ∃ t ∈ p.sink,
      s.compatible i = true ∧ t.compatible j = true

section sides
variable {c : Capability} {i : Interface}

theorem any_filterMap_iff {side : Passage → Option Interface} {passages : List Passage} :
    (passages.filterMap side).any (fun s => s.compatible i) = true ↔
      ∃ p ∈ passages, ∃ s ∈ side p, s.compatible i = true := by
  simp only [List.any_eq_true, List.mem_filterMap]
  constructor
  · rintro ⟨s, ⟨p, hp, hs⟩, hmatch⟩
    exact ⟨p, hp, s, hs, hmatch⟩
  · rintro ⟨p, hp, s, hs, hmatch⟩
    exact ⟨s, ⟨p, hp, hs⟩, hmatch⟩

theorem supportsSource_store_iff : c.supportsSource (.store i) = true ↔
    ∃ p ∈ c.passages, ∃ s ∈ p.source, s.compatible i = true := any_filterMap_iff

theorem supportsSink_store_iff : c.supportsSink (.store i) = true ↔
    ∃ p ∈ c.passages, ∃ t ∈ p.sink, t.compatible i = true := any_filterMap_iff

/-- A capability joins its sides if each declared source stands in one pair with each declared
sink. -/
theorem joinsSides_of_passages
    (h : ∀ s ∈ c.declaredSources, ∀ t ∈ c.declaredSinks, ⟨some s, some t⟩ ∈ c.passages) :
    c.JoinsSides := by
  intro i j hi hj
  obtain ⟨s, hs, hsource⟩ : ∃ s ∈ c.declaredSources, s.compatible i = true := by
    simpa [supportsSource] using hi
  obtain ⟨t, ht, hsink⟩ : ∃ t ∈ c.declaredSinks, t.compatible j = true := by
    rcases hj with hj | ⟨-, hj⟩
    · exact ⟨j, hj, Interface.compatible_self j⟩
    · simpa [supportsSink] using hj
  exact ⟨_, h s hs t ht, s, rfl, t, rfl, hsource, hsink⟩

end sides

end Capability

/-! ### What legs deliver through -/

theorem exists_eq_store {e : Endpoint} (h : e.isApi = false) : ∃ i, e = .store i := by
  cases e with
  | store i => exact ⟨i, rfl⟩
  | api i => exact absurd h (by simp [Endpoint.isApi])

theorem deliversThrough_of_delivers {l : Leg} {e : Endpoint} {j : Interface} (h : l.Delivers e)
    (hsink : l.sink = .store j) : l.capability.DeliversThrough j := by
  cases hwild : e.isWildcard with
  | true =>
      unfold Leg.Delivers at h
      rw [if_pos hwild] at h
      obtain ⟨t, ht, hl⟩ := h
      obtain rfl : t = j := Endpoint.store.inj (hl.symm.trans hsink)
      exact .inl ht
  | false =>
      unfold Leg.Delivers at h
      rw [hwild, if_neg Bool.false_ne_true] at h
      obtain ⟨hl, hsupports⟩ := h
      obtain rfl : .store j = e := hsink.symm.trans hl
      refine .inr ⟨fun hopen => ?_, hsupports⟩
      rw [Endpoint.isWildcard_store_iff.mpr hopen] at hwild
      exact absurd hwild (by decide)

theorem exists_delivers {l : Leg} {j : Interface} (h : l.capability.DeliversThrough j)
    (hsink : l.sink = .store j) : ∃ e, l.Delivers e := by
  rcases h with h | ⟨hprotocol, hsupports⟩
  · refine ⟨.store .unspecified, ?_⟩
    unfold Leg.Delivers
    rw [if_pos (by rfl)]
    exact ⟨j, h, hsink⟩
  · refine ⟨.store j, ?_⟩
    have hwild : ¬ (Endpoint.store j).isWildcard = true := by
      rw [Endpoint.isWildcard_store_iff]
      exact hprotocol
    unfold Leg.Delivers
    rw [if_neg hwild]
    exact ⟨hsink, hsupports⟩

theorem singleton_mem_findRoutes {offers : List Offer} {l : Leg} {e : Endpoint}
    (hoffer : l.offer ∈ offers) (hsource : l.capability.supportsSource l.source = true)
    (hends : l.Delivers e) : [l] ∈ findRoutes offers l.source 1 e :=
  mem_findRoutes_succ.mpr ⟨l, hoffer, hends, .inl ⟨rfl, hsource, rfl⟩⟩

theorem matchesSides_of_mem_findRoutes {offers : List Offer} {source destination : Endpoint}
    {depth : Nat} {route : Route} (h : route ∈ findRoutes offers source depth destination)
    {l : Leg} (hl : l ∈ route) {i j : Interface} (hsource : l.source = .store i)
    (hsink : l.sink = .store j) : l.MatchesSides := by
  obtain ⟨-, hpicks, e, hends⟩ := (spans_of_mem_findRoutes h).usable l hl
  have hdelivers := supportsSink_of_delivers hends
  rw [hsource, Capability.supportsSource_store_iff] at hpicks
  rw [hsink, Capability.supportsSink_store_iff] at hdelivers
  constructor
  · rw [hsource]
    exact hpicks
  · rw [hsink]
    exact hdelivers

/-- **When legs follow what is declared.**  On every route, each end of a leg between stores matches
a side of some pair of interfaces that its capability declares.  One pair has both sides, for all
legs between stores on all routes, exactly if each capability on offer has a pair for each interface
that it can pick up from and each that it can be asked to deliver through. -/
theorem legs_follow_passages_iff (offers : List Offer) :
    (∀ source destination depth, ∀ route ∈ findRoutes offers source depth destination,
      ∀ l ∈ route, l.source.isApi = false → l.sink.isApi = false → l.MatchesSides) ∧
    ((∀ source destination depth, ∀ route ∈ findRoutes offers source depth destination,
      ∀ l ∈ route, l.source.isApi = false → l.sink.isApi = false → l.FollowsPassage) ↔
        ∀ o ∈ offers, o.capability.JoinsSides) := by
  refine ⟨fun source destination depth route hroute l hl hsource hsink => ?_,
    fun h o ho i j hi hj => ?_,
    fun h source destination depth route hroute l hl hsource hsink => ?_⟩
  · obtain ⟨i, hi⟩ := exists_eq_store hsource
    obtain ⟨j, hj⟩ := exists_eq_store hsink
    exact matchesSides_of_mem_findRoutes hroute hl hi hj
  · -- the leg from the one to the other is a route of its own
    obtain ⟨e, hends⟩ := exists_delivers (l := ⟨o, .store i, .store j⟩) hj rfl
    have hroute := singleton_mem_findRoutes (l := ⟨o, .store i, .store j⟩) ho hi hends
    exact h _ _ _ _ hroute _ List.mem_cons_self rfl rfl
  · obtain ⟨i, hi⟩ := exists_eq_store hsource
    obtain ⟨j, hj⟩ := exists_eq_store hsink
    obtain ⟨hoffer, hpicks, e, hends⟩ := (spans_of_mem_findRoutes hroute).usable l hl
    rw [hi] at hpicks
    obtain ⟨p, hp, s, hs, t, ht, hmatches⟩ :=
      h _ hoffer i j hpicks (deliversThrough_of_delivers hends hj)
    refine ⟨p, hp, s, hs, t, ht, ?_⟩
    rw [hi, hj]
    exact hmatches

/-- Each capability of the sample joins its sides, and the copy follows one of its pairs. -/
theorem sample_follows_passages :
    (∀ o ∈ Sample.environment.offers Sample.request.policy, o.capability.JoinsSides) ∧
      Sample.copying.FollowsPassage := by
  have hjoins : ∀ o ∈ Sample.environment.offers Sample.request.policy,
      o.capability.JoinsSides := by
    intro o ho
    apply Capability.joinsSides_of_passages
    revert o
    decide
  have hfound : findRoutes (Sample.environment.offers Sample.request.policy) (.store Sample.csv) 2
      (.api Sample.flight) = [[Sample.copying, Sample.reading]] := rfl
  refine ⟨hjoins, (legs_follow_passages_iff _).2.mpr hjoins (.store Sample.csv)
    (.api Sample.flight) 2 [Sample.copying, Sample.reading] ?_ _ List.mem_cons_self rfl rfl⟩
  rw [hfound]
  exact List.mem_singleton_self _

namespace Sample

/-- A database. -/
def database : Interface := ⟨"jdbc-db2", none⟩

/-- A module that copies rows into columns, and a database into rows. -/
def converter : Module where
  name := "converter"
  version := none
  capabilities :=
    [⟨.copy, .asset, [⟨some csv, some parquet⟩, ⟨some database, some csv⟩], none, []⟩]
  labels := []

/-- One module that copies. -/
def converterEnvironment : Environment := .ofParts [converter] [] [] .empty

/-- Copies rows into rows. -/
def crossing : Leg := ⟨⟨converter, ⟨0, by decide⟩⟩, .store csv, .store csv⟩

end Sample

/-- A leg that picks up as one pair says and delivers as another does is a route. -/
theorem sample_crossing :
    [Sample.crossing] ∈ findRoutes (Sample.converterEnvironment.offers .empty)
        (.store Sample.csv) 1 (.store Sample.csv) ∧
      Sample.crossing.source.isApi = false ∧ Sample.crossing.sink.isApi = false ∧
      ¬ Sample.crossing.FollowsPassage := by
  refine ⟨List.mem_cons_self, rfl, rfl, ?_⟩
  unfold Leg.FollowsPassage
  decide

end DataRoute
