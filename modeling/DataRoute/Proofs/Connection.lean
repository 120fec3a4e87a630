import DataRoute.Proofs.Chains

/-! # How the legs of a route connect

`Connected` says that each leg of a route hands the data on to the next one at a store that both
support.  The search does not promise this: each declared source of a leg becomes a destination for
the legs before it, and a source without a protocol becomes one that stands for any store.  What
every route satisfies is `Spans`, with `Leg.Delivers` in place of a common store
(`spans_of_mem_findRoutes`).  Two neighbours of a route join exactly if they meet in one endpoint
(`joins_iff`), which they do unless the later one picks up without a protocol
(`joins_of_protocol`).  It follows which offers lead to connected routes only: those where a
declared source without a protocol is met by no other sink (`routes_connected_iff`). -/

namespace DataRoute

/-- Whether data pass from one leg to another: they meet at a store, which the earlier leg can
deliver to and the later leg can pick up from. -/
structure Leg.Joins (l m : Leg) : Prop where
  meets : l.sink = m.source
  stored : l.sink.isApi = false
  delivered : l.capability.supportsSink l.sink = true
  collected : m.capability.supportsSource m.source = true

/-- Whether each leg of a route joins the next one. -/
def Connected (route : Route) : Prop := ∀ p ∈ neighbours route, p.1.Joins p.2

/-- What every route that is found satisfies.  Each leg uses an offer, picks up where it can and
delivers to some destination: the last leg to that of the route, the others to the declared source
at which the next leg picks up. -/
structure Spans (offers : List Offer) (source destination : Endpoint) (route : Route) : Prop where
  begins : ∃ l, route.head? = some l ∧ l.source = source
  usable : ∀ l ∈ route, l.offer ∈ offers ∧ l.capability.supportsSource l.source = true ∧
    ∃ e, l.Delivers e
  handed : ∀ p ∈ neighbours route, p.2.PicksUpDeclared ∧ p.1.Delivers p.2.source
  ends : ∃ l, route.getLast? = some l ∧ l.Delivers destination

/-! ### What the search promises -/

theorem supportsSource_of_declared {l : Leg} (h : l.PicksUpDeclared) :
    l.capability.supportsSource l.source = true := by
  obtain ⟨i, hi, hl⟩ := h
  rw [hl]
  exact List.any_eq_true.mpr ⟨i, hi, Interface.compatible_self i⟩

theorem supportsSink_of_delivers {l : Leg} {destination : Endpoint} (h : l.Delivers destination) :
    l.capability.supportsSink l.sink = true := by
  unfold Leg.Delivers at h
  split at h
  · obtain ⟨i, hi, hl⟩ := h
    rw [hl]
    exact List.any_eq_true.mpr ⟨i, hi, Interface.compatible_self i⟩
  · rw [h.1]
    exact h.2

section spans
variable {offers : List Offer} {source destination : Endpoint} {route : Route}

theorem spans_singleton {l : Leg} (hoffer : l.offer ∈ offers) (hends : l.Delivers destination)
    (hsource : l.source = source) (hbegins : l.capability.supportsSource source = true) :
    Spans offers source destination [l] := by
  refine ⟨⟨l, rfl, hsource⟩, fun m hm => ?_, fun p hp => absurd hp List.not_mem_nil,
    ⟨l, rfl, hends⟩⟩
  rw [List.mem_singleton.mp hm, hsource]
  exact ⟨hoffer, hbegins, destination, hends⟩

theorem Spans.concat {l : Leg} {i : Interface} (h : Spans offers source (.store i) route)
    (hoffer : l.offer ∈ offers) (hends : l.Delivers destination)
    (hi : i ∈ l.capability.declaredSources) (hl : l.source = .store i) :
    Spans offers source destination (route ++ [l]) := by
  obtain ⟨m, hlast, hdelivers⟩ := h.ends
  obtain ⟨before, rfl⟩ := List.getLast?_eq_some_iff.mp hlast
  have hne : before ++ [m] ≠ [] := by simp
  have hdeclared : l.PicksUpDeclared := ⟨i, hi, hl⟩
  refine ⟨?_, ?_, ?_, ⟨l, List.getLast?_concat, hends⟩⟩
  · rw [List.head?_append_of_ne_nil _ hne]
    exact h.begins
  · intro k hk
    rcases List.mem_append.mp hk with hk | hk
    · exact h.usable k hk
    · rw [List.mem_singleton.mp hk]
      exact ⟨hoffer, supportsSource_of_declared hdeclared, destination, hends⟩
  · intro p hp
    rw [List.append_assoc] at hp
    change p ∈ neighbours (before ++ [m, l]) at hp
    rw [neighbours_append_pair] at hp
    rcases List.mem_append.mp hp with hp | hp
    · exact h.handed p hp
    · rw [List.mem_singleton.mp hp, hl]
      exact ⟨hdeclared, hdelivers⟩

theorem spans_of_mem_findRoutes {depth : Nat}
    (h : route ∈ findRoutes offers source depth destination) :
    Spans offers source destination route := by
  induction depth generalizing destination route with
  | zero => exact absurd h List.not_mem_nil
  | succ depth ih =>
      obtain ⟨l, hoffer, hends, ⟨hl, hbegins, rfl⟩ | ⟨i, hi, hl, before, hbefore, rfl⟩⟩ :=
        mem_findRoutes_succ.mp h
      · exact spans_singleton hoffer hends hl hbegins
      · exact (ih hbefore).concat hoffer hends hi hl

/-- Two legs are a route if the later one declares the source to which the earlier one delivers. -/
theorem pair_mem_findRoutes {l m : Leg} {i : Interface} (hl : l.offer ∈ offers)
    (hm : m.offer ∈ offers) (hbegins : l.capability.supportsSource l.source = true)
    (hi : i ∈ m.capability.declaredSources) (hsource : m.source = .store i)
    (hdelivers : l.Delivers (.store i)) (hends : m.Delivers destination) :
    [l, m] ∈ findRoutes offers l.source 2 destination := by
  have hbefore : [l] ∈ findRoutes offers l.source 1 (.store i) :=
    mem_findRoutes_succ.mpr ⟨l, hl, hdelivers, .inl ⟨rfl, hbegins, rfl⟩⟩
  exact mem_findRoutes_succ.mpr ⟨m, hm, hends, .inr ⟨i, hi, hsource, [l], hbefore, rfl⟩⟩

end spans

/-! ### Where legs join -/

section joins
variable {l m : Leg}

/-- To deliver to where a leg picks up is to meet it, unless it picks up without a protocol. -/
theorem meets_of_protocol (hl : l.Delivers m.source) (hprotocol : m.source.isWildcard = false) :
    l.sink = m.source := by
  unfold Leg.Delivers at hl
  rw [hprotocol] at hl
  exact hl.1

/-- Neighbours in a route join exactly if they meet. -/
theorem joins_iff (hm : m.PicksUpDeclared) (hl : l.Delivers m.source) :
    l.Joins m ↔ l.sink = m.source := by
  refine ⟨Leg.Joins.meets, fun hmeets => ?_⟩
  refine ⟨hmeets, ?_, supportsSink_of_delivers hl, supportsSource_of_declared hm⟩
  obtain ⟨i, -, hi⟩ := hm
  rw [hmeets, hi]
  rfl

end joins

/-- Where an offer declares a source without a protocol, that source is the only sink that an offer
before it declares.  Two offers count that can stand in a route: the earlier one can pick up from
somewhere, and the later one can deliver to somewhere. -/
def OpenSourcesMet (offers : List Offer) : Prop :=
  ∀ o ∈ offers, ∀ o' ∈ offers, (∃ e, o.capability.supportsSource e = true) →
    (∃ e, o'.capability.sinksTowards e ≠ []) →
    ∀ i ∈ o'.capability.declaredSources, i.protocol = "" → ∀ j ∈ o.capability.declaredSinks, j = i

section offers
variable {offers : List Offer}

theorem joins_of_protocol {source destination : Endpoint} {depth : Nat} {route : Route}
    (h : route ∈ findRoutes offers source depth destination) {p : Leg × Leg}
    (hp : p ∈ neighbours route) (hprotocol : p.2.source.isWildcard = false) :
    p.1.Joins p.2 := by
  obtain ⟨hdeclared, hdelivers⟩ := (spans_of_mem_findRoutes h).handed p hp
  exact (joins_iff hdeclared hdelivers).mpr (meets_of_protocol hdelivers hprotocol)

/-- Two legs that do not meet are a route if the later one picks up without a protocol. -/
theorem openSourcesMet_of_connected
    (h : ∀ source destination depth, ∀ route ∈ findRoutes offers source depth destination,
      Connected route) : OpenSourcesMet offers := by
  rintro o ho o' ho' ⟨source, hsource⟩ ⟨destination, hsome⟩ i hi hopen j hj
  obtain ⟨sink, hsink⟩ := List.exists_mem_of_ne_nil _ hsome
  have hdelivers : Leg.Delivers ⟨o, source, .store j⟩ (.store i) := by
    unfold Leg.Delivers
    rw [if_pos (Endpoint.isWildcard_store_iff.mpr hopen)]
    exact ⟨j, hj, rfl⟩
  have hroute := pair_mem_findRoutes (l := ⟨o, source, .store j⟩) (m := ⟨o', .store i, sink⟩)
    ho ho' hsource hi rfl hdelivers (mem_sinksTowards_iff.mp hsink)
  have hjoins := h _ _ _ _ hroute _ List.mem_cons_self
  exact Endpoint.store.inj hjoins.meets

theorem connected_of_openSourcesMet (h : OpenSourcesMet offers) {source destination : Endpoint}
    {depth : Nat} {route : Route} (hroute : route ∈ findRoutes offers source depth destination) :
    Connected route := by
  intro p hp
  have hspans := spans_of_mem_findRoutes hroute
  obtain ⟨hdeclared, hdelivers⟩ := hspans.handed p hp
  obtain ⟨hfirst, hsecond⟩ := mem_of_mem_neighbours hp
  cases hwild : p.2.source.isWildcard with
  | false => exact joins_of_protocol hroute hp hwild
  | true =>
      rw [joins_iff hdeclared hdelivers]
      obtain ⟨i, hi, hsource⟩ := hdeclared
      unfold Leg.Delivers at hdelivers
      rw [if_pos hwild] at hdelivers
      obtain ⟨j, hj, hsink⟩ := hdelivers
      obtain ⟨hoffer, hbegins, -⟩ := hspans.usable _ hfirst
      obtain ⟨hoffer', -, destination', hends⟩ := hspans.usable _ hsecond
      have hsome : p.2.capability.sinksTowards destination' ≠ [] :=
        List.ne_nil_of_mem (mem_sinksTowards_iff.mpr hends)
      rw [hsource] at hwild
      rw [hsink, hsource, h _ hoffer _ hoffer' ⟨_, hbegins⟩ ⟨_, hsome⟩ i hi
        (Endpoint.isWildcard_store_iff.mp hwild) j hj]

theorem openSourcesMet_of_protocols
    (h : ∀ o ∈ offers, ∀ i ∈ o.capability.declaredSources, i.protocol ≠ "") :
    OpenSourcesMet offers := fun _ _ o' ho' _ _ i hi hopen => absurd hopen (h o' ho' i hi)

end offers

/-- **When routes are connected.**  Neighbours in a route join exactly if they meet, which they do
where the later one picks up at a source with a protocol.  All routes over the offers that a policy
admits are connected exactly if no sink but a declared source without a protocol itself leads to
that source. -/
theorem routes_connected_iff (env : Environment) (policy : Policy) :
    (∀ source destination depth,
      ∀ route ∈ findRoutes (env.offers policy) source depth destination, ∀ p ∈ neighbours route,
        (p.1.Joins p.2 ↔ p.1.sink = p.2.source) ∧
        (p.2.source.isWildcard = false → p.1.Joins p.2)) ∧
    ((∀ source destination depth,
      ∀ route ∈ findRoutes (env.offers policy) source depth destination, Connected route) ↔
        OpenSourcesMet (env.offers policy)) := by
  refine ⟨fun source destination depth route hroute p hp => ⟨?_, joins_of_protocol hroute hp⟩,
    openSourcesMet_of_connected, fun h _ _ _ _ hroute => connected_of_openSourcesMet h hroute⟩
  obtain ⟨hdeclared, hdelivers⟩ := (spans_of_mem_findRoutes hroute).handed p hp
  exact joins_iff hdeclared hdelivers

theorem sample_routes_connected :
    OpenSourcesMet (Sample.environment.offers Sample.request.policy) ∧
      Connected [Sample.copying, Sample.reading] := by
  have hmet : OpenSourcesMet (Sample.environment.offers Sample.request.policy) :=
    openSourcesMet_of_protocols (by decide)
  have hfound : findRoutes (Sample.environment.offers Sample.request.policy) (.store Sample.csv) 2
      (.api Sample.flight) = [[Sample.copying, Sample.reading]] := rfl
  refine ⟨hmet, (routes_connected_iff _ _).2.mpr hmet (.store Sample.csv) (.api Sample.flight) 2 _
    ?_⟩
  rw [hfound]
  exact List.mem_singleton_self _

namespace Sample

/-- A module that serves data and does not say through which protocol it gets them. -/
def vague : Module where
  name := "vague"
  version := none
  capabilities := [⟨.read, .workload, [⟨some .unspecified, none⟩], some ⟨flight, none⟩, []⟩]
  labels := []

/-- Two modules, one of which does not name its source, and a cluster. -/
def vagueEnvironment : Environment := .ofParts [copier, vague] [dear] [] .empty

/-- Serves data from somewhere. -/
def guessing : Leg := ⟨⟨vague, ⟨0, by decide⟩⟩, .store .unspecified, .api flight⟩

end Sample

/-- A leg that delivers columns and a leg that picks up without a protocol are a route and do not
join. -/
theorem sample_not_connected :
    [Sample.copying, Sample.guessing] ∈ findRoutes (Sample.vagueEnvironment.offers .empty)
        (.store Sample.csv) 2 (.api Sample.flight) ∧
      Sample.copying.sink ≠ Sample.guessing.source ∧
      ¬ Connected [Sample.copying, Sample.guessing] := by
  have hfound : [Sample.copying, Sample.guessing] ∈ findRoutes
      (Sample.vagueEnvironment.offers .empty) (.store Sample.csv) 2 (.api Sample.flight) :=
    List.mem_cons_self
  have hapart : Sample.copying.sink ≠ Sample.guessing.source := by decide
  exact ⟨hfound, hapart, fun h => hapart (h _ List.mem_cons_self).meets⟩

end DataRoute
