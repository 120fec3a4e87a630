import DataRoute.Neighbours
import DataRoute.Route

/-! # Chains

What a route is, said without the search: `IsChain` holds of the lists of legs over a list of
offers that begin at the source, end at the destination, and hand the data on from leg to leg at
stores that the later leg declares as a source and the earlier one supports as a sink. -/

namespace DataRoute

namespace Leg

/-- Whether a leg picks up at a store that its capability declares as a source. -/
def PicksUpDeclared (l : Leg) : Prop := ∃ i ∈ l.capability.declaredSources, l.source = .store i

/-- Whether a leg delivers to a destination: to the destination itself, which it supports, or to a
declared sink where the destination stands for any store. -/
def Delivers (l : Leg) (destination : Endpoint) : Prop :=
  if destination.isWildcard then ∃ i ∈ l.capability.declaredSinks, l.sink = .store i
  else l.sink = destination ∧ l.capability.supportsSink destination = true

/-- Whether one leg hands the data on to another. -/
def HandsOn (l m : Leg) : Prop := l.sink = m.source ∧ l.capability.supportsSink m.source = true

/-- Whether both ends of a leg match one pair of interfaces that its capability declares. -/
def FollowsPassage (l : Leg) : Prop :=
  ∃ p ∈ l.capability.passages, ∃ i ∈ p.source, ∃ j ∈ p.sink,
    i.compatible l.source.interface = true ∧ j.compatible l.sink.interface = true

end Leg

/-- A list of legs over some offers that leads from a source to a destination. -/
structure IsChain (offers : List Offer) (source destination : Endpoint) (route : Route) :
    Prop where
  offered : ∀ l ∈ route, l.offer ∈ offers
  begins : ∃ l, route.head? = some l ∧ l.source = source ∧
    l.capability.supportsSource source = true
  declared : ∀ l ∈ route.tail, l.PicksUpDeclared
  joined : ∀ p ∈ neighbours route, p.1.HandsOn p.2
  ends : ∃ l, route.getLast? = some l ∧ l.Delivers destination

namespace IsChain

variable {offers : List Offer} {source destination : Endpoint} {route : Route}

theorem ne_nil (h : IsChain offers source destination route) : route ≠ [] := by
  obtain ⟨l, hl, -⟩ := h.begins
  intro hnil
  rw [hnil] at hl
  exact absurd hl (by simp)

end IsChain

theorem length_le_of_mem_findRoutes {offers : List Offer} {source : Endpoint} {depth : Nat}
    {destination : Endpoint} {route : Route}
    (h : route ∈ findRoutes offers source depth destination) :
    0 < route.length ∧ route.length ≤ depth := by
  induction depth generalizing destination route with
  | zero => simp [findRoutes] at h
  | succ depth ih =>
    simp only [findRoutes, List.mem_flatMap, List.mem_append, List.mem_map] at h
    obtain ⟨offer, -, sink, -, h | ⟨i, -, before, hbefore, rfl⟩⟩ := h
    · split at h
      · obtain rfl := List.mem_singleton.1 h
        simp
      · simp at h
    · have := ih hbefore
      rw [List.length_append, List.length_singleton]
      omega

end DataRoute
