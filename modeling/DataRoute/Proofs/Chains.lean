import DataRoute.Placement.Choice
import DataRoute.Route.Chain
import Mathlib.Data.List.Nodup

/-! # The routes that the search finds

`findRoutes` searches backwards from the destination and turns each declared source of a leg into
a destination of its own.  A chain is taken apart in the same way, by its last leg
(`isChain_singleton`, `isChain_concat`), so that the search finds exactly the chains up to its
depth (`mem_findRoutes_iff`).  This needs the declared sources to have a protocol: one without
would stand for any store once it has become a destination.  No route is found twice, since the
last leg of a route tells by which offer, sink and source it was built (`nodup_findRoutes`). -/

namespace DataRoute

/-! ### Lists without repetition -/

/-- A list that is gathered from parts has no repetition if each item tells its part. -/
theorem nodup_flatMap_of_key {α β γ : Type} {items : List α} {f : α → List β} (key : β → γ)
    {tag : α → γ} (htag : Function.Injective tag) (hitems : items.Nodup)
    (hkey : ∀ a ∈ items, ∀ b ∈ f a, key b = tag a) (hf : ∀ a ∈ items, (f a).Nodup) :
    (items.flatMap f).Nodup := by
  refine List.nodup_flatMap.mpr ⟨hf, hitems.imp_of_mem fun ha ha' hne b hb hb' => hne ?_⟩
  exact htag ((hkey _ ha b hb).symm.trans (hkey _ ha' b hb'))

theorem nodup_eraseDups {α : Type} [DecidableEq α] : ∀ items : List α, items.eraseDups.Nodup
  | [] => List.nodup_nil
  | a :: rest => by
      have hlt := List.length_filter_le (fun b => !b == a) rest
      rw [List.eraseDups_cons, List.nodup_cons]
      refine ⟨?_, nodup_eraseDups _⟩
      rw [List.mem_eraseDups, List.mem_filter]
      simp
termination_by items => items.length
decreasing_by simp only [List.length_cons]; omega

/-! ### Offers -/

theorem nodup_allOffers (env : Environment) : env.allOffers.Nodup := by
  unfold Environment.allOffers
  refine nodup_flatMap_of_key Offer.module Function.injective_id
    (List.Nodup.of_map _ env.catalog.distinct) ?_ ?_
  · intro m _ o ho
    obtain ⟨position, -, rfl⟩ := List.mem_map.mp ho
    rfl
  · intro m _
    apply (List.nodup_finRange _).map
    intro i j h
    simpa using h

theorem nodup_offers (env : Environment) (policy : Policy) : (env.offers policy).Nodup :=
  (nodup_allOffers env).filter _

theorem module_mem_of_mem_offers {env : Environment} {policy : Policy} {o : Offer}
    (h : o ∈ env.offers policy) : o.module ∈ env.catalog.modules := by
  have hall := (List.mem_filter.mp h).1
  unfold Environment.allOffers Offer.ofModule at hall
  obtain ⟨m, hm, ho⟩ := List.mem_flatMap.mp hall
  obtain ⟨position, -, rfl⟩ := List.mem_map.mp ho
  exact hm

theorem capability_mem (o : Offer) : o.capability ∈ o.module.capabilities :=
  List.get_mem _ _

/-! ### The last leg of a chain -/

theorem mem_sinksTowards_iff {l : Leg} {destination : Endpoint} :
    l.sink ∈ l.capability.sinksTowards destination ↔ l.Delivers destination := by
  unfold Capability.sinksTowards Leg.Delivers
  cases destination.isWildcard with
  | true =>
      simp only [if_true, List.mem_map, List.mem_eraseDups, eq_comm]
  | false =>
      simp only [Bool.false_eq_true, if_false]
      cases l.capability.supportsSink destination <;> simp

theorem nodup_sinksTowards (c : Capability) (destination : Endpoint) :
    (c.sinksTowards destination).Nodup := by
  unfold Capability.sinksTowards
  split
  · exact (nodup_eraseDups _).map fun i j h => by simpa using h
  · split
    · exact List.nodup_singleton _
    · exact List.nodup_nil

/-- To deliver to the source of another leg is to hand on to it, unless that source stands for
any store. -/
theorem delivers_store_iff {l m : Leg} {i : Interface} (hi : i.protocol ≠ "")
    (hl : l.source = .store i) : m.Delivers (.store i) ↔ m.HandsOn l := by
  have hwild : (Endpoint.store i).isWildcard = false := by
    unfold Endpoint.isWildcard
    simpa using hi
  unfold Leg.Delivers Leg.HandsOn
  rw [hwild, hl]
  simp only [Bool.false_eq_true, if_false]

section chain
variable {offers : List Offer} {source destination : Endpoint}

theorem isChain_singleton {l : Leg} :
    IsChain offers source destination [l] ↔ l.offer ∈ offers ∧ l.Delivers destination ∧
      l.source = source ∧ l.capability.supportsSource source = true := by
  constructor
  · intro h
    obtain ⟨_, hhead, hbegins⟩ := h.begins
    obtain ⟨_, hlast, hends⟩ := h.ends
    obtain rfl := Option.some.inj hhead
    obtain rfl := Option.some.inj hlast
    exact ⟨h.offered _ List.mem_cons_self, hends, hbegins⟩
  · rintro ⟨hoffer, hends, hbegins⟩
    refine ⟨?_, ⟨l, rfl, hbegins⟩, ?_, ?_, ⟨l, rfl, hends⟩⟩
    · exact fun m hm => by rw [List.mem_singleton.mp hm]; exact hoffer
    · exact fun m hm => absurd hm List.not_mem_nil
    · exact fun p hp => absurd hp List.not_mem_nil

/-- A chain of several legs is a chain to a declared source of its last leg, and that leg. -/
theorem isChain_concat {before : Route} {l : Leg} {i : Interface} (hne : before ≠ [])
    (hi : i ∈ l.capability.declaredSources) (hprotocol : i.protocol ≠ "")
    (hl : l.source = .store i) :
    IsChain offers source destination (before ++ [l]) ↔
      l.offer ∈ offers ∧ l.Delivers destination ∧ IsChain offers source (.store i) before := by
  obtain ⟨pre, m, rfl⟩ : ∃ pre m, before = pre ++ [m] :=
    ⟨_, _, (List.dropLast_append_getLast hne).symm⟩
  have hpairs : neighbours (pre ++ [m] ++ [l]) = neighbours (pre ++ [m]) ++ [(m, l)] := by
    rw [List.append_assoc]
    exact neighbours_append_pair pre m l
  have htail : (pre ++ [m] ++ [l]).tail = (pre ++ [m]).tail ++ [l] :=
    List.tail_append_of_ne_nil hne
  have hhead : (pre ++ [m] ++ [l]).head? = (pre ++ [m]).head? := List.head?_append_of_ne_nil _ hne
  constructor
  · intro h
    obtain ⟨_, hlast, hends⟩ := h.ends
    rw [List.getLast?_concat, Option.some.injEq] at hlast
    subst hlast
    refine ⟨h.offered l (by simp), hends, ?_⟩
    refine ⟨?_, ?_, ?_, ?_, ⟨m, List.getLast?_concat, ?_⟩⟩
    · intro k hk
      exact h.offered k (List.mem_append_left _ hk)
    · rw [← hhead]; exact h.begins
    · intro k hk
      apply h.declared k
      rw [htail]
      exact List.mem_append_left _ hk
    · intro p hp
      apply h.joined p
      rw [hpairs]
      exact List.mem_append_left _ hp
    · rw [delivers_store_iff hprotocol hl]
      exact h.joined (m, l) (by rw [hpairs]; simp)
  · rintro ⟨hoffer, hends, h⟩
    obtain ⟨_, hlast, hhands⟩ := h.ends
    rw [List.getLast?_concat, Option.some.injEq] at hlast
    subst hlast
    refine ⟨?_, ?_, ?_, ?_, ⟨l, List.getLast?_concat, hends⟩⟩
    · intro k hk
      rcases List.mem_append.mp hk with hk | hk
      · exact h.offered k hk
      · rw [List.mem_singleton.mp hk]; exact hoffer
    · rw [hhead]; exact h.begins
    · intro k hk
      rw [htail] at hk
      rcases List.mem_append.mp hk with hk | hk
      · exact h.declared k hk
      · rw [List.mem_singleton.mp hk]; exact ⟨i, hi, hl⟩
    · intro p hp
      rw [hpairs] at hp
      rcases List.mem_append.mp hp with hp | hp
      · exact h.joined p hp
      · rw [List.mem_singleton.mp hp]
        exact (delivers_store_iff hprotocol hl).mp hhands

/-! ### The search -/

/-- The routes that end with an offer at a sink, and have at most `depth` legs before that. -/
def routesVia (offers : List Offer) (source : Endpoint) (depth : Nat) (offer : Offer)
    (sink : Endpoint) : List Route :=
  (if offer.capability.supportsSource source then [[Leg.mk offer source sink]] else []) ++
    offer.capability.sourceInterfaces.flatMap fun interface =>
      (findRoutes offers source depth (.store interface)).map fun before =>
        before ++ [Leg.mk offer (.store interface) sink]

theorem findRoutes_succ (depth : Nat) :
    findRoutes offers source (depth + 1) destination = offers.flatMap fun offer =>
      (offer.capability.sinksTowards destination).flatMap
        (routesVia offers source depth offer) := by
  rw [findRoutes]
  rfl

theorem mem_routesVia_iff {depth : Nat} {offer : Offer} {sink : Endpoint} {route : Route} :
    route ∈ routesVia offers source depth offer sink ↔
      (offer.capability.supportsSource source = true ∧ route = [⟨offer, source, sink⟩]) ∨
        ∃ i ∈ offer.capability.declaredSources,
          ∃ before ∈ findRoutes offers source depth (.store i),
            route = before ++ [⟨offer, .store i, sink⟩] := by
  unfold routesVia Capability.sourceInterfaces
  rw [List.mem_append, List.mem_flatMap]
  refine or_congr ?_ (exists_congr fun i => ?_)
  · split
    next h => simp [h]
    next h => simp [h]
  · rw [List.mem_eraseDups, List.mem_map]
    simp only [eq_comm]

/-- One step of the search, by the last leg of a route. -/
theorem mem_findRoutes_succ {depth : Nat} {route : Route} :
    route ∈ findRoutes offers source (depth + 1) destination ↔
      ∃ l : Leg, l.offer ∈ offers ∧ l.Delivers destination ∧
        ((l.source = source ∧ l.capability.supportsSource source = true ∧ route = [l]) ∨
          ∃ i ∈ l.capability.declaredSources, l.source = .store i ∧
            ∃ before ∈ findRoutes offers source depth (.store i), route = before ++ [l]) := by
  rw [findRoutes_succ]
  simp only [List.mem_flatMap, mem_routesVia_iff]
  constructor
  · rintro ⟨offer, hoffer, sink, hsink, ⟨hsource, rfl⟩ | ⟨i, hi, before, hbefore, rfl⟩⟩
    · exact ⟨⟨offer, source, sink⟩, hoffer, mem_sinksTowards_iff.mp hsink,
        .inl ⟨rfl, hsource, rfl⟩⟩
    · exact ⟨⟨offer, .store i, sink⟩, hoffer, mem_sinksTowards_iff.mp hsink,
        .inr ⟨i, hi, rfl, before, hbefore, rfl⟩⟩
  · rintro ⟨⟨offer, _, sink⟩, hoffer, hdelivers, hlast⟩
    refine ⟨offer, hoffer, sink, mem_sinksTowards_iff.mpr hdelivers, ?_⟩
    obtain ⟨rfl, hsource, rfl⟩ | ⟨i, hi, rfl, before, hbefore, rfl⟩ := hlast
    · exact .inl ⟨hsource, rfl⟩
    · exact .inr ⟨i, hi, before, hbefore, rfl⟩

/-- The search finds the chains that are not longer than its depth. -/
theorem mem_findRoutes_iff {depth : Nat} {route : Route}
    (hsources : ∀ o ∈ offers, ∀ i ∈ o.capability.declaredSources, i.protocol ≠ "") :
    route ∈ findRoutes offers source depth destination ↔
      IsChain offers source destination route ∧ route.length ≤ depth := by
  induction depth generalizing destination route with
  | zero =>
      rw [findRoutes]
      constructor
      · intro h
        exact absurd h List.not_mem_nil
      · rintro ⟨hchain, hlength⟩
        exact absurd (List.eq_nil_of_length_eq_zero (Nat.le_zero.mp hlength)) hchain.ne_nil
  | succ depth ih =>
      rw [mem_findRoutes_succ]
      constructor
      · rintro ⟨l, hoffer, hdelivers, ⟨hl, hsource, rfl⟩ | ⟨i, hi, hl, before, hbefore, rfl⟩⟩
        · exact ⟨isChain_singleton.mpr ⟨hoffer, hdelivers, hl, hsource⟩, by simp⟩
        · obtain ⟨hchain, hlength⟩ := ih.mp hbefore
          refine ⟨(isChain_concat hchain.ne_nil hi (hsources _ hoffer i hi) hl).mpr
            ⟨hoffer, hdelivers, hchain⟩, ?_⟩
          rw [List.length_append, List.length_singleton]
          omega
      · rintro ⟨hchain, hlength⟩
        obtain ⟨l, hlast, -⟩ := hchain.ends
        obtain ⟨before, rfl⟩ := List.getLast?_eq_some_iff.mp hlast
        rw [List.length_append, List.length_singleton] at hlength
        by_cases hne : before = []
        · subst hne
          obtain ⟨hoffer, hdelivers, hl, hsource⟩ := isChain_singleton.mp hchain
          exact ⟨l, hoffer, hdelivers, .inl ⟨hl, hsource, rfl⟩⟩
        · have hoffer : l.offer ∈ offers := hchain.offered l (by simp)
          have htail : l ∈ (before ++ [l]).tail := by
            rw [List.tail_append_of_ne_nil hne]
            simp
          obtain ⟨i, hi, hl⟩ := hchain.declared l htail
          obtain ⟨-, hdelivers, hbefore⟩ :=
            (isChain_concat hne hi (hsources _ hoffer i hi) hl).mp hchain
          exact ⟨l, hoffer, hdelivers,
            .inr ⟨i, hi, hl, before, ih.mpr ⟨hbefore, by omega⟩, rfl⟩⟩

/-- No route is found twice. -/
theorem nodup_findRoutes (hoffers : offers.Nodup) (depth : Nat) :
    (findRoutes offers source depth destination).Nodup := by
  induction depth generalizing destination with
  | zero => exact List.nodup_nil
  | succ depth ih =>
      have hlast : ∀ {offer sink route}, route ∈ routesVia offers source depth offer sink →
          ∃ origin, route.getLast? = some ⟨offer, origin, sink⟩ := by
        intro offer sink route h
        rcases mem_routesVia_iff.mp h with ⟨-, rfl⟩ | ⟨i, -, before, -, rfl⟩
        · exact ⟨source, rfl⟩
        · exact ⟨.store i, List.getLast?_concat⟩
      rw [findRoutes_succ]
      refine nodup_flatMap_of_key (fun route => route.getLast?.map Leg.offer)
        (fun _ _ => Option.some.inj) hoffers ?_ ?_
      · intro offer _ route h
        obtain ⟨sink, -, h⟩ := List.mem_flatMap.mp h
        obtain ⟨origin, h⟩ := hlast h
        rw [h, Option.map_some]
      intro offer _
      refine nodup_flatMap_of_key (fun route => route.getLast?.map Leg.sink)
        (fun _ _ => Option.some.inj) (nodup_sinksTowards _ _) ?_ ?_
      · intro sink _ route h
        obtain ⟨origin, h⟩ := hlast h
        rw [h, Option.map_some]
      intro sink _
      refine List.nodup_append.mpr ⟨?_, ?_, ?_⟩
      · split
        · exact List.nodup_singleton _
        · exact List.nodup_nil
      · have htag : Function.Injective fun i : Interface => some (Endpoint.store i) :=
          fun i j h => by simpa using h
        refine nodup_flatMap_of_key (fun route => route.getLast?.map Leg.source) htag
          (nodup_eraseDups _) ?_ ?_
        · intro i _ route h
          obtain ⟨before, -, rfl⟩ := List.mem_map.mp h
          rw [List.getLast?_concat, Option.map_some]
        · intro i _
          exact ih.map (List.append_left_injective _)
      · -- a longer route has a leg before its last one
        intro route hdirect longer hlonger h
        obtain ⟨i, -, hi⟩ := List.mem_flatMap.mp hlonger
        obtain ⟨before, hbefore, rfl⟩ := List.mem_map.mp hi
        have hpos := (length_le_of_mem_findRoutes hbefore).1
        have hlength : route.length = 1 := by
          split at hdirect
          · rw [List.mem_singleton.mp hdirect, List.length_singleton]
          · exact absurd hdirect List.not_mem_nil
        rw [h, List.length_append, List.length_singleton] at hlength
        omega

end chain

/-- **The search is exact.**  If no capability declares a source without a protocol, the routes
over the offers of an environment that a policy admits are the chains of at most `depth` legs, and
each of them is found once. -/
theorem mem_routes_iff_isChain {env : Environment}
    (hsources : ∀ m ∈ env.catalog.modules, ∀ c ∈ m.capabilities, ∀ i ∈ c.declaredSources,
      i.protocol ≠ "") (policy : Policy) (source destination : Endpoint) (depth : Nat) :
    (findRoutes (env.offers policy) source depth destination).Nodup ∧
      ∀ route, route ∈ findRoutes (env.offers policy) source depth destination ↔
        IsChain (env.offers policy) source destination route ∧ route.length ≤ depth :=
  ⟨nodup_findRoutes (nodup_offers env policy) depth, fun _ => mem_findRoutes_iff fun o ho =>
    hsources o.module (module_mem_of_mem_offers ho) o.capability (capability_mem o)⟩

/-! ### A sample -/

namespace Sample

/-- Rows of text in a bucket. -/
def csv : Interface := ⟨"s3", some "csv"⟩

/-- Columns in a bucket. -/
def parquet : Interface := ⟨"s3", some "parquet"⟩

/-- What workloads read through. -/
def flight : Interface := ⟨"flight", none⟩

/-- A module that copies rows, as they are or into columns, and can redact. -/
def copier : Module where
  name := "copier"
  version := none
  capabilities :=
    [⟨.copy, .asset, [⟨some csv, some parquet⟩, ⟨some csv, some csv⟩], none, [⟨"Redact", []⟩]⟩]
  labels := []

/-- A module that serves columns and can filter. -/
def reader : Module where
  name := "reader"
  version := none
  capabilities :=
    [⟨.read, .workload, [⟨some parquet, none⟩], some ⟨flight, none⟩, [⟨"Filter", []⟩]⟩]
  labels := []

/-- A cluster that costs less than its rival. -/
def cheap : Cluster := ⟨"cheap", "neverland", none, []⟩

/-- A cluster that costs more, first in the registry. -/
def dear : Cluster := ⟨"dear", "theshire", none, []⟩

/-- An account in a region where nothing may be written. -/
def closed : StorageAccount := ⟨"closed", none, "mordor", none, none, []⟩

/-- An account in a region where writing requires a filter. -/
def filtered : StorageAccount := ⟨"filtered", none, "theshire", none, none, []⟩

/-- Two modules, two clusters with their cost, and two accounts. -/
def environment : Environment :=
  .ofParts [copier, reader] [dear, cheap] [closed, filtered]
    ⟨[⟨"cost", none, none, "5", .cluster, some "dear", []⟩,
      ⟨"cost", none, none, "3", .cluster, some "cheap", []⟩], []⟩

/-- A workload that reads rows, has to have them redacted and wants a low cost. -/
def request : Request where
  datasetId := "rows"
  flow := .read
  asset := ⟨csv, some "theshire"⟩
  requested := flight
  newAsset := false
  actions := [⟨"Redact", []⟩]
  policy := ⟨SortedMap.empty.insert .read (.ofDeployment .required), [⟨"cost", .minimize, 1.0⟩]⟩
  workloadCluster := none
  storageRequirements := SortedMap.empty.insert "theshire" [⟨"Filter", []⟩]

/-- Copies rows into columns. -/
def copying : Leg := ⟨⟨copier, ⟨0, by decide⟩⟩, .store csv, .store parquet⟩

/-- Serves the columns. -/
def reading : Leg := ⟨⟨reader, ⟨0, by decide⟩⟩, .store parquet, .api flight⟩

/-- Copies in one cluster and reads in another, by way of the account that requires a filter. -/
def planIn (copies reads : Cluster) : Plan :=
  [⟨copying, [⟨"Redact", []⟩], copies, some filtered⟩, ⟨reading, [⟨"Filter", []⟩], reads, none⟩]

end Sample

theorem isChain_sample :
    (∀ m ∈ Sample.environment.catalog.modules, ∀ c ∈ m.capabilities, ∀ i ∈ c.declaredSources,
      i.protocol ≠ "") ∧
    IsChain (Sample.environment.offers Sample.request.policy) (.store Sample.csv)
      (.api Sample.flight) [Sample.copying, Sample.reading] := by
  have hsources : ∀ m ∈ Sample.environment.catalog.modules, ∀ c ∈ m.capabilities,
      ∀ i ∈ c.declaredSources, i.protocol ≠ "" := by decide
  have hfound : findRoutes (Sample.environment.offers Sample.request.policy) (.store Sample.csv) 2
      (.api Sample.flight) = [[Sample.copying, Sample.reading]] := rfl
  refine ⟨hsources, (((mem_routes_iff_isChain hsources _ _ _ 2).2 _).mp ?_).1⟩
  rw [hfound]
  exact List.mem_singleton_self _

end DataRoute
