import DataRoute.Proofs.Duties
import Mathlib.Data.List.Basic

/-! # The enumeration of placements

`Environment.plans` searches with backtracking, discards accounts whose duties no later leg can
meet, and stops when it has found enough.  Here it is compared with `allPlacements`, which tries
every choice.  `Answers` says what a search with limited room may answer, and `tryEach_answers` is
its law for a list of choices.  `completions` are the placements of the rest of a route; they obey
the recursion of the search (`completions_cons`), where the only step that is not plain
bookkeeping is that a discarded account completes to nothing (`completions_eq_nil`). -/

namespace DataRoute

/-! ### Searches with limited room -/

section search
variable {α β ε : Type}

/-- What a search may answer when `all` are the results there are: the first of them, as many as
there is room for, or a failure if there are none. -/
def Answers (answer : Except ε (List β)) (all : List β) (room : Nat) : Prop :=
  match answer with
  | .ok found => all ≠ [] ∧ found = all.take room
  | .error _ => all = []

theorem Answers.eq_ok_iff {answer : Except ε (List β)} {all found : List β} {room : Nat}
    (h : Answers answer all room) : answer = .ok found ↔ all ≠ [] ∧ found = all.take room := by
  cases answer with
  | error reason =>
      have hnil : all = [] := h
      simp [hnil]
  | ok plans =>
      obtain ⟨hne, rfl⟩ := h
      rw [Except.ok.injEq, eq_comm]
      exact ⟨fun hfound => ⟨hne, hfound⟩, And.right⟩

theorem Answers.eq_error_iff {answer : Except ε (List β)} {all : List β} {room : Nat}
    (h : Answers answer all room) : (∃ reason, answer = .error reason) ↔ all = [] := by
  cases answer with
  | error reason => exact ⟨fun _ => h, fun _ => ⟨reason, rfl⟩⟩
  | ok plans => exact ⟨fun ⟨_, hreason⟩ => (nomatch hreason), fun hnil => absurd hnil h.1⟩

theorem answers_map {γ : Type} {answer : Except ε (List β)} {all : List β} {room : Nat}
    (f : β → γ) (h : Answers answer all room) :
    Answers (answer >>= fun found => pure (found.map f)) (all.map f) room := by
  cases answer with
  | error reason => exact List.map_eq_nil_iff.mpr h
  | ok found =>
      obtain ⟨hne, rfl⟩ := h
      exact ⟨fun hnil => hne (List.map_eq_nil_iff.mp hnil), List.map_take⟩

theorem tryEach_answers {explore : α → Nat → Except ε (List β)} {otherwise : ε}
    {results : α → List β} {choices : List α}
    (h : ∀ a ∈ choices, ∀ room, 0 < room → Answers (explore a room) (results a) room) :
    ∀ room, 0 < room → Answers (tryEach explore otherwise choices room)
      (choices.flatMap results) room := by
  induction choices with
  | nil => exact fun _ _ => rfl
  | cons a rest ih =>
      intro room hroom
      obtain ⟨ha, hrest⟩ := List.forall_mem_cons.mp h
      have hfirst := ha room hroom
      rw [tryEach, List.flatMap_cons]
      cases hexp : explore a room with
      | error reason =>
          rw [hexp] at hfirst
          have hnil : results a = [] := hfirst
          have hnext := ih hrest room hroom
          simp only [hnil, List.nil_append]
          cases htry : tryEach explore otherwise rest room with
          | error _ => rw [htry] at hnext; exact hnext
          | ok found => rw [htry] at hnext; exact hnext
      | ok found =>
          rw [hexp] at hfirst
          obtain ⟨hne, hfound⟩ : results a ≠ [] ∧ found = (results a).take room := hfirst
          have hne' : results a ++ rest.flatMap results ≠ [] := fun hnil =>
            hne (List.append_eq_nil_iff.mp hnil).1
          have hlen : found.length = min room (results a).length := by
            rw [hfound, List.length_take]
          dsimp only
          split
          next hfull =>
            refine ⟨hne', ?_⟩
            rw [List.take_append_of_le_length (by omega), hfound]
          next hmore =>
            -- there is room left, so nothing of the first choice was cut off
            have hall : found = results a := by
              rw [hfound, List.take_of_length_le (by omega)]
            have hnext := ih hrest (room - found.length) (by omega)
            rw [hall] at hmore hnext ⊢
            have htake : (results a).take room = results a :=
              List.take_of_length_le (by omega)
            cases htry : tryEach explore otherwise rest (room - (results a).length) with
            | error _ =>
                rw [htry] at hnext
                have hnil : rest.flatMap results = [] := hnext
                refine ⟨hne', ?_⟩
                rw [hnil, List.append_nil, htake]
            | ok more =>
                rw [htry] at hnext
                obtain ⟨-, hmore'⟩ : _ ∧ more = (rest.flatMap results).take _ := hnext
                refine ⟨hne', ?_⟩
                rw [List.take_append, htake, ← hmore']

end search

theorem flatMap_filter {α β : Type} (p : α → Bool) (f : α → List β) (items : List α) :
    (items.filter p).flatMap f = items.flatMap fun a => if p a = true then f a else [] := by
  induction items with
  | nil => rfl
  | cons a rest ih =>
      rw [List.filter_cons, List.flatMap_cons, ← ih]
      split
      · rw [List.flatMap_cons]
      · rw [List.nil_append]

/-! ### Completing a route -/

/-- The choices for a route are all lists that have, for each leg, an account of the registry or
none and a cluster of the registry. -/
theorem mem_allChoices_iff {env : Environment} {route : Route} {choices : List Choice} :
    choices ∈ env.allChoices route ↔ choices.length = route.length ∧
      ∀ c ∈ choices, (∀ a ∈ c.account, a ∈ env.storageAccounts) ∧ c.cluster ∈ env.clusters := by
  induction route generalizing choices with
  | nil =>
      rw [Environment.allChoices, List.mem_singleton, List.length_nil, List.length_eq_zero_iff]
      constructor
      · intro h
        refine ⟨h, fun c hc => ?_⟩
        rw [h] at hc
        exact absurd hc List.not_mem_nil
      · exact And.left
  | cons leg later ih =>
      simp only [Environment.allChoices, List.mem_flatMap, List.mem_map]
      constructor
      · rintro ⟨account, haccount, cluster, hcluster, rest, hrest, rfl⟩
        obtain ⟨hlength, hall⟩ := ih.mp hrest
        refine ⟨by rw [List.length_cons, List.length_cons, hlength],
          List.forall_mem_cons.mpr ⟨⟨fun a ha => ?_, hcluster⟩, hall⟩⟩
        obtain rfl : account = some a := ha
        simpa using haccount
      · rintro ⟨hlength, hall⟩
        cases choices with
        | nil => exact absurd hlength (by simp)
        | cons choice rest =>
            obtain ⟨⟨haccount, hcluster⟩, hrest⟩ := List.forall_mem_cons.mp hall
            refine ⟨choice.account, ?_, choice.cluster, hcluster, rest,
              ih.mpr ⟨Nat.succ.inj hlength, hrest⟩, rfl⟩
            cases h : choice.account with
            | none => exact List.mem_cons_self
            | some a => exact List.mem_cons_of_mem _ (List.mem_map_of_mem (haccount a h))

theorem length_of_mem_allChoices {env : Environment} {route : Route} {choices : List Choice}
    (h : choices ∈ env.allChoices route) : choices.length = route.length :=
  (mem_allChoices_iff.mp h).1

theorem map_leg_carryOut {request : Request} {route : Route} {d : Duties} {choices : List Choice}
    (h : choices.length = route.length) :
    (carryOut request d route choices).map PlacedLeg.leg = route := by
  induction route generalizing d choices with
  | nil => rfl
  | cons leg later ih =>
      cases choices with
      | nil => exact absurd h (by simp)
      | cons choice choices =>
          rw [carryOut, List.map_cons, ih (Nat.succ.inj h)]

variable (env : Environment) (request : Request) (missing : Option CapabilityKind)

/-- Whether a list of choices completes a route from its legs `route` on, where `d` are the duties
that are left and `missing` is a required kind that the whole route lacks. -/
def Environment.completes (d : Duties) (route : Route) (choices : List Choice) : Bool :=
  env.permitsLegs request (carryOut request d route choices) &&
    ((dutiesAfter request d route choices).pending.isEmpty && missing.isNone)

/-- The placements of the rest of a route, in the order of the registry. -/
def Environment.completions (d : Duties) (route : Route) : List Plan :=
  ((env.allChoices route).filter (env.completes request missing d route)).map
    (carryOut request d route)

theorem completions_nil (d : Duties) :
    env.completions request missing d [] =
      if (d.pending.isEmpty && missing.isNone) = true then [[]] else [] := by
  unfold Environment.completions Environment.completes
  simp only [Environment.allChoices, carryOut, dutiesAfter, Environment.permitsLegs,
    Bool.true_and, List.filter_cons, List.filter_nil]
  split <;> rfl

/-- The placements of one leg and of the rest of a route: every account, or none, with every
cluster, as far as the leg permits them. -/
theorem completions_eq_flatMap (d : Duties) (leg : Leg) (later : Route) :
    env.completions request missing d (leg :: later) =
      (none :: env.storageAccounts.map some).flatMap fun account =>
        let due := d.require (request.requiredBy account)
        env.clusters.flatMap fun cluster =>
          if env.permitsLeg request ⟨leg, due.assigned leg, cluster, account⟩ later = true then
            (env.completions request missing (due.after leg) later).map
              fun rest => ⟨leg, due.assigned leg, cluster, account⟩ :: rest
          else [] := by
  unfold Environment.completions
  rw [Environment.allChoices, List.filter_flatMap, List.map_flatMap]
  apply List.flatMap_congr
  intro account _
  rw [List.filter_flatMap, List.map_flatMap]
  apply List.flatMap_congr
  intro cluster _
  rw [List.filter_map, List.map_map, List.map_map]
  have hcompletes : ∀ choices ∈ env.allChoices later,
      (env.completes request missing d (leg :: later) ∘ fun choices =>
          (⟨account, cluster⟩ : Choice) :: choices) choices =
        (env.permitsLeg request ⟨leg, (d.require (request.requiredBy account)).assigned leg,
            cluster, account⟩ later &&
          env.completes request missing ((d.require (request.requiredBy account)).after leg) later
            choices) := by
    intro choices hchoices
    simp only [Function.comp_apply, Environment.completes, carryOut, dutiesAfter,
      Environment.permitsLegs, map_leg_carryOut (length_of_mem_allChoices hchoices),
      Bool.and_assoc]
  rw [List.filter_congr hcompletes]
  split
  next hpermits => simp only [hpermits, Bool.true_and]; rfl
  next hforbids =>
    simp only [Bool.eq_false_iff.mpr hforbids, Bool.false_and, List.filter_false]
    rfl

theorem completions_eq_nil {d : Duties} {route : Route} {a : Action} (ha : a ∈ d.pending)
    (hroute : ∀ l ∈ route, l.capability.supportsAction a.name = false) :
    env.completions request missing d route = [] := by
  unfold Environment.completions
  rw [List.map_eq_nil_iff, List.filter_eq_nil_iff]
  intro choices hchoices hcompletes
  have hlegs : (carryOut request d route choices).map PlacedLeg.leg = route :=
    map_leg_carryOut (length_of_mem_allChoices hchoices)
  have hleft : a ∈ (dutiesAfter request d route choices).pending := by
    apply (walk_carryOut request route d choices).pending_of_unsupported ha
    intro l hl
    apply hroute l.leg
    rw [← hlegs]
    exact List.mem_map_of_mem hl
  unfold Environment.completes at hcompletes
  rw [Bool.and_eq_true, Bool.and_eq_true, List.isEmpty_iff] at hcompletes
  rw [hcompletes.2.1] at hleft
  exact absurd hleft List.not_mem_nil

/-- Whether a leg may use an account, or none. -/
def Environment.permitsChoice (leg : Leg) (later : Route) (account : Option StorageAccount) :
    Bool :=
  account.isSome == needsStorage request leg later &&
    account.all (env.permitsAccount request leg.kind)

/-- An account that is discarded although the leg may use it has duties that no leg can meet. -/
theorem storageFits_iff {leg : Leg} {later : Route} {applied : List String}
    {account : StorageAccount} :
    env.storageFits request leg later applied account = true ↔
      env.permitsAccount request leg.kind account = true ∧
        ∀ a ∈ request.requiredBy (some account), a.name ∈ applied ∨
          ∃ l ∈ leg :: later, l.capability.supportsAction a.name = true := by
  have hby : request.requiredBy (some account) = (request.requiredIn? account.region).getD [] := rfl
  unfold Environment.storageFits Environment.permitsAccount
  rw [hby]
  cases request.requiredIn? account.region with
  | none => simp
  | some required =>
      simp only [Bool.and_eq_true, List.all_eq_true, Bool.or_eq_true, List.contains_iff_mem,
        List.any_eq_true, Option.isSome_some, true_and, Option.getD_some]

/-- The placements of a leg that uses one account, or none. -/
def Environment.completionsWith (d : Duties) (leg : Leg) (later : Route)
    (account : Option StorageAccount) : List Plan :=
  let due := d.require (request.requiredBy account)
  (env.clusterChoices request leg.kind (!(due.assigned leg).isEmpty)).flatMap fun cluster =>
    (env.completions request missing (due.after leg) later).map
      fun rest => ⟨leg, due.assigned leg, cluster, account⟩ :: rest

theorem completions_eq_flatMap_permitted (d : Duties) (leg : Leg) (later : Route) :
    env.completions request missing d (leg :: later) =
      (none :: env.storageAccounts.map some).flatMap fun account =>
        if env.permitsChoice request leg later account = true then
          env.completionsWith request missing d leg later account
        else [] := by
  rw [completions_eq_flatMap]
  apply List.flatMap_congr
  intro account _
  unfold Environment.completionsWith Environment.clusterChoices
  dsimp only
  rw [flatMap_filter]
  split
  next hpermits =>
    refine List.flatMap_congr fun cluster _ => ?_
    unfold Environment.permitsChoice at hpermits
    simp only [Environment.permitsLeg, hpermits, Bool.true_and]
  next hforbids =>
    unfold Environment.permitsChoice at hforbids
    simp only [Environment.permitsLeg, Bool.eq_false_iff.mpr hforbids, Bool.false_and,
      Bool.false_eq_true, if_false]
    exact List.flatMap_eq_nil_iff.mpr fun _ _ => rfl

theorem completionsWith_eq_nil {d : Duties} {leg : Leg} {later : Route}
    {account : StorageAccount} (hpermits : env.permitsAccount request leg.kind account = true)
    (hfits : ¬ env.storageFits request leg later d.applied account = true) :
    env.completionsWith request missing d leg later (some account) = [] := by
  rw [storageFits_iff] at hfits
  simp only [not_and, not_forall, not_or, not_exists] at hfits
  obtain ⟨a, ha, hnew, hunsupported⟩ := hfits hpermits
  obtain ⟨hleg, hlater⟩ := List.forall_mem_cons.mp hunsupported
  -- some action of that name is pending once the account has been chosen
  have hknown : (d.require (request.requiredBy (some account))).knows a.name = true :=
    Duties.knows_require.mpr (.inr (mem_actionNames_of_mem ha))
  rw [Duties.require_eq] at hknown
  obtain happlied | hpending := Duties.knows_iff.mp hknown
  · exact absurd happlied hnew
  obtain ⟨b, hb, hname⟩ := mem_actionNames.mp hpending
  have hnil : env.completions request missing
      ((d.require (request.requiredBy (some account))).after leg) later = [] := by
    refine completions_eq_nil env request missing (a := b) ?_ ?_
    · rw [Duties.mem_pending_after, Duties.require_eq, hname]
      exact ⟨hb, Bool.eq_false_iff.mpr hleg⟩
    · intro l hl
      rw [hname]
      exact Bool.eq_false_iff.mpr (hlater l hl)
  unfold Environment.completionsWith
  dsimp only
  rw [hnil]
  exact List.flatMap_eq_nil_iff.mpr fun _ _ => rfl

/-- The placements obey the recursion of the search. -/
theorem completions_cons (d : Duties) (leg : Leg) (later : Route) :
    env.completions request missing d (leg :: later) =
      (env.accountChoices request leg later d.applied).flatMap
        (env.completionsWith request missing d leg later) := by
  rw [completions_eq_flatMap_permitted, List.flatMap_cons, List.flatMap_map]
  unfold Environment.accountChoices Environment.permitsChoice
  cases hneeds : needsStorage request leg later with
  | false => simp
  | true =>
      simp only [if_true, List.flatMap_map, flatMap_filter]
      simp only [Option.isSome_none, Option.isSome_some, Option.all_some, Bool.false_beq,
        beq_self_eq_true,
        Bool.true_and, Bool.not_true, Bool.false_and, Bool.false_eq_true, if_false,
        List.nil_append]
      apply List.flatMap_congr
      intro account _
      by_cases hpermits : env.permitsAccount request leg.kind account = true
      · rw [if_pos hpermits]
        split
        next => rfl
        next hfits => exact completionsWith_eq_nil env request missing hpermits hfits
      · have hfits : ¬ env.storageFits request leg later d.applied account = true := fun h =>
          hpermits ((storageFits_iff env request).mp h).1
        rw [if_neg hpermits, if_neg hfits]

/-! ### The search -/

theorem settle_eq_ok_iff {d : Duties} :
    settle missing d = .ok () ↔ (d.pending.isEmpty && missing.isNone) = true := by
  unfold settle
  cases missing <;> cases d.pending.isEmpty <;> simp

theorem plansFrom_answers (route : Route) (d : Duties) (room : Nat) (hroom : 0 < room) :
    Answers (env.plansFrom request missing route d room)
      (env.completions request missing d route) room := by
  induction route generalizing d room with
  | nil =>
      rw [completions_nil, Environment.plansFrom]
      cases hsettle : settle missing d with
      | error reason =>
          rw [if_neg]
          · rfl
          · rw [← settle_eq_ok_iff, hsettle]
            exact fun h => nomatch h
      | ok _ =>
          rw [if_pos ((settle_eq_ok_iff missing).mp hsettle)]
          exact ⟨List.cons_ne_nil _ _, (List.take_of_length_le hroom).symm⟩
  | cons leg later ih =>
      rw [completions_cons, Environment.plansFrom]
      refine tryEach_answers (fun account _ room hroom => ?_) room hroom
      refine tryEach_answers (fun cluster _ room hroom => ?_) room hroom
      exact answers_map _ (ih _ room hroom)

theorem missingKind?_isNone_iff {route : Route} :
    (missingKind? request route).isNone = coversRequired request route := by
  unfold missingKind? coversRequired
  rw [Bool.eq_iff_iff, Option.isNone_iff_eq_none, List.find?_eq_none, List.all_eq_true]
  simp only [Bool.not_eq_true', Bool.not_eq_false]

theorem completions_initial (route : Route) :
    env.completions request (missingKind? request route) (.initial request) route =
      env.allPlacements request route := by
  unfold Environment.completions Environment.allPlacements
  refine congrArg _ (List.filter_congr fun choices _ => ?_)
  unfold Environment.completes Environment.isPlacement
  rw [missingKind?_isNone_iff, Bool.and_assoc]

/-- A placement carries out choices from the registry that are permitted, leave no action pending
and cover what is required. -/
theorem mem_allPlacements_iff {route : Route} {plan : Plan} :
    plan ∈ env.allPlacements request route ↔ ∃ choices ∈ env.allChoices route,
      (env.permitsLegs request (carryOut request (.initial request) route choices) = true ∧
        (dutiesAfter request (.initial request) route choices).pending = [] ∧
        coversRequired request route = true) ∧
      carryOut request (.initial request) route choices = plan := by
  unfold Environment.allPlacements Environment.isPlacement
  simp only [List.mem_map, List.mem_filter, Bool.and_eq_true, List.isEmpty_iff, and_assoc]

theorem map_leg_of_mem_allPlacements {route : Route} {plan : Plan}
    (h : plan ∈ env.allPlacements request route) : plan.map PlacedLeg.leg = route := by
  obtain ⟨choices, hchoices, -, rfl⟩ := (mem_allPlacements_iff env request).mp h
  exact map_leg_carryOut (length_of_mem_allChoices hchoices)

/-- The search answers with the first of all placements. -/
theorem plans_answers (route : Route) (limit : Nat) :
    Answers (env.plans request route limit) (env.allPlacements request route) (max limit 1) := by
  rw [← completions_initial]
  exact plansFrom_answers env request _ route _ _ (by omega)

/-! ### The greedy plan -/

/-- What the greedy walk returns is the first completion. -/
theorem head?_completions {route : Route} {d : Duties} {plan : Plan}
    (h : env.greedyFrom request missing route d = .ok plan) :
    (env.completions request missing d route).head? = some plan := by
  induction route generalizing d plan with
  | nil =>
      rw [Environment.greedyFrom] at h
      cases hsettle : settle missing d with
      | error reason => rw [hsettle] at h; exact nomatch h
      | ok _ =>
          rw [hsettle] at h
          obtain rfl : [] = plan := Except.ok.inj h
          rw [completions_nil, if_pos ((settle_eq_ok_iff missing).mp hsettle), List.head?_cons]
  | cons leg later ih =>
      rw [Environment.greedyFrom] at h
      rw [completions_cons]
      cases haccounts : env.accountChoices request leg later d.applied with
      | nil => rw [haccounts] at h; exact nomatch h
      | cons account accounts =>
          rw [haccounts] at h
          change (firstChoice (env.clusterChoices request leg.kind
            (!((d.require (request.requiredBy account)).assigned leg).isEmpty)) _ >>= _) = _ at h
          rw [List.flatMap_cons, List.head?_append]
          unfold Environment.completionsWith
          dsimp only
          cases hclusters : env.clusterChoices request leg.kind
            (!((d.require (request.requiredBy account)).assigned leg).isEmpty) with
          | nil => rw [hclusters] at h; exact nomatch h
          | cons cluster clusters =>
              rw [hclusters] at h
              change (env.greedyFrom request missing later
                ((d.require (request.requiredBy account)).after leg) >>= _) = _ at h
              cases hrest : env.greedyFrom request missing later
                ((d.require (request.requiredBy account)).after leg) with
              | error reason => rw [hrest] at h; exact nomatch h
              | ok rest =>
                  rw [hrest] at h
                  obtain rfl : _ :: rest = plan := Except.ok.inj h
                  rw [List.flatMap_cons, List.head?_append, List.head?_map, ih hrest]
                  rfl

theorem head?_allPlacements {route : Route} {plan : Plan}
    (h : env.greedyPlan request route = .ok plan) :
    (env.allPlacements request route).head? = some plan := by
  rw [← completions_initial]
  exact head?_completions env request _ h

/-! ### What a placement is -/

/-- The accounts and clusters of a plan are permitted: a leg has an account exactly when its sink
is a store and it is not the last leg of a write into an existing asset. -/
structure Environment.Permits (plan : Plan) : Prop where
  stored : ∀ before l after, plan = before ++ l :: after →
    (l.account.isSome = true ↔ l.leg.sink.isApi = false ∧
      ¬ (after = [] ∧ request.flow = .write ∧ request.newAsset = false))
  writable : ∀ l ∈ plan, ∀ a ∈ l.account,
    (∃ required, request.requiredIn? a.region = some required) ∧
    satisfies (request.policy.storageRestrictions l.leg.kind) a.subject env.infrastructure = true
  hosted : ∀ l ∈ plan,
    satisfies (request.policy.clusterRestrictions l.leg.kind) l.cluster.subject
        env.infrastructure = true ∧
      (l.actions ≠ [] → satisfies (request.policy.clusterRestrictions .transform)
        l.cluster.subject env.infrastructure = true)

theorem needsStorage_iff {leg : Leg} {later : Route} :
    needsStorage request leg later = true ↔ leg.sink.isApi = false ∧
      ¬ (later = [] ∧ request.flow = .write ∧ request.newAsset = false) := by
  unfold needsStorage Request.endsAtExistingAsset
  simp only [Bool.and_eq_true, Bool.not_eq_true', ← Bool.not_eq_true, List.isEmpty_iff,
    beq_iff_eq]

theorem permitsAccount_iff {kind : CapabilityKind} {account : StorageAccount} :
    env.permitsAccount request kind account = true ↔
      (∃ required, request.requiredIn? account.region = some required) ∧
        satisfies (request.policy.storageRestrictions kind) account.subject
          env.infrastructure = true := by
  unfold Environment.permitsAccount
  rw [Bool.and_eq_true, Option.isSome_iff_exists]

theorem clusterFits_iff {kind : CapabilityKind} {actions : List Action} {cluster : Cluster} :
    env.clusterFits request kind (!actions.isEmpty) cluster = true ↔
      satisfies (request.policy.clusterRestrictions kind) cluster.subject
          env.infrastructure = true ∧
        (actions ≠ [] → satisfies (request.policy.clusterRestrictions .transform) cluster.subject
          env.infrastructure = true) := by
  unfold Environment.clusterFits
  rw [Bool.and_eq_true, Bool.not_not, Bool.or_eq_true, List.isEmpty_iff, or_iff_not_imp_left]

theorem permitsLegs_iff {plan : Plan} :
    env.permitsLegs request plan = true ↔ env.Permits request plan := by
  induction plan with
  | nil =>
      refine ⟨fun _ => ⟨?_, ?_, ?_⟩, fun _ => rfl⟩
      · intro before l after h
        exact absurd h.symm (by simp)
      · exact fun _ h => absurd h List.not_mem_nil
      · exact fun _ h => absurd h List.not_mem_nil
  | cons l later ih =>
      rw [Environment.permitsLegs, Bool.and_eq_true, ih]
      unfold Environment.permitsLeg
      rw [Bool.and_eq_true, Bool.and_eq_true, beq_iff_eq, Bool.eq_iff_iff, needsStorage_iff,
        Option.all_eq_true, clusterFits_iff, List.map_eq_nil_iff]
      constructor
      · rintro ⟨⟨⟨hstored, hwritable⟩, hhosted⟩, hlater⟩
        refine ⟨?_, List.forall_mem_cons.mpr ⟨?_, hlater.writable⟩,
          List.forall_mem_cons.mpr ⟨hhosted, hlater.hosted⟩⟩
        · intro before m after h
          cases before with
          | nil =>
              obtain ⟨rfl, rfl⟩ := List.cons.inj h
              exact hstored
          | cons first before => exact hlater.stored before m after (List.cons.inj h).2
        · intro a ha
          exact (permitsAccount_iff env request).mp (hwritable a ha)
      · intro h
        obtain ⟨hwritable, hlaterWritable⟩ := List.forall_mem_cons.mp h.writable
        obtain ⟨hhosted, hlaterHosted⟩ := List.forall_mem_cons.mp h.hosted
        refine ⟨⟨⟨h.stored [] l later rfl, ?_⟩, hhosted⟩, ?_, hlaterWritable, hlaterHosted⟩
        · intro a ha
          exact (permitsAccount_iff env request).mpr (hwritable a ha)
        · intro before m after hm
          apply h.stored (l :: before) m after
          rw [hm, List.cons_append]

theorem coversRequired_iff {route : Route} :
    coversRequired request route = true ↔
      ∀ kind, request.policy.deploy kind = .required → ∃ l ∈ route, l.kind = kind := by
  unfold coversRequired
  simp only [List.all_eq_true, List.any_eq_true, beq_iff_eq, Policy.mem_requiredKinds_iff]

/-- **The enumeration is exact.**  A search with a limit finds the first placements in the order
of the registry, as many as the limit allows and at least one, and it fails exactly if there are
none.  The placements are the choices of an account, or of none, and of a cluster for each leg
that are permitted, leave no action pending and cover every required kind. -/
theorem plans_eq_take_allPlacements (route : Route) (limit : Nat) :
    (∀ found, env.plans request route limit = .ok found ↔
      env.allPlacements request route ≠ [] ∧
        found = (env.allPlacements request route).take (max limit 1)) ∧
    ((∃ reason, env.plans request route limit = .error reason) ↔
      env.allPlacements request route = []) ∧
    (∀ choices, choices ∈ env.allChoices route ↔ choices.length = route.length ∧
      ∀ c ∈ choices, (∀ a ∈ c.account, a ∈ env.storageAccounts) ∧ c.cluster ∈ env.clusters) ∧
    ∀ choices, env.isPlacement request route choices = true ↔
      env.Permits request (carryOut request (.initial request) route choices) ∧
        (dutiesAfter request (.initial request) route choices).pending = [] ∧
        ∀ kind, request.policy.deploy kind = .required → ∃ l ∈ route, l.kind = kind := by
  have h := plans_answers env request route limit
  refine ⟨fun found => h.eq_ok_iff, h.eq_error_iff, fun _ => mem_allChoices_iff, fun choices => ?_⟩
  unfold Environment.isPlacement
  rw [Bool.and_eq_true, Bool.and_eq_true, permitsLegs_iff, List.isEmpty_iff, coversRequired_iff,
    and_assoc]

end DataRoute
