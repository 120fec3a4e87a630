import DataRoute.Proofs.Failure

/-! # The search with one record

The searches for placements can be carried out with one record, which holds the plans that have
been found and the first reason why there was none.  Every leg hands it on to the next, choices that
lead nowhere leave their reason in it, and a search that finds no plan answers with the reason that
it finds there.  What a visit does with the record is what the search without it answers
(`Notes`, `Visits`): this passes from a choice to a list of choices (`notes_foldl`) and from leg to
leg.  Both searches answer as before (`search_of_plans`, `search_of_greedyPlan`), and a record
without plans always holds a reason. -/

namespace DataRoute

/-! ### Visits -/

/-- What a record answers: its plans or, if there are none, the reason that it holds. -/
def Gathered.answer (g : Gathered) : Except Rejection (List Plan) :=
  if g.plans.isEmpty then .error (g.reason.getD (.unsupportedActions [])) else .ok g.plans

/-- Visits choices one after the other, or the first of them only; if there are none, the reason is
noted. -/
def visitEach {α : Type} (firstOnly : Bool) (visit : α → Gathered → Gathered)
    (otherwise : Rejection) (choices : List α) (g : Gathered) : Gathered :=
  if choices.isEmpty then g.add (.error otherwise)
  else (if firstOnly then choices.take 1 else choices).foldl (fun g a => visit a g) g

/-- Visits a record unless there are as many plans as are wanted. -/
def unlessFull (limit : Nat) (visit : Gathered → Gathered) (g : Gathered) : Gathered :=
  if limit ≤ g.plans.length then g else visit g

/-- Places the rest of a route and notes in a record what comes of it, until there are as many
plans as are wanted; `placed` are the legs before. -/
def Environment.searchFrom (env : Environment) (request : Request)
    (missing : Option CapabilityKind) (firstOnly : Bool) (limit : Nat) :
    Route → Duties → Plan → Gathered → Gathered
  | [], duties, placed =>
    unlessFull limit fun g => g.add (settle missing duties >>= fun _ => pure [placed])
  | leg :: later, duties, placed =>
    unlessFull limit <| visitEach firstOnly (fun account =>
        let due := duties.require (request.requiredBy account)
        let actions := due.assigned leg
        visitEach firstOnly (fun cluster =>
            searchFrom env request missing firstOnly limit later (due.after leg)
              (placed ++ [⟨leg, actions, cluster, account⟩]))
          (.noCluster leg.kind) (env.clusterChoices request leg.kind (!actions.isEmpty)))
      (.noStorageAccount leg.kind) (env.accountChoices request leg later duties.applied)

/-- The record of a search over a route, for at least one plan. -/
def Environment.search (env : Environment) (request : Request) (firstOnly : Bool) (limit : Nat)
    (route : Route) : Gathered :=
  env.searchFrom request (missingKind? request route) firstOnly (max limit 1) route
    (.initial request) [] ⟨[], none⟩

/-! ### What a visit notes -/

section record
variable {limit : Nat} {placed : Plan} {g : Gathered}

/-- What a record holds of an answer: the plans that were found or, if there are none, the reason
unless there was one before. -/
def Notes (placed : Plan) (g : Gathered) : Except Rejection (List Plan) → Gathered → Prop
  | .ok found, g' => g'.plans = g.plans ++ found.map (placed ++ ·)
  | .error reason, g' => g' = g.add (.error reason)

/-- A visit notes what an exploration answers that has the room which is left in the record. -/
structure Visits (limit : Nat) (placed : Plan) (explore : Nat → Except Rejection (List Plan))
    (visit : Gathered → Gathered) : Prop where
  full : ∀ g, limit ≤ g.plans.length → (visit g).plans = g.plans
  notes : ∀ g, g.plans.length < limit →
    Notes placed g (explore (limit - g.plans.length)) (visit g)

theorem add_error_of_reason {reason other : Rejection} :
    (g.add (.error reason)).add (.error other) = g.add (.error reason) := by
  cases hreason : g.reason <;> simp [Gathered.add, hreason]

theorem Notes.after_error {reason : Rejection} {answer : Except Rejection (List Plan)}
    {g' : Gathered} : Notes placed (g.add (.error reason)) answer g' →
      Notes placed g (match answer with
        | .ok found => .ok found
        | .error _ => .error reason) g' := by
  intro h
  cases answer with
  | ok found => exact h
  | error later => exact h.trans add_error_of_reason

theorem Notes.after_found {found : List Plan} {answer : Except Rejection (List Plan)}
    {between g' : Gathered} (hfound : Notes placed g (.ok found) between) :
    Notes placed between answer g' →
      Notes placed g (match answer with
        | .ok more => .ok (found ++ more)
        | .error _ => .ok found) g' := by
  intro h
  have hbetween : between.plans = g.plans ++ found.map (placed ++ ·) := hfound
  cases answer with
  | error later => exact (congrArg Gathered.plans h).trans hbetween
  | ok more =>
      refine h.trans ?_
      rw [hbetween, List.append_assoc, ← List.map_append]

theorem Visits.cons {explore : Nat → Except Rejection (List Plan)} {visit : Gathered → Gathered}
    {l : PlacedLeg} (h : Visits limit (placed ++ [l]) explore visit) :
    Visits limit placed (fun room => explore room >>= fun rests => pure (rests.map (l :: ·)))
      visit := by
  refine ⟨h.full, fun g hroom => ?_⟩
  have hnotes := h.notes g hroom
  cases hexp : explore (limit - g.plans.length) with
  | error reason =>
      rw [hexp] at hnotes
      exact hnotes
  | ok found =>
      rw [hexp] at hnotes
      change _ = g.plans ++ (found.map (l :: ·)).map (placed ++ ·)
      rw [List.map_map]
      have happend : (placed ++ ·) ∘ (l :: ·) = fun rest : Plan => placed ++ [l] ++ rest := by
        funext rest
        exact List.append_cons _ _ _
      rw [happend]
      exact hnotes

theorem Visits.cons_first {first : Except Rejection Plan} {visit : Gathered → Gathered}
    {l : PlacedLeg}
    (h : Visits limit (placed ++ [l]) (fun _ => first.map fun plan => [plan]) visit) :
    Visits limit placed (fun _ => (first >>= fun rest => pure (l :: rest)).map fun plan => [plan])
      visit := by
  have hcons := h.cons
  cases first <;> exact hcons

section each
variable {α : Type} {explore : α → Nat → Except Rejection (List Plan)}
  {visit : α → Gathered → Gathered}

theorem plans_foldl_of_full (h : ∀ a, Visits limit placed (explore a) (visit a))
    (hfull : limit ≤ g.plans.length) (choices : List α) :
    (choices.foldl (fun g a => visit a g) g).plans = g.plans := by
  induction choices generalizing g with
  | nil => rfl
  | cons a rest ih =>
      have hplans := (h a).full g hfull
      rw [List.foldl_cons, ih (by rwa [hplans]), hplans]

/-- Visiting choices one after the other notes what trying each of them finds. -/
theorem notes_foldl (h : ∀ a, Visits limit placed (explore a) (visit a)) (otherwise : Rejection)
    (a : α) (rest : List α) (hroom : g.plans.length < limit) :
    Notes placed g (tryEach explore otherwise (a :: rest) (limit - g.plans.length))
      ((a :: rest).foldl (fun g a => visit a g) g) := by
  induction rest generalizing a g with
  | nil =>
      have hnotes := (h a).notes g hroom
      rw [tryEach, tryEach]
      cases hexp : explore a (limit - g.plans.length) with
      | error reason => rwa [hexp] at hnotes
      | ok found =>
          rw [hexp] at hnotes
          dsimp only
          split <;> exact hnotes
  | cons b rest ih =>
      have hnotes := (h a).notes g hroom
      rw [tryEach, List.foldl_cons]
      cases hexp : explore a (limit - g.plans.length) with
      | error reason =>
          rw [hexp] at hnotes
          have hvisit : visit a g = g.add (.error reason) := hnotes
          rw [hvisit]
          dsimp only
          -- a reason takes no room
          have hrest : Notes placed (g.add (.error reason))
              (tryEach explore otherwise (b :: rest) (limit - g.plans.length)) _ := ih b hroom
          cases htry : tryEach explore otherwise (b :: rest) (limit - g.plans.length) <;>
            exact (htry ▸ hrest).after_error
      | ok found =>
          rw [hexp] at hnotes
          have hvisit : (visit a g).plans = g.plans ++ found.map (placed ++ ·) := hnotes
          have hlength : (visit a g).plans.length = g.plans.length + found.length := by
            rw [hvisit, List.length_append, List.length_map]
          dsimp only
          split
          next hfull => exact (plans_foldl_of_full h (by omega) _).trans hvisit
          next hmore =>
            have hrest := ih (g := visit a g) b (by omega)
            rw [hlength, Nat.sub_add_eq] at hrest
            cases htry : tryEach explore otherwise (b :: rest)
                (limit - g.plans.length - found.length) <;>
              exact hnotes.after_found (htry ▸ hrest)

/-- A visit to every choice notes what the search over all choices finds. -/
theorem visits_tryEach (h : ∀ a, Visits limit placed (explore a) (visit a)) (otherwise : Rejection)
    (choices : List α) :
    Visits limit placed (tryEach explore otherwise choices)
      (visitEach false visit otherwise choices) := by
  unfold visitEach
  cases choices with
  | nil => exact ⟨fun _ _ => rfl, fun _ _ => rfl⟩
  | cons a rest =>
      exact ⟨fun _ hfull => plans_foldl_of_full h hfull _, fun _ => notes_foldl h otherwise a rest⟩

/-- A visit to the first choice notes what the walk with it finds. -/
theorem visits_firstChoice {walk : α → Except Rejection Plan}
    (h : ∀ a, Visits limit placed (fun _ => (walk a).map fun plan => [plan]) (visit a))
    (otherwise : Rejection) (choices : List α) :
    Visits limit placed (fun _ => (firstChoice choices otherwise >>= walk).map fun plan => [plan])
      (visitEach true visit otherwise choices) := by
  unfold visitEach
  cases choices with
  | nil => exact ⟨fun _ _ => rfl, fun _ _ => rfl⟩
  | cons a rest => exact h a

end each

theorem visits_unlessFull {explore : Nat → Except Rejection (List Plan)}
    {visit : Gathered → Gathered} (h : ∀ g, g.plans.length < limit →
      Notes placed g (explore (limit - g.plans.length)) (visit g)) :
    Visits limit placed explore (unlessFull limit visit) := by
  unfold unlessFull
  refine ⟨fun g hfull => by rw [if_pos hfull], fun g hroom => ?_⟩
  rw [if_neg (Nat.not_le.mpr hroom)]
  exact h g hroom

theorem Visits.unlessFull {explore : Nat → Except Rejection (List Plan)}
    {visit : Gathered → Gathered} (h : Visits limit placed explore visit) :
    Visits limit placed explore (unlessFull limit visit) :=
  visits_unlessFull h.notes

/-! ### The two searches -/

section search
variable (env : Environment) (request : Request) (missing : Option CapabilityKind)

theorem notes_settle (placed : Plan) (g : Gathered) (d : Duties) :
    Notes placed g (settle missing d >>= fun _ => pure [[]])
      (g.add (settle missing d >>= fun _ => pure [placed])) := by
  cases settle missing d with
  | error reason => rfl
  | ok _ => exact congrArg (fun l => g.plans ++ [l]) (List.append_nil placed).symm

/-- The search with one record notes what the enumeration finds. -/
theorem searchFrom_visits_plansFrom (route : Route) (d : Duties) (placed : Plan) :
    Visits limit placed (env.plansFrom request missing route d)
      (env.searchFrom request missing false limit route d placed) := by
  induction route generalizing d placed with
  | nil =>
      rw [Environment.searchFrom]
      exact visits_unlessFull fun g _ => notes_settle missing placed g d
  | cons leg later ih =>
      rw [Environment.searchFrom]
      refine Visits.unlessFull ?_
      refine visits_tryEach (fun account => ?_) _ _
      refine visits_tryEach (fun cluster => ?_) _ _
      exact (ih _ _).cons

/-- With first choices only it notes what the greedy walk finds. -/
theorem searchFrom_visits_greedyFrom (route : Route) (d : Duties) (placed : Plan) :
    Visits limit placed (fun _ => (env.greedyFrom request missing route d).map fun plan => [plan])
      (env.searchFrom request missing true limit route d placed) := by
  induction route generalizing d placed with
  | nil =>
      rw [Environment.searchFrom]
      refine visits_unlessFull fun g _ => ?_
      have hnotes := notes_settle missing placed g d
      rw [Environment.greedyFrom]
      cases hsettle : settle missing d <;> rwa [hsettle] at hnotes
  | cons leg later ih =>
      rw [Environment.searchFrom]
      refine Visits.unlessFull ?_
      refine visits_firstChoice (fun account => ?_) _ _
      refine visits_firstChoice (fun cluster => ?_) _ _
      exact (ih _ _).cons_first

end search

end record

/-- A record that has noted an answer gives it back, and holds a reason if it holds no plan. -/
theorem answer_of_notes {answer : Except Rejection (List Plan)} {g : Gathered}
    (h : Notes [] ⟨[], none⟩ answer g) (hfound : answer ≠ .ok []) :
    g.answer = answer ∧ (g.plans = [] → ∃ reason, g.reason = some reason) := by
  cases answer with
  | error reason =>
      obtain rfl : g = _ := h
      exact ⟨rfl, fun _ => ⟨reason, rfl⟩⟩
  | ok found =>
      have hplans : g.plans = found.map ([] ++ ·) := h
      rw [List.map_id'' List.nil_append] at hplans
      have hne : g.plans ≠ [] := fun hnil => hfound (congrArg _ (hplans.symm.trans hnil))
      refine ⟨?_, fun hnil => absurd hnil hne⟩
      unfold Gathered.answer
      rw [if_neg (by rwa [List.isEmpty_iff]), hplans]

section search
variable (env : Environment) (request : Request) (route : Route) (limit : Nat)

theorem search_of_plans : (env.search request false limit route).answer =
      env.plans request route limit ∧
    ((env.search request false limit route).plans = [] →
      ∃ reason, (env.search request false limit route).reason = some reason) := by
  refine answer_of_notes ((searchFrom_visits_plansFrom env request _ route _ _).notes _ ?_) ?_
  · exact lt_of_lt_of_le Nat.zero_lt_one (le_max_right limit 1)
  · intro hnone
    obtain ⟨hne, hnil⟩ := (plans_answers env request route limit).eq_ok_iff.mp hnone
    obtain hzero | hnone := List.take_eq_nil_iff.mp hnil.symm
    · omega
    · exact hne hnone

theorem search_of_greedyPlan : (env.search request true limit route).answer =
      (env.greedyPlan request route).map (fun plan => [plan]) ∧
    ((env.search request true limit route).plans = [] →
      ∃ reason, (env.search request true limit route).reason = some reason) := by
  refine answer_of_notes ((searchFrom_visits_greedyFrom env request _ route _ _).notes _ ?_) ?_
  · exact lt_of_lt_of_le Nat.zero_lt_one (le_max_right limit 1)
  · cases env.greedyPlan request route <;> exact fun h => (nomatch h)

end search

end DataRoute
