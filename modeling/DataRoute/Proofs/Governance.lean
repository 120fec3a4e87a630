import DataRoute.Proofs.Chains
import DataRoute.Proofs.Enumeration

/-! # Governance along a plan

Every action that a plan has to apply is applied once: the actions of the request, and those that
the regions of its accounts add.  `added` are the latter.  A walk redistributes the pending and the
added actions over its legs without losing or doubling any (`Walk.perm`), keeps the names of the
legs apart (`Walk.single`), and applies each action on the first leg that can
(`Walk.carriedFirst`, `Walk.introduced`).  `AppliedOnce` puts this together, and holds of every
plan that the two searches return (`actions_applied_once`). -/

namespace DataRoute

/-- The first leg of a plan that supports an action carries it. -/
def CarriedFirst (a : Action) (plan : Plan) : Prop :=
  ∃ before l after, plan = before ++ l :: after ∧ a ∈ l.actions ∧
    l.leg.capability.supportsAction a.name = true ∧
    ∀ m ∈ before, m.leg.capability.supportsAction a.name = false

/-- An account of a plan requires an action that no earlier account does, and of the legs from
that account on the first that supports the action carries it. -/
def Introduced (request : Request) (a : Action) (plan : Plan) : Prop :=
  ∃ before l after, plan = before ++ l :: after ∧ a ∈ request.requiredBy l.account ∧
    (∀ m ∈ before, a.name ∉ actionNames (request.requiredBy m.account)) ∧
    CarriedFirst a (l :: after)

/-- What governance asks of a plan that has to apply the actions `added` besides those of the
request. -/
structure AppliedOnce (request : Request) (plan : Plan) (added : List Action) : Prop where
  perm : (plan.flatMap PlacedLeg.actions).Perm (request.actions ++ added)
  distinct : (actionNames added).Nodup
  apart : ∀ a ∈ added, a.name ∉ actionNames request.actions
  complete : ∀ l ∈ plan, ∀ a ∈ request.requiredBy l.account,
    ∃ m ∈ plan, a.name ∈ actionNames m.actions
  single : plan.Pairwise fun l m => ∀ a ∈ l.actions, ∀ b ∈ m.actions, a.name ≠ b.name
  supported : ∀ l ∈ plan, ∀ a ∈ l.actions, l.leg.capability.supportsAction a.name = true
  requested : ∀ a ∈ request.actions, CarriedFirst a plan
  introduced : ∀ a ∈ added, Introduced request a plan

/-! ### Added actions -/

section added
variable (request : Request)

/-- The actions that the accounts of a plan add to some duties. -/
def added : Duties → Plan → List Action
  | _, [] => []
  | d, l :: later =>
    d.fresh (request.requiredBy l.account) ++
      added ((d.require (request.requiredBy l.account)).after l.leg) later

theorem not_knows_of_mem_added {d : Duties} {plan : Plan} {a : Action}
    (h : a ∈ added request d plan) : ¬ d.knows a.name = true := by
  induction plan generalizing d with
  | nil => exact absurd h List.not_mem_nil
  | cons l later ih =>
      rcases List.mem_append.mp h with h | h
      · exact (Duties.mem_fresh h).2
      · exact fun hd => ih h (Duties.knows_after_require.mpr (.inl hd))

theorem nodup_added (d : Duties) (plan : Plan) : (actionNames (added request d plan)).Nodup := by
  induction plan generalizing d with
  | nil => exact List.nodup_nil
  | cons l later ih =>
      unfold added actionNames
      rw [List.map_append]
      refine List.nodup_append.mpr ⟨d.nodup_fresh _, ih _, ?_⟩
      rintro name hfresh _ hlater rfl
      obtain ⟨a, ha, rfl⟩ := List.mem_map.mp hfresh
      obtain ⟨b, hb, hname⟩ := List.mem_map.mp hlater
      apply not_knows_of_mem_added request hb
      rw [hname]
      exact Duties.knows_after_require.mpr (.inr (mem_actionNames_of_mem (Duties.mem_fresh ha).1))

end added

theorem CarriedFirst.cons {a : Action} {l : PlacedLeg} {later : Plan}
    (h : CarriedFirst a later) (hl : l.leg.capability.supportsAction a.name = false) :
    CarriedFirst a (l :: later) := by
  obtain ⟨before, m, after, rfl, hm, hsupports, hbefore⟩ := h
  exact ⟨l :: before, m, after, rfl, hm, hsupports, List.forall_mem_cons.mpr ⟨hl, hbefore⟩⟩

/-! ### Walks -/

namespace Duties

/-- No name is both applied and pending. -/
def Separate (d : Duties) : Prop := ∀ name ∈ d.applied, name ∉ actionNames d.pending

theorem Separate.require {d : Duties} (h : d.Separate) (required : List Action) :
    (d.require required).Separate := by
  intro name happlied hpending
  rw [require_eq] at happlied hpending
  obtain ⟨a, ha, rfl⟩ := mem_actionNames.mp hpending
  rcases List.mem_append.mp ha with ha | ha
  · exact h _ happlied (mem_actionNames_of_mem ha)
  · exact (mem_fresh ha).2 (knows_iff.mpr (.inl happlied))

theorem Separate.after {d : Duties} (h : d.Separate) (leg : Leg) : (d.after leg).Separate := by
  intro name happlied hpending
  obtain ⟨a, ha, rfl⟩ := mem_actionNames.mp hpending
  obtain ⟨hpend, hunsupported⟩ := mem_pending_after.mp ha
  rcases mem_applied_after.mp happlied with happlied | hassigned
  · exact h _ happlied (mem_actionNames_of_mem hpend)
  · obtain ⟨b, hb, hname⟩ := mem_actionNames.mp hassigned
    have hsupported := (mem_assigned.mp hb).2
    rw [hname, hunsupported] at hsupported
    exact absurd hsupported (by decide)

end Duties

namespace Walk

variable {request : Request} {d e : Duties} {plan : Plan}

/-- Nothing is lost and nothing is doubled. -/
theorem perm (walk : Walk request d plan e) :
    (plan.flatMap PlacedLeg.actions ++ e.pending).Perm (d.pending ++ added request d plan) := by
  induction walk with
  | nil d => simp [added]
  | @cons d e later leg cluster account _ ih =>
      have hdue : (d.require (request.requiredBy account)).pending =
          d.pending ++ d.fresh (request.requiredBy account) := by rw [Duties.require_eq]
      have hleg := (d.require (request.requiredBy account)).assigned_append_pending leg
      rw [hdue] at hleg
      rw [List.flatMap_cons, List.append_assoc, added]
      refine (List.Perm.append_left _ ih).trans ?_
      rw [← List.append_assoc, ← List.append_assoc]
      exact List.Perm.append_right _ hleg

/-- What has been applied at the end is what had been and what the legs carry. -/
theorem applied_eq (walk : Walk request d plan e) :
    e.applied = d.applied ++ actionNames (plan.flatMap PlacedLeg.actions) := by
  induction walk with
  | nil d => simp [actionNames]
  | cons leg cluster account _ ih =>
      rw [ih, Duties.after, Duties.require_eq]
      simp only [actionNames, List.flatMap_cons, List.map_append, List.append_assoc]

theorem knows_required (walk : Walk request d plan e) {l : PlacedLeg} (hl : l ∈ plan) {a : Action}
    (ha : a ∈ request.requiredBy l.account) : e.knows a.name = true := by
  induction walk with
  | nil d => exact absurd hl List.not_mem_nil
  | cons leg cluster account later ih =>
      rcases List.mem_cons.mp hl with rfl | hl
      · exact later.knows
          (Duties.knows_after_require.mpr (.inr (mem_actionNames_of_mem ha)))
      · exact ih hl

theorem supported (walk : Walk request d plan e) {l : PlacedLeg} (hl : l ∈ plan) {a : Action}
    (ha : a ∈ l.actions) : l.leg.capability.supportsAction a.name = true := by
  induction walk with
  | nil d => exact absurd hl List.not_mem_nil
  | cons leg cluster account _ ih =>
      rcases List.mem_cons.mp hl with rfl | hl
      · exact (Duties.mem_assigned.mp ha).2
      · exact ih hl

theorem not_applied (walk : Walk request d plan e) (hd : d.Separate) {l : PlacedLeg}
    (hl : l ∈ plan) {a : Action} (ha : a ∈ l.actions) : a.name ∉ d.applied := by
  induction walk with
  | nil d => exact absurd hl List.not_mem_nil
  | @cons d e later leg cluster account _ ih =>
      have hdue := hd.require (request.requiredBy account)
      have happlied : (d.require (request.requiredBy account)).applied = d.applied := by
        rw [Duties.require_eq]
      rcases List.mem_cons.mp hl with rfl | hl
      · rw [← happlied]
        exact fun h => hdue _ h (mem_actionNames_of_mem (Duties.mem_assigned.mp ha).1)
      · rw [← happlied]
        exact fun h => ih (hdue.after leg) hl (Duties.mem_applied_after.mpr (.inl h))

theorem single (walk : Walk request d plan e) (hd : d.Separate) :
    plan.Pairwise fun l m => ∀ a ∈ l.actions, ∀ b ∈ m.actions, a.name ≠ b.name := by
  induction walk with
  | nil d => exact List.Pairwise.nil
  | cons leg cluster account later ih =>
      have hnext := (hd.require (request.requiredBy account)).after leg
      refine List.pairwise_cons.mpr ⟨?_, ih hnext⟩
      intro m hm a ha b hb hname
      apply later.not_applied hnext hm hb
      rw [← hname]
      exact Duties.mem_applied_after.mpr (.inr (mem_actionNames_of_mem ha))

/-- An action that is due at a leg is carried by it or is left to the later legs. -/
theorem carriedFirst_of_due {due : Duties} {leg : Leg} {cluster : Cluster}
    {account : Option StorageAccount} {later : Plan} {a : Action} (ha : a ∈ due.pending)
    (hlater : a ∈ (due.after leg).pending → CarriedFirst a later) :
    CarriedFirst a (⟨leg, due.assigned leg, cluster, account⟩ :: later) := by
  cases hleg : leg.capability.supportsAction a.name with
  | true =>
      exact ⟨[], _, later, rfl, Duties.mem_assigned.mpr ⟨ha, hleg⟩, hleg,
        fun _ h => absurd h List.not_mem_nil⟩
  | false => exact (hlater (Duties.mem_pending_after.mpr ⟨ha, hleg⟩)).cons hleg

/-- If nothing is left at the end, each pending action is carried by the first leg that supports
it. -/
theorem carriedFirst (walk : Walk request d plan e) (he : e.pending = []) {a : Action}
    (ha : a ∈ d.pending) : CarriedFirst a plan := by
  induction walk with
  | nil d => rw [he] at ha; exact absurd ha List.not_mem_nil
  | cons leg cluster account _ ih =>
      refine carriedFirst_of_due ?_ (ih he)
      rw [Duties.require_eq]
      exact List.mem_append_left _ ha

theorem introduced (walk : Walk request d plan e) (he : e.pending = []) {a : Action}
    (ha : a ∈ added request d plan) : Introduced request a plan := by
  induction walk with
  | nil d => exact absurd ha List.not_mem_nil
  | @cons d e later leg cluster account rest ih =>
      rcases List.mem_append.mp ha with ha | ha
      · refine ⟨[], _, later, rfl, (Duties.mem_fresh ha).1,
          fun _ h => absurd h List.not_mem_nil, ?_⟩
        refine carriedFirst_of_due ?_ (rest.carriedFirst he)
        rw [Duties.require_eq]
        exact List.mem_append_right _ ha
      · obtain ⟨before, l, after, rfl, hl, hbefore, hcarried⟩ := ih he ha
        refine ⟨_ :: before, l, after, rfl, hl, List.forall_mem_cons.mpr ⟨fun h => ?_, hbefore⟩,
          hcarried⟩
        -- the name would have been known when the action was added
        exact not_knows_of_mem_added request ha
          (Duties.knows_after_require.mpr (.inr h))

/-- A walk that starts at a request and leaves nothing pending applies each action once. -/
theorem appliedOnce (walk : Walk request (.initial request) plan e) (he : e.pending = []) :
    AppliedOnce request plan (added request (.initial request) plan) where
  perm := by simpa [he, Duties.initial] using walk.perm
  distinct := nodup_added request _ _
  apart a ha h := not_knows_of_mem_added request ha (Duties.knows_iff.mpr (.inr h))
  complete l hl a ha := by
    have hknown := Duties.knows_iff.mp (walk.knows_required hl ha)
    rw [he, walk.applied_eq] at hknown
    obtain hcarried | hnone := hknown
    · obtain ⟨b, hb, hname⟩ := mem_actionNames.mp hcarried
      obtain ⟨m, hm, hb⟩ := List.mem_flatMap.mp hb
      exact ⟨m, hm, mem_actionNames.mpr ⟨b, hb, hname⟩⟩
    · exact absurd hnone List.not_mem_nil
  single := walk.single fun _ h => absurd h List.not_mem_nil
  supported l hl a ha := walk.supported hl ha
  requested a ha := walk.carriedFirst he ha
  introduced a ha := walk.introduced he ha

end Walk

/-! ### Returned plans -/

theorem walk_of_mem_allPlacements {env : Environment} {request : Request} {route : Route}
    {plan : Plan} (h : plan ∈ env.allPlacements request route) :
    ∃ e, Walk request (.initial request) plan e ∧ e.pending = [] := by
  obtain ⟨choices, -, ⟨-, hpending, -⟩, rfl⟩ := (mem_allPlacements_iff env request).mp h
  exact ⟨_, walk_carryOut request route _ choices, hpending⟩

theorem mem_allPlacements_of_returned {env : Environment} {request : Request} {route : Route}
    {plan : Plan} (h : env.greedyPlan request route = .ok plan ∨
      ∃ limit found, env.plans request route limit = .ok found ∧ plan ∈ found) :
    plan ∈ env.allPlacements request route := by
  rcases h with hgreedy | ⟨limit, found, hfound, hplan⟩
  · exact List.mem_of_head? (head?_allPlacements env request hgreedy)
  · rw [((plans_answers env request route limit).eq_ok_iff.mp hfound).2] at hplan
    exact List.mem_of_mem_take hplan

/-- **Governance actions are applied exactly once.**  The legs of a plan that is returned carry
the actions of the request and those that the regions of its accounts add, each once and on the
first leg that can. -/
theorem actions_applied_once {env : Environment} {request : Request} {route : Route} {plan : Plan}
    (h : env.greedyPlan request route = .ok plan ∨
      ∃ limit found, env.plans request route limit = .ok found ∧ plan ∈ found) :
    plan.map PlacedLeg.leg = route ∧ ∃ added, AppliedOnce request plan added := by
  have hplan := mem_allPlacements_of_returned h
  obtain ⟨e, walk, he⟩ := walk_of_mem_allPlacements hplan
  exact ⟨map_leg_of_mem_allPlacements env request hplan, _, walk.appliedOnce he⟩

theorem sample_applied_once :
    ∃ plan, Sample.environment.greedyPlan Sample.request [Sample.copying, Sample.reading] =
        .ok plan ∧
      plan.map PlacedLeg.leg = [Sample.copying, Sample.reading] ∧
      ∃ added, AppliedOnce Sample.request plan added := by
  have hplan : Sample.environment.greedyPlan Sample.request [Sample.copying, Sample.reading] =
      .ok (Sample.planIn Sample.dear Sample.dear) := rfl
  exact ⟨_, hplan, actions_applied_once (.inl hplan)⟩

end DataRoute
