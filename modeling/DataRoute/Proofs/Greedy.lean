import DataRoute.Proofs.Chains
import DataRoute.Proofs.Enumeration

/-! # The greedy plan and the enumeration

The greedy walk takes the leftmost branch of the tree that the enumeration searches.  `Leads` says
what the end of that branch decides about the answer of the whole search: a plan is the first
result, and a reason why there is none is the one that the search reports if it finds nothing.
It passes from a choice to the search over all choices (`leads_tryEach`), hence from leg to leg
(`plansFrom_leads`), and gives the agreement of the two searches (`greedyPlan_leads_plans`). -/

namespace DataRoute

/-! ### The leftmost branch of a search -/

section search
variable {α β γ ε : Type} {first : Except ε β} {answer : Except ε (List β)}

/-- What the end of the leftmost branch says about the answer of a search. -/
def Leads (first : Except ε β) (answer : Except ε (List β)) : Prop :=
  match first with
  | .ok b => ∃ rest, answer = .ok (b :: rest)
  | .error reason => answer = .error reason ∨ ∃ found, answer = .ok found

/-- A search that fails has the reason of its leftmost branch. -/
theorem Leads.eq_error {reason : ε} (h : Leads first answer) (hreason : answer = .error reason) :
    first = .error reason := by
  subst hreason
  cases first with
  | ok b =>
      obtain ⟨rest, hrest⟩ := h
      exact nomatch hrest
  | error other =>
      obtain hother | ⟨found, hfound⟩ := h
      · rw [Except.error.inj hother]
      · exact nomatch hfound

theorem Leads.map (h : Leads first answer) (f : β → γ) :
    Leads (first >>= fun b => pure (f b)) (answer >>= fun found => pure (found.map f)) := by
  cases first with
  | ok b =>
      obtain ⟨rest, rfl⟩ := h
      exact ⟨rest.map f, rfl⟩
  | error reason =>
      obtain rfl | ⟨found, rfl⟩ := h
      · exact .inl rfl
      · exact .inr ⟨found.map f, rfl⟩

/-- What stands behind the results makes no difference. -/
theorem Leads.append {found : List β} (h : Leads first (.ok found : Except ε (List β)))
    (more : List β) : Leads first (.ok (found ++ more) : Except ε (List β)) := by
  cases first with
  | ok b =>
      obtain ⟨rest, hrest⟩ := h
      obtain rfl := Except.ok.inj hrest
      exact ⟨rest ++ more, rfl⟩
  | error _ => exact .inr ⟨_, rfl⟩

/-- The first choice leads the search over all choices. -/
theorem Leads.tryEach_cons {explore : α → Nat → Except ε (List β)} {otherwise : ε} {room : Nat}
    {a : α} (h : Leads first (explore a room)) (rest : List α) :
    Leads first (tryEach explore otherwise (a :: rest) room) := by
  rw [tryEach]
  cases hexp : explore a room with
  | error reason =>
      -- nothing is found for the first choice, so its branch has ended with this reason
      obtain rfl := h.eq_error hexp
      dsimp only
      cases tryEach explore otherwise rest room with
      | ok found => exact .inr ⟨found, rfl⟩
      | error _ => exact .inl rfl
  | ok found =>
      rw [hexp] at h
      dsimp only
      split
      next => exact h
      next =>
        cases tryEach explore otherwise rest (room - found.length) with
        | ok more => exact h.append more
        | error _ => exact h

end search

/-- A walk that takes the first choice leads the search over all choices. -/
theorem leads_tryEach {α β : Type} {walk : α → Except Rejection β}
    {explore : α → Nat → Except Rejection (List β)} {room : Nat}
    (h : ∀ a, Leads (walk a) (explore a room)) (choices : List α) (otherwise : Rejection) :
    Leads (firstChoice choices otherwise >>= walk) (tryEach explore otherwise choices room) := by
  cases choices with
  | nil => exact .inl rfl
  | cons a rest => exact (h a).tryEach_cons rest

/-! ### Placements -/

section placements
variable (env : Environment) (request : Request)

/-- From every leg on, the greedy walk leads the enumeration. -/
theorem plansFrom_leads (missing : Option CapabilityKind) (route : Route) (d : Duties)
    (room : Nat) :
    Leads (env.greedyFrom request missing route d)
      (env.plansFrom request missing route d room) := by
  induction route generalizing d room with
  | nil =>
      rw [Environment.greedyFrom, Environment.plansFrom]
      cases settle missing d with
      | error reason => exact .inl rfl
      | ok _ => exact ⟨[], rfl⟩
  | cons leg later ih =>
      rw [Environment.greedyFrom, Environment.plansFrom]
      refine leads_tryEach (fun account => ?_) _ _
      refine leads_tryEach (fun cluster => ?_) _ _
      exact (ih _ room).map _

/-- The greedy plan leads the enumeration with any limit. -/
theorem greedyPlan_leads_plans (route : Route) (limit : Nat) :
    Leads (env.greedyPlan request route) (env.plans request route limit) :=
  plansFrom_leads env request _ route _ _

end placements

/-- **The two searches agree.**  A greedy plan is the first of the plans that are listed, whatever
the limit; where the listing fails the greedy walk fails for the same reason; and where the greedy
walk fails the listing fails for the same reason, if it fails. -/
theorem greedyPlan_agrees_with_plans (env : Environment) (request : Request) (route : Route) :
    (∀ plan, env.greedyPlan request route = .ok plan →
      ∀ limit, ∃ rest, env.plans request route limit = .ok (plan :: rest)) ∧
    (∀ limit reason, env.plans request route limit = .error reason →
      env.greedyPlan request route = .error reason) ∧
    ∀ reason, env.greedyPlan request route = .error reason → ∀ limit,
      env.plans request route limit = .error reason ∨
        ∃ found, env.plans request route limit = .ok found := by
  have hleads := greedyPlan_leads_plans env request route
  refine ⟨fun plan hplan limit => ?_, fun limit reason => (hleads limit).eq_error,
    fun reason hreason limit => ?_⟩
  · have h := hleads limit
    rw [hplan] at h
    exact h
  · have h := hleads limit
    rw [hreason] at h
    exact h

namespace Sample

/-- An account in a region where writing requires nothing. -/
def free : StorageAccount := ⟨"free", none, "neverland", none, none, []⟩

/-- An environment where data can be left in two regions. -/
def roomy : Environment := { environment with storageAccounts := [filtered, free] }

/-- A workload whose data may be left in either of them. -/
def tolerant : Request :=
  { request with storageRequirements := request.storageRequirements.insert "neverland" [] }

/-- A workload whose actions may be applied in no cluster that there is. -/
def strict : Request :=
  { request with
    actions := []
    policy := request.policy.withDecision .transform
      ⟨.allowed, { Restrictions.none with clusters := [⟨"name", .values ["elsewhere"]⟩] }, .none⟩
    storageRequirements := request.storageRequirements.insert "neverland" [] }

end Sample

theorem sample_greedyPlan_agrees :
    (Sample.environment.greedyPlan Sample.request [Sample.copying, Sample.reading] =
        .ok (Sample.planIn Sample.dear Sample.dear) ∧
      ∀ limit, ∃ rest, Sample.environment.plans Sample.request [Sample.copying, Sample.reading]
        limit = .ok (Sample.planIn Sample.dear Sample.dear :: rest)) ∧
    (Sample.environment.plans Sample.request [Sample.reading] 1 =
        .error (.unsupportedActions ["Redact"]) ∧
      Sample.environment.greedyPlan Sample.request [Sample.reading] =
        .error (.unsupportedActions ["Redact"])) ∧
    Sample.roomy.greedyPlan Sample.strict [Sample.copying, Sample.reading] =
        .error (.noCluster .read) ∧
      ∀ limit, Sample.roomy.plans Sample.strict [Sample.copying, Sample.reading] limit =
          .error (.noCluster .read) ∨
        ∃ found, Sample.roomy.plans Sample.strict [Sample.copying, Sample.reading] limit =
          .ok found := by
  have hplan : Sample.environment.greedyPlan Sample.request [Sample.copying, Sample.reading] =
      .ok (Sample.planIn Sample.dear Sample.dear) := rfl
  have hnone : Sample.environment.plans Sample.request [Sample.reading] 1 =
      .error (.unsupportedActions ["Redact"]) := rfl
  -- the first account requires a filter, which may run nowhere; the second account would do
  have hstrict : Sample.roomy.greedyPlan Sample.strict [Sample.copying, Sample.reading] =
      .error (.noCluster .read) := rfl
  exact ⟨⟨hplan, (greedyPlan_agrees_with_plans _ _ _).1 _ hplan⟩,
    ⟨hnone, (greedyPlan_agrees_with_plans _ _ _).2.1 _ _ hnone⟩,
    hstrict, (greedyPlan_agrees_with_plans _ _ _).2.2 _ hstrict⟩

end DataRoute
