import DataRoute.Proofs.Depth

/-! # What the reason of a failure says

A reason may say that a required kind is missing, or that actions are not supported; `TrueOf` says
whether that is so along a route.  The greedy walk reports such a reason at its end only.  An
account is chosen only if each action that it adds is supported from there on, so what is pending
at the end are the actions of the start that no leg supports (`unsupportedBy_after`,
`reason_of_greedyFrom`), and every route is rejected for a reason that is true of it
(`trueOf_of_greedyPlan`).  The reason of a request is that of its first route, however.  It is true
of all routes exactly if it is true of those that are rejected for another reason
(`failure_true_of_first_route`), which need not be so (`sample_reasons_untrue`). -/

namespace DataRoute

/-- Whether what a reason says of kinds and actions is true of a route: no leg has the kind that is
missing, and none supports an action that is not supported. -/
def Rejection.TrueOf (route : Route) : Rejection → Prop
  | .missingCapability kind => ∀ l ∈ route, l.kind ≠ kind
  | .unsupportedActions names =>
    ∀ name ∈ names, ∀ l ∈ route, l.capability.supportsAction name = false
  | .noStorageAccount _ => True
  | .noCluster _ => True

/-! ### Actions that no leg supports -/

/-- The pending actions that no leg of a route supports. -/
def Duties.unsupportedBy (d : Duties) (route : Route) : List Action :=
  d.pending.filter fun a => route.all fun l => !l.capability.supportsAction a.name

section walk
variable (env : Environment) (request : Request) (missing : Option CapabilityKind)

theorem Duties.mem_unsupportedBy {d : Duties} {route : Route} {a : Action}
    (h : a ∈ d.unsupportedBy route) : ∀ l ∈ route, l.capability.supportsAction a.name = false := by
  have hall := (List.mem_filter.mp h).2
  simp only [List.all_eq_true, Bool.not_eq_true'] at hall
  exact hall

/-- What a chosen account requires has been applied, or is supported by the leg or a later one. -/
theorem required_of_accountChoices {leg : Leg} {later : Route} {applied : List String}
    {account : Option StorageAccount}
    (h : account ∈ env.accountChoices request leg later applied) :
    ∀ a ∈ request.requiredBy account, a.name ∈ applied ∨
      ∃ l ∈ leg :: later, l.capability.supportsAction a.name = true := by
  unfold Environment.accountChoices at h
  split at h
  · obtain ⟨chosen, hchosen, rfl⟩ := List.mem_map.mp h
    exact ((storageFits_iff env request).mp (List.mem_filter.mp hchosen).2).2
  · rw [List.mem_singleton.mp h]
    exact fun a ha => absurd ha List.not_mem_nil

/-- Requiring actions that are supported further on, and passing a leg, leave the unsupported
actions as they are. -/
theorem unsupportedBy_after {d : Duties} {leg : Leg} {later : Route} {required : List Action}
    (h : ∀ a ∈ required, a.name ∈ d.applied ∨
      ∃ l ∈ leg :: later, l.capability.supportsAction a.name = true) :
    ((d.require required).after leg).unsupportedBy later = d.unsupportedBy (leg :: later) := by
  have hfresh : (d.fresh required).filter (fun a =>
      (leg :: later).all fun l => !l.capability.supportsAction a.name) = [] := by
    rw [List.filter_eq_nil_iff]
    intro a ha hall
    obtain ⟨hrequired, hnew⟩ := Duties.mem_fresh ha
    obtain happlied | ⟨l, hl, hsupports⟩ := h a hrequired
    · exact hnew (Duties.knows_iff.mpr (.inl happlied))
    · have hunsupported := List.all_eq_true.mp hall l hl
      rw [hsupports] at hunsupported
      exact absurd hunsupported (by decide)
  unfold Duties.unsupportedBy Duties.after
  rw [Duties.require_eq, List.filter_filter]
  have hsplit : ∀ a : Action, (later.all (fun l => !l.capability.supportsAction a.name) &&
      !leg.capability.supportsAction a.name) =
        (leg :: later).all fun l => !l.capability.supportsAction a.name := by
    intro a
    rw [List.all_cons, Bool.and_comm]
  simp only [hsplit]
  rw [List.filter_append, hfresh, List.append_nil]

/-! ### The reason of the greedy walk -/

/-- A walk with the first choice fails if there is no choice, or if it fails with one. -/
theorem exists_of_firstChoice {α β : Type} {choices : List α} {otherwise reason : Rejection}
    {walk : α → Except Rejection β}
    (h : firstChoice choices otherwise >>= walk = .error reason) :
    reason = otherwise ∨ ∃ a ∈ choices, walk a = .error reason := by
  cases choices with
  | nil => exact .inl (Except.error.inj h).symm
  | cons a rest => exact .inr ⟨a, List.mem_cons_self, h⟩

/-- The greedy walk fails for want of an account or a cluster, or at its end, where those actions
are pending that no leg supports. -/
theorem reason_of_greedyFrom {route : Route} {d : Duties} {reason : Rejection}
    (h : env.greedyFrom request missing route d = .error reason) :
    (∃ l ∈ route, reason = .noStorageAccount l.kind ∨ reason = .noCluster l.kind) ∨
      settle missing ⟨d.unsupportedBy route, d.applied⟩ = .error reason := by
  induction route generalizing d with
  | nil =>
      rw [Environment.greedyFrom] at h
      have hpending : d.unsupportedBy [] = d.pending := List.filter_eq_self.mpr fun _ _ => rfl
      rw [hpending]
      cases hsettle : settle missing d with
      | error other =>
          rw [hsettle] at h
          exact .inr (congrArg _ (Except.error.inj h))
      | ok _ =>
          rw [hsettle] at h
          cases h
  | cons leg later ih =>
      rw [Environment.greedyFrom] at h
      obtain rfl | ⟨account, haccount, h⟩ := exists_of_firstChoice h
      · exact .inl ⟨leg, List.mem_cons_self, .inl rfl⟩
      obtain rfl | ⟨cluster, -, h⟩ := exists_of_firstChoice h
      · exact .inl ⟨leg, List.mem_cons_self, .inr rfl⟩
      cases hrest : env.greedyFrom request missing later
          ((d.require (request.requiredBy account)).after leg) with
      | ok rest =>
          rw [hrest] at h
          cases h
      | error other =>
          rw [hrest] at h
          obtain rfl : other = reason := Except.error.inj h
          obtain ⟨l, hl, hkind⟩ | hend := ih hrest
          · exact .inl ⟨l, List.mem_cons_of_mem _ hl, hkind⟩
          · rw [unsupportedBy_after (required_of_accountChoices env request haccount)] at hend
            exact .inr hend

end walk

section failure
variable {env : Environment} {request : Request} {settings : Settings} {reason : Rejection}

theorem ne_of_missingKind? {route : Route} {kind : CapabilityKind}
    (h : missingKind? request route = some kind) : ∀ l ∈ route, l.kind ≠ kind := by
  have hmissing := List.find?_some h
  intro l hl hkind
  rw [Bool.not_eq_true', List.any_eq_false] at hmissing
  exact hmissing l hl (beq_iff_eq.mpr hkind)

/-- A route is rejected for a reason that is true of it. -/
theorem trueOf_of_greedyPlan {route : Route}
    (h : env.greedyPlan request route = .error reason) : reason.TrueOf route := by
  obtain ⟨l, -, rfl | rfl⟩ | hend := reason_of_greedyFrom env request _ h
  · exact trivial
  · exact trivial
  unfold settle at hend
  split at hend
  · cases hmissing : missingKind? request route with
    | none =>
        rw [hmissing] at hend
        exact nomatch hend
    | some kind =>
        rw [hmissing] at hend
        obtain rfl := Except.error.inj hend
        exact ne_of_missingKind? hmissing
  · obtain rfl := Except.error.inj hend
    intro name hname
    obtain ⟨a, ha, rfl⟩ := mem_actionNames.mp hname
    exact Duties.mem_unsupportedBy ha

/-- **The reason of a failure is true of the first route.**  If a request fails for a reason, the
reason is true of the route that ranks first, and every other route is rejected for a reason that
is true of it.  The reason that is reported is true of all routes exactly if it is true of those
that are rejected for another one. -/
theorem failure_true_of_first_route
    (h : env.solve settings request = .error (.rejected reason)) :
    (∃ route, env.RanksFirst settings request route ∧ reason.TrueOf route) ∧
    (∀ route ∈ env.routesFor request settings.maxDepth, ∃ own,
      env.greedyPlan request route = .error own ∧ own.TrueOf route) ∧
    ((∀ route ∈ env.routesFor request settings.maxDepth, reason.TrueOf route) ↔
      ∀ route ∈ env.routesFor request settings.maxDepth,
        env.greedyPlan request route ≠ .error reason → reason.TrueOf route) := by
  have hother : Failure.rejected reason ≠ .noRouteFor request := nofun
  obtain ⟨hnone, hfailure⟩ := (solve_eq_error_iff (limit_pos_of_solve h hother)).mp h
  have hroutes : env.routesFor request settings.maxDepth ≠ [] := by
    intro hnil
    rw [failure_of_no_routes hnil] at hfailure
    exact hother hfailure
  refine ⟨?_, fun route hroute => ?_, fun hall route hroute _ => hall route hroute,
    fun hall route hroute => ?_⟩
  · obtain ⟨route, own, hfirst, hgreedy, hown⟩ := exists_ranksFirst_of_failure hnone hroutes
    rw [hown, Failure.rejected.injEq] at hfailure
    subst hfailure
    exact ⟨route, hfirst, trueOf_of_greedyPlan hgreedy⟩
  · obtain ⟨own, hown⟩ := exists_reason_of_not_serves (hnone route hroute)
    exact ⟨own, hown, trueOf_of_greedyPlan hown⟩
  · by_cases hsame : env.greedyPlan request route = .error reason
    · exact trueOf_of_greedyPlan hsame
    · exact hall route hroute hsame

end failure

theorem sample_failure_true :
    Sample.serving.solve ⟨1, false, 1⟩ Sample.redacted =
        .error (.rejected (.unsupportedActions ["Redact"])) ∧
      ∀ route ∈ Sample.serving.routesFor Sample.redacted 1,
        (Rejection.unsupportedActions ["Redact"]).TrueOf route := by
  refine ⟨Sample.solve_redacted, ?_⟩
  refine (failure_true_of_first_route Sample.solve_redacted).2.2.mpr fun route hroute hne => ?_
  have hfound : Sample.serving.routesFor Sample.redacted 1 = [[Sample.readingRows]] := rfl
  rw [hfound] at hroute
  rw [List.mem_singleton.mp hroute] at hne
  exact absurd rfl hne

namespace Sample

/-- An environment in which rows can be served, and where no copy can be left. -/
def storeless : Environment := .ofParts [copier, rowReader] [dear] [] .empty

/-- A workload that reads rows, which have to be copied. -/
def copied : Request :=
  { redacted with
    actions := []
    policy := Policy.empty.withDecision .copy (.ofDeployment .required) }

end Sample

/-- Where no copy can be left, a request for copied rows fails because copying is missing, and a
request for redacted rows because redacting is not supported, although a route copies the rows with
a module that redacts. -/
theorem sample_reasons_untrue :
    (Sample.storeless.solve ⟨2, false, 1⟩ Sample.copied =
        .error (.rejected (.missingCapability .copy)) ∧
      [Sample.copyingRows, Sample.readingRows] ∈ Sample.storeless.routesFor Sample.copied 2 ∧
      Sample.copyingRows.kind = .copy) ∧
    Sample.storeless.solve ⟨2, false, 1⟩ Sample.redacted =
        .error (.rejected (.unsupportedActions ["Redact"])) ∧
      [Sample.copyingRows, Sample.readingRows] ∈ Sample.storeless.routesFor Sample.redacted 2 ∧
      Sample.copyingRows.capability.supportsAction "Redact" = true := by
  have hroutes : ∀ request, request = Sample.copied ∨ request = Sample.redacted →
      Sample.storeless.routesFor request 2 =
        [[Sample.readingRows], [Sample.copyingRows, Sample.readingRows]] := by
    rintro _ (rfl | rfl) <;> rfl
  refine ⟨⟨?_, ?_, rfl⟩, ?_, ?_, by decide⟩
  · rw [solve_eq_firstPlan rfl (by decide)]
    rfl
  · rw [hroutes _ (.inl rfl)]
    exact List.mem_cons_of_mem _ (List.mem_singleton_self _)
  · rw [solve_eq_firstPlan rfl (by decide)]
    rfl
  · rw [hroutes _ (.inr rfl)]
    exact List.mem_cons_of_mem _ (List.mem_singleton_self _)

end DataRoute
