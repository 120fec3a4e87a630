import DataRoute.Placement.Choice

/-! # Duties along a walk

What the two operations on duties do to the names that they hold: requiring actions adds exactly
the names that were unknown (`require_eq`, `mem_fresh`), and a leg moves names from the pending to
the applied ones and loses none (`knows_after`).  A `Walk` carries duties along a plan; along it no
name is forgotten (`Walk.knows`), and an action that no leg supports is still pending at the end
(`Walk.pending_of_unsupported`). -/

namespace DataRoute

theorem mem_actionNames {name : String} {actions : List Action} :
    name ∈ actionNames actions ↔ ∃ a ∈ actions, a.name = name := by
  unfold actionNames
  exact List.mem_map

theorem mem_actionNames_of_mem {a : Action} {actions : List Action} (h : a ∈ actions) :
    a.name ∈ actionNames actions :=
  mem_actionNames.mpr ⟨a, h, rfl⟩

namespace Duties

/-! ### Known names -/

theorem knows_iff {d : Duties} {name : String} :
    d.knows name = true ↔ name ∈ d.applied ∨ name ∈ actionNames d.pending := by
  unfold knows
  rw [Bool.or_eq_true, List.contains_iff_mem, List.any_eq_true, mem_actionNames]
  simp only [beq_iff_eq]

/-! ### Requiring actions -/

/-- The actions that a list of required ones adds: those with an unknown name, each name once. -/
def fresh (d : Duties) : List Action → List Action
  | [] => []
  | a :: rest => if d.knows a.name then d.fresh rest else a :: (d.add a).fresh rest

theorem add_of_knows {d : Duties} {a : Action} (h : d.knows a.name = true) : d.add a = d := by
  unfold add
  rw [if_pos h]

theorem add_of_not_knows {d : Duties} {a : Action} (h : ¬ d.knows a.name = true) :
    d.add a = ⟨d.pending ++ [a], d.applied⟩ := by
  unfold add
  rw [if_neg h]

theorem knows_add {d : Duties} {a : Action} {name : String} :
    (d.add a).knows name = true ↔ d.knows name = true ∨ a.name = name := by
  by_cases h : d.knows a.name = true
  · rw [add_of_knows h]
    constructor
    · exact .inl
    · rintro (hd | rfl)
      · exact hd
      · exact h
  · rw [add_of_not_knows h, knows_iff, knows_iff]
    simp only [actionNames, List.map_append, List.map_cons, List.map_nil, List.mem_append,
      List.mem_singleton, or_assoc, eq_comm]

theorem require_eq (d : Duties) (required : List Action) :
    d.require required = ⟨d.pending ++ d.fresh required, d.applied⟩ := by
  unfold require
  induction required generalizing d with
  | nil => simp [fresh]
  | cons a rest ih =>
      rw [List.foldl_cons, ih, fresh]
      by_cases h : d.knows a.name = true
      · rw [if_pos h, add_of_knows h]
      · rw [if_neg h]
        simp only [add_of_not_knows h, List.append_assoc, List.singleton_append]

theorem mem_fresh {d : Duties} {required : List Action} {a : Action} (h : a ∈ d.fresh required) :
    a ∈ required ∧ ¬ d.knows a.name = true := by
  induction required generalizing d with
  | nil => simp [fresh] at h
  | cons b rest ih =>
      rw [fresh] at h
      split at h
      · obtain ⟨hmem, hnew⟩ := ih h
        exact ⟨List.mem_cons_of_mem _ hmem, hnew⟩
      next hb =>
        rcases List.mem_cons.mp h with rfl | h
        · exact ⟨List.mem_cons_self, hb⟩
        · obtain ⟨hmem, hnew⟩ := ih h
          exact ⟨List.mem_cons_of_mem _ hmem, fun hd => hnew (knows_add.mpr (.inl hd))⟩

theorem nodup_fresh (d : Duties) (required : List Action) :
    (actionNames (d.fresh required)).Nodup := by
  induction required generalizing d with
  | nil => exact List.nodup_nil
  | cons a rest ih =>
      rw [fresh]
      split
      · exact ih d
      · unfold actionNames
        rw [List.map_cons, List.nodup_cons]
        refine ⟨?_, ih (d.add a)⟩
        intro h
        obtain ⟨b, hb, hname⟩ := List.mem_map.mp h
        exact (mem_fresh hb).2 (knows_add.mpr (.inr hname.symm))

theorem knows_require {d : Duties} {required : List Action} {name : String} :
    (d.require required).knows name = true ↔ d.knows name = true ∨ name ∈ actionNames required := by
  unfold require
  induction required generalizing d with
  | nil => simp [actionNames]
  | cons a rest ih =>
      rw [List.foldl_cons, ih, knows_add]
      simp only [actionNames, List.map_cons, List.mem_cons, or_assoc, eq_comm]

/-! ### After a leg -/

theorem mem_assigned {d : Duties} {leg : Leg} {a : Action} :
    a ∈ d.assigned leg ↔ a ∈ d.pending ∧ leg.capability.supportsAction a.name = true :=
  List.mem_filter

theorem mem_pending_after {d : Duties} {leg : Leg} {a : Action} :
    a ∈ (d.after leg).pending ↔ a ∈ d.pending ∧ leg.capability.supportsAction a.name = false := by
  unfold after
  rw [List.mem_filter, Bool.not_eq_true']

theorem mem_applied_after {d : Duties} {leg : Leg} {name : String} :
    name ∈ (d.after leg).applied ↔ name ∈ d.applied ∨ name ∈ actionNames (d.assigned leg) :=
  List.mem_append

theorem assigned_append_pending (d : Duties) (leg : Leg) :
    (d.assigned leg ++ (d.after leg).pending).Perm d.pending :=
  List.filter_append_perm _ _

theorem knows_after {d : Duties} {leg : Leg} {name : String} :
    (d.after leg).knows name = true ↔ d.knows name = true := by
  have hperm := ((d.assigned_append_pending leg).map Action.name).mem_iff (a := name)
  rw [List.map_append, List.mem_append] at hperm
  rw [knows_iff, knows_iff, mem_applied_after, or_assoc]
  exact or_congr_right hperm

/-- What is known after a leg of a walk. -/
theorem knows_after_require {d : Duties} {required : List Action} {leg : Leg} {name : String} :
    ((d.require required).after leg).knows name = true ↔
      d.knows name = true ∨ name ∈ actionNames required :=
  knows_after.trans knows_require

end Duties

/-! ### Walks -/

/-- `Walk request d plan e`: carrying out a plan turns the duties `d` into `e`. -/
inductive Walk (request : Request) : Duties → Plan → Duties → Prop
  | nil (d : Duties) : Walk request d [] d
  | cons {d e : Duties} {later : Plan} (leg : Leg) (cluster : Cluster)
      (account : Option StorageAccount) :
      Walk request ((d.require (request.requiredBy account)).after leg) later e →
      Walk request d
        (⟨leg, (d.require (request.requiredBy account)).assigned leg, cluster, account⟩ :: later) e

theorem walk_carryOut (request : Request) (route : Route) (d : Duties) (choices : List Choice) :
    Walk request d (carryOut request d route choices) (dutiesAfter request d route choices) := by
  induction route generalizing d choices with
  | nil => exact .nil d
  | cons leg later ih =>
      cases choices with
      | nil => exact .nil d
      | cons choice choices => exact .cons leg choice.cluster choice.account (ih _ choices)

namespace Walk

variable {request : Request} {d e : Duties} {plan : Plan}

theorem knows {name : String} (walk : Walk request d plan e) (h : d.knows name = true) :
    e.knows name = true := by
  induction walk with
  | nil d => exact h
  | cons leg cluster account _ ih =>
      exact ih (Duties.knows_after_require.mpr (.inl h))

theorem pending_of_unsupported {a : Action} (walk : Walk request d plan e) (ha : a ∈ d.pending)
    (hplan : ∀ l ∈ plan, l.leg.capability.supportsAction a.name = false) : a ∈ e.pending := by
  induction walk with
  | nil d => exact ha
  | @cons d e later leg cluster account _ ih =>
      obtain ⟨hleg, hlater⟩ := List.forall_mem_cons.mp hplan
      refine ih (Duties.mem_pending_after.mpr ⟨?_, hleg⟩) hlater
      rw [Duties.require_eq]
      exact List.mem_append_left _ ha

end Walk

end DataRoute
