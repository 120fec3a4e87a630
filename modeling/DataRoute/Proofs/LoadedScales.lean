import DataRoute.Document.Load
import DataRoute.Proofs.Scales
import DataRoute.Proofs.TextNumbers

/-! # Scales that are loaded from files

The bounds of a scale in a file are finite, since all numbers of a JSON text are
(`hasFiniteScales_of_loadInfrastructure`).  So the place of an attribute on the scale of its metric
is a number between zero and one, unless the value and the upper bound are both so far from the
lower bound that the differences overflow; then it is no number at all
(`loaded_place_inUnit_iff`). -/

namespace DataRoute

open Json Document

/-! ### Finite bounds -/

theorem isFinite_of_asReal {v : Json} {x : Float} (h : v.isRepresentable = true)
    (hx : asReal v = .ok x) : x.isFinite = true := by
  unfold asReal at hx
  split at hx
  next y hy =>
    cases hx
    exact isFinite_of_toFloat? h hy
  next => cases hx

theorem Range.isFinite_of_decode {v : Json} {r : Range} (h : v.isRepresentable = true)
    (hr : Range.decode v = .ok r) : r.IsFinite := by
  obtain ⟨-, hmin, hmax⟩ := Range.decode_eq_ok_iff.mp hr
  have hbound : ∀ {position : Nat} {name : String} {bound : Option Float},
      Optional asReal (v.part position name) bound → ∀ x ∈ bound, x.isFinite = true := by
    rintro position name bound hbound x rfl
    obtain ⟨w, hw, -, hx⟩ := hbound
    exact isFinite_of_asReal (isRepresentable_of_part h hw) hx
  exact ⟨hbound hmin, hbound hmax⟩

theorem Infrastructure.hasFiniteScales_of_decode {v : Json} {infra : Infrastructure}
    (h : v.isRepresentable = true) (hinfra : Infrastructure.decode v = .ok infra) :
    infra.HasFiniteScales := by
  obtain ⟨-, -, hmetrics⟩ := Infrastructure.decode_eq_ok_iff.mp hinfra
  intro m hm r hr
  obtain ⟨-, hempty⟩ | ⟨w, hw, hread⟩ := hmetrics
  · rw [hempty] at hm
    exact nomatch hm
  · obtain ⟨item, hitem, hdecode⟩ := exists_of_mem_asList hread hm
    obtain ⟨-, -, -, -, hscale⟩ := Metric.decode_eq_ok_iff.mp hdecode
    rw [Option.mem_def.mp hr] at hscale
    obtain ⟨scale, hpart, -, hrange⟩ := hscale
    have hitem := isRepresentable_of_mem (isRepresentable_of_part h hw) hitem
    exact Range.isFinite_of_decode (isRepresentable_of_part hitem hpart) hrange

theorem isRepresentable_of_readChecked {kind : Kind} {file : File} {v : Json}
    (h : readChecked kind file = .ok v) : v.isRepresentable = true := by
  cases file with
  | contents text =>
      unfold readChecked at h
      dsimp only at h
      split at h
      next => exact nomatch h
      next value hread =>
        split_ifs at h
        exact Except.ok.inj h ▸ isRepresentable_of_read? hread
  | _ => exact nomatch h

theorem exists_of_loadAs {α : Type} {kind : Kind} {decode : Decoder α} {file : File} {a : α}
    (h : loadAs kind decode file = .ok a) :
    ∃ v, readChecked kind file = .ok v ∧ decode v = .ok a := by
  unfold loadAs at h
  cases hv : readChecked kind file with
  | error e =>
      rw [hv] at h
      exact nomatch h
  | ok v =>
      rw [hv] at h
      refine ⟨v, rfl, ?_⟩
      cases hdecode : decode v with
      | error cause => simp [bind, Except.bind, hdecode] at h
      | ok b => simpa [bind, Except.bind, hdecode] using h

theorem hasFiniteScales_of_loadInfrastructure {file : File} {infra : Infrastructure}
    (h : loadInfrastructure file = .ok infra) : infra.HasFiniteScales := by
  have hload : ∀ file, loadAs .infrastructure Infrastructure.decode file = .ok infra →
      infra.HasFiniteScales := by
    intro file h
    obtain ⟨v, hv, hdecode⟩ := exists_of_loadAs h
    exact Infrastructure.hasFiniteScales_of_decode (isRepresentable_of_readChecked hv) hdecode
  cases file with
  | missing =>
      obtain rfl := Except.ok.inj h
      exact nofun
  | unreachable => exact nomatch h
  | _ => exact hload _ h

/-! ### Places -/

/-- **A place on a loaded scale lies between zero and one, unless it is lost to overflow.**  Let
attributes and metrics be loaded from a file.  An attribute has a place on the scale of its metric
exactly if there is such a scale and the value is a finite number.  This place lies between zero
and one exactly if not both the distance of the value from the lower bound and the extent of the
scale overflow, and is no number exactly if both do. -/
theorem loaded_place_inUnit_iff {file : File} {infra : Infrastructure}
    (h : loadInfrastructure file = .ok infra) (a : Attribute) :
    ((∃ x, infra.normalized a = some x) ↔
      (∃ scale, infra.scale? a = some scale) ∧ ∃ value, a.numeric = some value) ∧
    ∀ x, infra.normalized a = some x →
      (InUnit x ↔ ¬ infra.Overflows a) ∧ (x.isNaN = true ↔ infra.Overflows a) := by
  refine ⟨Infrastructure.exists_normalized_iff, fun x hx => ?_⟩
  obtain ⟨hlost, hunit⟩ :=
    Infrastructure.normalized_spec (hasFiniteScales_of_loadInfrastructure h) hx
  refine ⟨⟨fun hin hoverflows => ?_, fun hkept => hunit ?_⟩, hlost⟩
  · exact Bool.false_ne_true (hin.isNaN.symm.trans (hlost.mpr hoverflows))
  · rw [← Bool.not_eq_true, hlost]
    exact hkept

namespace Sample

/-- The text of a file with one cost, which refers to a scale. -/
def costText (value min max : String) : String :=
  "\x7b\"attributes\": [\x7b\"attribute\": \"cost\", \"value\": \"" ++ value
    ++ "\", \"object\": \"cluster\", \"instance\": \"dear\", \"metricName\": \"wide\"\x7d], "
    ++ "\"metrics\": [\x7b\"name\": \"wide\", \"type\": \"numeric\", "
    ++ "\"scale\": \x7b\"min\": " ++ min ++ ", \"max\": " ++ max ++ "\x7d\x7d]\x7d"

/-- Whether a file is loaded and some attribute in it has a place of a kind. -/
def placesSome (file : File) (p : Float → Bool) : Bool :=
  (loadInfrastructure file).toOption.any fun infra =>
    infra.attributes.any fun a => (infra.normalized a).any p

theorem exists_of_placesSome {file : File} {p : Float → Bool} (h : placesSome file p = true) :
    ∃ infra, loadInfrastructure file = .ok infra ∧
      ∃ a ∈ infra.attributes, ∃ x, infra.normalized a = some x ∧ p x = true := by
  unfold placesSome at h
  cases hload : loadInfrastructure file with
  | error e =>
      rw [hload] at h
      exact nomatch h
  | ok infra =>
      rw [hload] at h
      change (infra.attributes.any fun a => (infra.normalized a).any p) = true at h
      obtain ⟨a, ha, hx⟩ := List.any_eq_true.mp h
      exact ⟨infra, rfl, a, ha, (Option.any_eq_true _ _).mp hx⟩

end Sample

theorem sample_place_inUnit : ∃ infra,
    loadInfrastructure (.contents (Sample.costText "1e308" "0" "1.5e308")) = .ok infra ∧
    ∃ a ∈ infra.attributes, ∃ x, infra.normalized a = some x ∧ InUnit x := by
  obtain ⟨infra, hload, a, ha, x, hx, hnumber⟩ := Sample.exists_of_placesSome
    (show Sample.placesSome (.contents (Sample.costText "1e308" "0" "1.5e308"))
      (fun x => !x.isNaN) = true by decide +kernel)
  obtain ⟨hunit, hlost⟩ := (loaded_place_inUnit_iff hload a).2 x hx
  refine ⟨infra, hload, a, ha, x, hx, hunit.mpr fun hoverflows => ?_⟩
  rw [hlost.mpr hoverflows] at hnumber
  exact nomatch hnumber

/-- On a scale from one end of the floats to the other, the greatest value has a place that is no
number. -/
theorem sample_place_lost : ∃ infra,
    loadInfrastructure (.contents (Sample.costText "1e308" "-1e308" "1e308")) = .ok infra ∧
    ∃ a ∈ infra.attributes, ∃ x, infra.normalized a = some x ∧ x.isNaN = true :=
  Sample.exists_of_placesSome (by decide +kernel)

end DataRoute
