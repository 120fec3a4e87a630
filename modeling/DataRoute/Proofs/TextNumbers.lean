import DataRoute.Json.Reading
import DataRoute.Proofs.FloatQuotient
import DataRoute.Proofs.Restoring

/-! # The numbers of JSON texts

The value of a JSON text holds integers of 64 bits and finite floats only
(`isRepresentable_of_read?`).  A numeral comes to a product that is checked, or to quotients by
powers of ten, which cannot overflow (`isFinite_scaled`); one more character completes no tokens but
such numbers (`Scan.step_representable`), and one more token makes no values of others
(`Awaiting.step_representable`). -/

namespace DataRoute.Json

/-! ### Numerals -/

theorem absorbDigits_lt {start : Nat} (h : start < Decimal.countLimit) (digits : List Char) :
    (absorbDigits start digits).1 < Decimal.countLimit := by
  induction digits generalizing start with
  | nil => exact h
  | cons c rest ih =>
      unfold absorbDigits
      dsimp only
      split
      next hnext => exact ih hnext
      next => exact h

theorem exponentLE_div_nearest {x : Float} {c e : Int} (hx : ExponentLE c (unpacked x))
    (hc : -1126 ≤ c) (hmax : c + 53 ≤ 971) (hlow : 0 ≤ e) (hhigh : e ≤ 308) :
    ExponentLE (c + 53) (unpacked (x / Decimal.nearest 1 e)) := by
  have hquotient : ExponentLE (c - -52 + 1)
      ((unpacked x).div .binary64 (unpacked (Decimal.nearest 1 e))) :=
    exponentLE_div hx (exponentGE_nearest hlow hhigh) (inRange_unpacked x) (by omega)
  exact exponentLE_unpack_pack (hquotient.mono (by omega)) (by omega) hmax

theorem isFinite_scaled {n : Nat} {e : Int} {x : Float} (hn : n < Decimal.countLimit)
    (h : scaled n e = some x) : x.isFinite = true := by
  have hdigits : ExponentLE 66 (unpacked (Decimal.nearest n 0)) := exponentLE_nearest hn
  unfold scaled at h
  dsimp only at h
  split_ifs at h with hzero hhigh hnonneg hfinite hlow hlowest
  · obtain rfl := Option.some.inj h
    decide
  · exact Option.some.inj h ▸ hfinite
  · obtain rfl := Option.some.inj h
    exact isFinite_of_exponentLE
      (exponentLE_div_nearest hdigits (by decide) (by decide) (by omega) (by omega))
  · obtain rfl := Option.some.inj h
    have hfirst : ExponentLE (66 + 53) (unpacked (Decimal.nearest n 0 / Decimal.nearest 1 308)) :=
      exponentLE_div_nearest hdigits (by decide) (by decide) (by decide) (by decide)
    exact isFinite_of_exponentLE
      (exponentLE_div_nearest hfirst (by decide) (by decide) (by omega) (by omega))
  · obtain rfl := Option.some.inj h
    decide

theorem isFinite_magnitude {p : NumeralParts} {x : Float} (h : p.magnitude = some x) :
    x.isFinite = true := by
  have hwhole : (absorbDigits 0 p.whole).1 < Decimal.countLimit := absorbDigits_lt (by decide) _
  exact isFinite_scaled (absorbDigits_lt hwhole (p.fraction.getD [])) h

theorem isRepresentable_int_iff {n : Int} :
    (int n).isRepresentable = true ↔ -2 ^ 63 ≤ n ∧ n < 2 ^ 64 := by
  rw [isRepresentable, Bool.and_eq_true, decide_eq_true_eq, decide_eq_true_eq]

theorem isRepresentable_of_readNumber {cs : List Char} {v : Json} (h : readNumber cs = some v) :
    v.isRepresentable = true := by
  have hlimit : Decimal.countLimit = 2 ^ 64 := rfl
  unfold readNumber at h
  dsimp only at h
  obtain ⟨p, -, h⟩ := Option.bind_eq_some_iff.mp h
  split_ifs at h with hplain hminus hsign
  · obtain rfl := Option.some.inj h
    simp only [Bool.and_eq_true, decide_eq_true_eq] at hplain
    rw [isRepresentable_int_iff]
    omega
  · obtain rfl := Option.some.inj h
    simp only [Bool.and_eq_true, decide_eq_true_eq] at hminus
    have hleast : Decimal.digitsValue p.whole ≤ 2 ^ 63 := hminus.2
    rw [isRepresentable_int_iff]
    omega
  · obtain ⟨x, hx, h⟩ := Option.bind_eq_some_iff.mp h
    obtain rfl := Option.some.inj h
    exact isFinite_neg (isFinite_magnitude hx)
  · obtain ⟨x, hx, h⟩ := Option.bind_eq_some_iff.mp h
    obtain rfl := Option.some.inj h
    exact isFinite_magnitude hx

/-! ### Tokens -/

/-- Whether a token holds no other numbers. -/
def Token.IsRepresentable : Token → Prop
  | .scalar v => v.isRepresentable = true
  | _ => True

section tokens
variable {scan next : Scan} {c : Char} {more : List Token}

theorem isRepresentable_of_constant? {read : List Char} {v : Json} (h : constant? read = some v) :
    v.isRepresentable = true := by
  unfold constant? at h
  split_ifs at h <;> exact Option.some.inj h ▸ rfl

theorem Scan.start_representable (h : Scan.start c = some (next, more)) :
    ∀ token ∈ more, token.IsRepresentable := by
  unfold Scan.start at h
  split_ifs at h <;> obtain ⟨-, rfl⟩ := Prod.mk.inj (Option.some.inj h) <;>
    simp [Token.IsRepresentable]

/-- A character that ends a numeral or a name completes its token. -/
theorem Scan.closed_representable {value? : Option Json}
    (hvalue : ∀ v, value? = some v → v.isRepresentable = true)
    (h : (do
      let value ← value?
      let (next, more) ← Scan.start c
      some (next, .scalar value :: more)) = some (next, more)) :
    ∀ token ∈ more, token.IsRepresentable := by
  obtain ⟨value, hread, h⟩ := Option.bind_eq_some_iff.mp h
  obtain ⟨⟨start, others⟩, hstart, h⟩ := Option.bind_eq_some_iff.mp h
  obtain ⟨-, rfl⟩ := Prod.mk.inj (Option.some.inj h)
  exact List.forall_mem_cons.mpr ⟨hvalue value hread, Scan.start_representable hstart⟩

/-- One more character completes no tokens but such numbers. -/
theorem Scan.step_representable (h : scan.step c = some (next, more)) :
    ∀ token ∈ more, token.IsRepresentable := by
  have hnone : ∀ {scan' : Scan}, some (scan', []) = some (next, more) →
      ∀ token ∈ more, token.IsRepresentable := by
    intro scan' h
    obtain ⟨-, rfl⟩ := Prod.mk.inj (Option.some.inj h)
    exact List.forall_mem_nil _
  unfold Scan.step at h
  cases scan with
  | between => exact Scan.start_representable h
  | number read =>
      dsimp only at h
      split at h
      next => exact hnone h
      next => exact Scan.closed_representable (fun _ => isRepresentable_of_readNumber) h
  | name read =>
      dsimp only at h
      split at h
      next => exact hnone h
      next => exact Scan.closed_representable (fun _ => isRepresentable_of_constant?) h
  | string read =>
      dsimp only at h
      split_ifs at h
      · obtain ⟨-, rfl⟩ := Prod.mk.inj (Option.some.inj h)
        exact List.forall_mem_singleton.mpr rfl
      · exact hnone h
      · exact hnone h
  | pairing read high =>
      dsimp only at h
      split_ifs at h
      exact hnone h
  | escape read state =>
      obtain ⟨scan', -, h⟩ := Option.map_eq_some_iff.mp h
      exact hnone (congrArg some h)

theorem Scan.finish_representable {last : List Token} (h : scan.finish = some last) :
    ∀ token ∈ last, token.IsRepresentable := by
  unfold Scan.finish at h
  cases scan with
  | between =>
      obtain rfl := Option.some.inj h
      exact List.forall_mem_nil _
  | number read =>
      obtain ⟨value, hvalue, rfl⟩ := Option.map_eq_some_iff.mp h
      exact List.forall_mem_singleton.mpr (isRepresentable_of_readNumber hvalue)
  | name read =>
      obtain ⟨value, hvalue, rfl⟩ := Option.map_eq_some_iff.mp h
      exact List.forall_mem_singleton.mpr (isRepresentable_of_constant? hvalue)
  | _ => exact nomatch h

theorem tokensFrom_representable {read tokens : List Token} {chars : List Char}
    (hread : ∀ token ∈ read, token.IsRepresentable)
    (h : tokensFrom scan read chars = some tokens) : ∀ token ∈ tokens, token.IsRepresentable := by
  induction chars generalizing scan read with
  | nil =>
      obtain ⟨last, hlast, rfl⟩ := Option.map_eq_some_iff.mp h
      intro token htoken
      rcases List.mem_append.mp htoken with htoken | htoken
      · exact hread token (List.mem_reverse.mp htoken)
      · exact Scan.finish_representable hlast token htoken
  | cons c rest ih =>
      unfold tokensFrom at h
      split at h
      next next more hstep =>
        refine ih (fun token htoken => ?_) h
        rcases List.mem_append.mp htoken with htoken | htoken
        · exact Scan.step_representable hstep token (List.mem_reverse.mp htoken)
        · exact hread token htoken
      next => exact nomatch h

end tokens

/-! ### Values -/

theorem isRepresentable_array_iff {items : List Json} :
    (array items).isRepresentable = true ↔ ∀ v ∈ items, v.isRepresentable = true := by
  refine ⟨fun h v hv => isRepresentable_of_mem h hv, fun h => ?_⟩
  rw [isRepresentable]
  induction items with
  | nil => rfl
  | cons v rest ih =>
      obtain ⟨hv, hrest⟩ := List.forall_mem_cons.mp h
      rw [itemsRepresentable, hv, ih hrest]
      rfl

theorem isRepresentable_object_iff {members : Members} :
    (object members).isRepresentable = true ↔ ∀ m ∈ members, m.2.isRepresentable = true := by
  refine ⟨fun h m hm => isRepresentable_of_member h hm, fun h => ?_⟩
  rw [isRepresentable]
  induction members with
  | nil => rfl
  | cons m rest ih =>
      obtain ⟨hm, hrest⟩ := List.forall_mem_cons.mp h
      rw [membersRepresentable, hm, ih hrest]
      rfl

theorem isRepresentable_insert {members : Members} {k : String} {v : Json}
    (hmembers : ∀ m ∈ members, m.2.isRepresentable = true) (hv : v.isRepresentable = true) :
    ∀ m ∈ members.insert k v, m.2.isRepresentable = true := by
  induction members with
  | nil => exact List.forall_mem_singleton.mpr hv
  | cons m rest ih =>
      obtain ⟨hm, hrest⟩ := List.forall_mem_cons.mp hmembers
      unfold Members.insert
      split_ifs
      · exact List.forall_mem_cons.mpr ⟨hv, hmembers⟩
      · exact List.forall_mem_cons.mpr ⟨hv, hrest⟩
      · exact List.forall_mem_cons.mpr ⟨hm, ih hrest⟩

/-- Whether an open container holds no other numbers. -/
def Frame.IsRepresentable : Frame → Prop
  | .array items => ∀ v ∈ items, v.isRepresentable = true
  | .object members _ => ∀ m ∈ members, m.2.isRepresentable = true

/-- Whether what has been read of a value holds no other numbers. -/
def Awaiting.IsRepresentable : Awaiting → Prop
  | .value stack => ∀ frame ∈ stack, frame.IsRepresentable
  | .itemOrEnd stack => ∀ frame ∈ stack, frame.IsRepresentable
  | .keyOrEnd stack => ∀ frame ∈ stack, frame.IsRepresentable
  | .key members stack =>
    (∀ m ∈ members, m.2.isRepresentable = true) ∧ ∀ frame ∈ stack, frame.IsRepresentable
  | .colon members _ stack =>
    (∀ m ∈ members, m.2.isRepresentable = true) ∧ ∀ frame ∈ stack, frame.IsRepresentable
  | .separator v stack => v.isRepresentable = true ∧ ∀ frame ∈ stack, frame.IsRepresentable

section values
variable {state next : Awaiting} {token : Token}

theorem Awaiting.begin_representable {stack : List Frame}
    (hstack : ∀ frame ∈ stack, frame.IsRepresentable) (htoken : token.IsRepresentable)
    (h : Awaiting.begin stack token = some next) : next.IsRepresentable := by
  unfold Awaiting.begin at h
  split at h
  next v => exact Option.some.inj h ▸ ⟨htoken, hstack⟩
  next =>
    split_ifs at h
    exact Option.some.inj h ▸ hstack
  next =>
    split_ifs at h
    exact Option.some.inj h ▸ hstack
  next => exact nomatch h

/-- One more token makes no values of other numbers. -/
theorem Awaiting.step_representable (hstate : state.IsRepresentable)
    (htoken : token.IsRepresentable) (h : state.step token = some next) :
    next.IsRepresentable := by
  unfold Awaiting.step at h
  split at h
  next => exact Awaiting.begin_representable hstate htoken h
  next => exact Option.some.inj h ▸ ⟨rfl, hstate⟩
  next =>
    refine Awaiting.begin_representable (List.forall_mem_cons.mpr ⟨?_, hstate⟩) htoken h
    exact List.forall_mem_nil _
  next => exact Option.some.inj h ▸ ⟨rfl, hstate⟩
  next => exact Option.some.inj h ▸ ⟨List.forall_mem_nil _, hstate⟩
  next => exact Option.some.inj h ▸ hstate
  next => exact Option.some.inj h ▸ List.forall_mem_cons.mpr hstate
  next v items stack =>
    obtain ⟨hitems, hstack⟩ := List.forall_mem_cons.mp hstate.2
    have hread : ∀ w ∈ v :: items, w.isRepresentable = true :=
      List.forall_mem_cons.mpr ⟨hstate.1, hitems⟩
    exact Option.some.inj h ▸ List.forall_mem_cons.mpr ⟨hread, hstack⟩
  next v items stack =>
    obtain ⟨hitems, hstack⟩ := List.forall_mem_cons.mp hstate.2
    have hread : ∀ w ∈ v :: items, w.isRepresentable = true :=
      List.forall_mem_cons.mpr ⟨hstate.1, hitems⟩
    refine Option.some.inj h ▸ ⟨isRepresentable_array_iff.mpr fun w hw => ?_, hstack⟩
    exact hread w (List.mem_reverse.mp hw)
  next v members k stack =>
    obtain ⟨hmembers, hstack⟩ := List.forall_mem_cons.mp hstate.2
    exact Option.some.inj h ▸ ⟨isRepresentable_insert hmembers hstate.1, hstack⟩
  next v members k stack =>
    obtain ⟨hmembers, hstack⟩ := List.forall_mem_cons.mp hstate.2
    refine Option.some.inj h ▸ ⟨isRepresentable_object_iff.mpr ?_, hstack⟩
    exact isRepresentable_insert hmembers hstate.1
  next => exact nomatch h

theorem isRepresentable_of_ofTokens? {tokens : List Token} {v : Json}
    (hstate : state.IsRepresentable) (htokens : ∀ token ∈ tokens, token.IsRepresentable)
    (h : ofTokens? state tokens = some v) : v.isRepresentable = true := by
  induction tokens generalizing state with
  | nil =>
      unfold ofTokens? at h
      split at h
      next => exact Option.some.inj h ▸ hstate.1
      next => exact nomatch h
  | cons token rest ih =>
      obtain ⟨htoken, hrest⟩ := List.forall_mem_cons.mp htokens
      unfold ofTokens? at h
      split at h
      next next hstep => exact ih (Awaiting.step_representable hstate htoken hstep) hrest h
      next => exact nomatch h

end values

/-- The value of a text holds integers of 64 bits and finite floats only. -/
theorem isRepresentable_of_read? {source : String} {v : Json} (h : read? source = some v) :
    v.isRepresentable = true := by
  obtain ⟨tokens, htokens, hv⟩ := Option.bind_eq_some_iff.mp h
  have hstart : (Awaiting.value []).IsRepresentable := List.forall_mem_nil _
  exact isRepresentable_of_ofTokens? hstart
    (tokensFrom_representable (List.forall_mem_nil _) htokens) hv

end DataRoute.Json
