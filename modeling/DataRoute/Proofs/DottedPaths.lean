import DataRoute.Json.Path
import Mathlib.Data.List.Forall2

/-! # What dotted paths lead to

A text is cut at its dots in one way only (`splitsAtDots_iff`).  A segment is read by the value it
is looked up in: as the key that it is, or as the position that it writes in digits (`Spells`).
Following segments comes to walking along an address that they spell (`follow_eq_some_iff`), so a
dotted path leads to what stands at the address it was made from, and to nothing that has no address
of this form (`lookupPath_exact`). -/

namespace DataRoute

/-! ### Counts in decimal digits -/

namespace Decimal

/-- Whether characters are the decimal digits of a number. -/
structure AreDigitsOf (digits : List Char) (n : Nat) : Prop where
  ne_nil : digits ≠ []
  isDigit : ∀ c ∈ digits, c.isDigit = true
  value : digitsValue digits = n

/-- Whether a text writes a number in decimal digits, with or without a plus sign before them. -/
def Writes (text : String) (n : Nat) : Prop :=
  ∃ digits, AreDigitsOf digits n ∧ (text.toList = digits ∨ text.toList = '+' :: digits)

theorem le_appendDigits (start : Nat) (digits : List Char) :
    start ≤ appendDigits start digits := by
  induction digits generalizing start with
  | nil => exact Nat.le_refl start
  | cons c rest ih =>
      have hnext : start ≤ appendDigits start [c] := by
        show start ≤ 10 * start + (c.toNat - '0'.toNat)
        omega
      exact Nat.le_trans hnext (ih (appendDigits start [c]))

/-- Digits are read if they are digits and the number they end with is a count; no number on the
way there is larger. -/
theorem readDigits_eq_ok_iff {start n : Count} {digits : List Char} :
    readDigits start digits = .ok n ↔
      (∀ c ∈ digits, c.isDigit = true) ∧ appendDigits start.val digits = n.val := by
  induction digits generalizing start with
  | nil => simp [readDigits, appendDigits, Fin.ext_iff]
  | cons c rest ih =>
      have hcons : appendDigits start.val (c :: rest) =
          appendDigits (appendDigits start.val [c]) rest := rfl
      rw [readDigits, List.forall_mem_cons, hcons]
      split
      next hdigit =>
        dsimp only
        split
        next hnext => rw [ih, hdigit]; simp
        next hlarge =>
          refine iff_of_false nofun fun h => hlarge ?_
          exact Nat.lt_of_le_of_lt (le_appendDigits _ rest) (h.2 ▸ n.isLt)
      next hother => exact iff_of_false nofun fun h => hother h.1.1

theorem readDigits_zero_eq_ok_iff {n : Count} {digits : List Char} (hne : digits ≠ []) :
    readDigits .zero digits = .ok n ↔ AreDigitsOf digits n.val :=
  readDigits_eq_ok_iff.trans ⟨fun h => ⟨hne, h.1, h.2⟩, fun h => ⟨h.isDigit, h.value⟩⟩

theorem not_areDigitsOf_plus {rest : List Char} {n : Nat} : ¬ AreDigitsOf ('+' :: rest) n :=
  fun h => absurd (h.isDigit '+' List.mem_cons_self) (by decide)

theorem readCount_eq_ok_iff {text : String} {n : Count} :
    readCount text = .ok n ↔ Writes text n.val := by
  have hsigned : ∀ rest, text.toList = '+' :: rest →
      (Writes text n.val ↔ AreDigitsOf rest n.val) := by
    intro rest htext
    unfold Writes
    rw [htext]
    constructor
    · rintro ⟨digits, hdigits, rfl | hrest⟩
      · exact absurd hdigits not_areDigitsOf_plus
      · exact (List.cons.inj hrest).2 ▸ hdigits
    · exact fun h => ⟨rest, h, .inr rfl⟩
  unfold readCount
  split
  next htext =>
    refine iff_of_false nofun ?_
    rintro ⟨digits, hdigits, h | h⟩
    · exact hdigits.ne_nil (h.symm.trans htext)
    · exact nomatch h.symm.trans htext
  next htext =>
    rw [hsigned [] htext]
    exact iff_of_false nofun fun h => h.ne_nil rfl
  next rest hrest htext =>
    rw [hsigned rest htext]
    exact readDigits_zero_eq_ok_iff hrest
  next hempty hplus hunsigned =>
    rw [readDigits_zero_eq_ok_iff hempty]
    unfold Writes
    constructor
    · exact fun h => ⟨text.toList, h, .inl rfl⟩
    · rintro ⟨digits, hdigits, rfl | h⟩
      · exact hdigits
      · exact absurd h (hunsigned digits)

theorem areDigitsOf_toDigits (n : Nat) : AreDigitsOf (Nat.toDigits 10 n) n where
  ne_nil := Nat.toDigits_ne_nil
  isDigit _ hc := Nat.isDigit_of_mem_toDigits (by decide) (by decide) hc
  value := Nat.ofDigitChars_ten_toDigits

end Decimal

namespace Json

/-! ### Cutting a text at its dots -/

section segments
variable {path : String} {parts : List String}

/-- Whether texts are what stands before, between and after the dots of a text. -/
structure SplitsAtDots (path : String) (parts : List String) : Prop where
  ne_nil : parts ≠ []
  no_dot : ∀ part ∈ parts, '.' ∉ part.toList
  joined : ".".intercalate parts = path

theorem segmentsFrom_eq_splitOn (read chars : List Char) :
    segmentsFrom read chars =
      ((chars.splitOn '.').modifyHead (read.reverse ++ ·)).map String.ofList := by
  induction chars generalizing read with
  | nil => simp [segmentsFrom]
  | cons c rest ih =>
      rw [segmentsFrom, List.splitOn_cons_eq_if_modifyHead]
      by_cases hdot : c = '.'
      · rw [if_pos hdot, if_pos (beq_iff_eq.mpr hdot), ih]
        cases rest.splitOn '.' <;> simp
      · rw [if_neg hdot, if_neg (mt beq_iff_eq.mp hdot), ih, List.modifyHead_modifyHead]
        simp [Function.comp_def]

theorem segments_eq_splitOn (path : String) :
    segments path = (path.toList.splitOn '.').map String.ofList := by
  unfold segments
  rw [segmentsFrom_eq_splitOn]
  cases path.toList.splitOn '.' <;> simp

theorem not_mem_of_mem_splitOn {chars part : List Char} (h : part ∈ chars.splitOn '.') :
    '.' ∉ part := by
  induction chars generalizing part with
  | nil => simp_all
  | cons c rest ih =>
      rw [List.splitOn_cons_eq_if_modifyHead] at h
      by_cases hdot : c = '.'
      · rw [if_pos (beq_iff_eq.mpr hdot)] at h
        rcases List.mem_cons.mp h with rfl | h
        · exact List.not_mem_nil
        · exact ih h
      · rw [if_neg (mt beq_iff_eq.mp hdot)] at h
        cases hrest : rest.splitOn '.' with
        | nil => exact absurd hrest (List.splitOn_ne_nil _ _)
        | cons first others =>
            rw [hrest] at h ih
            rcases List.mem_cons.mp h with rfl | h
            · exact List.not_mem_cons_of_ne_of_not_mem (Ne.symm hdot) (ih List.mem_cons_self)
            · exact ih (List.mem_cons_of_mem _ h)

/-- The segments of a path are what lies between its dots, and nothing else is. -/
theorem splitsAtDots_iff : SplitsAtDots path parts ↔ segments path = parts := by
  rw [segments_eq_splitOn]
  constructor
  · rintro ⟨hne, hdot, rfl⟩
    have hdots : ∀ chars ∈ parts.map String.toList, '.' ∉ chars := by
      intro chars hchars
      obtain ⟨part, hpart, rfl⟩ := List.mem_map.mp hchars
      exact hdot part hpart
    have hsplit := List.splitOn_intercalate '.' hdots (by simpa using hne)
    rw [String.toList_intercalate]
    show ((['.'].intercalate (parts.map String.toList)).splitOn '.').map String.ofList = parts
    rw [hsplit, List.map_map]
    simp [Function.comp_def]
  · rintro rfl
    refine ⟨by simp, fun part hpart => ?_, String.toList_injective ?_⟩
    · obtain ⟨chars, hchars, rfl⟩ := List.mem_map.mp hpart
      rw [String.toList_ofList]
      exact not_mem_of_mem_splitOn hchars
    · rw [String.toList_intercalate, List.map_map]
      show ['.'].intercalate ((path.toList.splitOn '.').map (String.toList ∘ String.ofList)) = _
      simp [Function.comp_def, List.intercalate_splitOn]

end segments

/-! ### Walking along an address -/

/-- Whether a segment can be read as a step: a key is spelled by itself, and a position by a text
that writes it. -/
inductive Spells : String → Step → Prop
  | key (name : String) : Spells name (.key name)
  | position {segment : String} {index : Decimal.Count}
      (h : Decimal.Writes segment index.val) : Spells segment (.position index)

section walk
variable {segment name : String} {index : Decimal.Count} {members : Members} {v w : Json}

theorem spells_key_iff : Spells segment (.key name) ↔ segment = name := by
  constructor
  · rintro ⟨⟩
    rfl
  · rintro rfl
    exact .key segment

theorem spells_position_iff : Spells segment (.position index) ↔
    Decimal.readCount segment = .ok index := by
  rw [Decimal.readCount_eq_ok_iff]
  constructor
  · rintro ⟨⟩
    assumption
  · exact .position

/-- A segment leads below a value along the one step that it spells there. -/
theorem child?_eq_some_iff : child? segment v = some w ↔
    ∃ step, Spells segment step ∧ step.below? v = some w := by
  unfold child?
  rw [Option.bind_eq_some_iff]
  refine exists_congr fun step => and_congr_left fun hbelow => ?_
  cases v with
  | object members =>
      cases step with
      | key name =>
          rw [spells_key_iff]
          simp [stepBelow?]
      | position index => exact nomatch hbelow
  | array items =>
      cases step with
      | key name => exact nomatch hbelow
      | position index =>
          rw [spells_position_iff]
          unfold stepBelow?
          cases Decimal.readCount segment <;> simp [Except.toOption]
  | _ => cases step <;> exact nomatch hbelow

/-- Segments lead along the addresses that they spell. -/
theorem follow_eq_some_iff {parts : List String} : follow parts v = some w ↔
    ∃ address, List.Forall₂ Spells parts address ∧ at? address v = some w := by
  induction parts generalizing v with
  | nil => simp [at?]
  | cons part rest ih =>
      rw [follow_cons, Option.bind_eq_some_iff]
      constructor
      · rintro ⟨below, hchild, hrest⟩
        obtain ⟨step, hspells, hstep⟩ := child?_eq_some_iff.mp hchild
        obtain ⟨address, haddress, hat⟩ := ih.mp hrest
        refine ⟨step :: address, .cons hspells haddress, ?_⟩
        rw [at?, hstep]
        exact hat
      · rintro ⟨_, _ | ⟨hspells, haddress⟩, hat⟩
        obtain ⟨below, hstep, hat⟩ := Option.bind_eq_some_iff.mp hat
        exact ⟨below, child?_eq_some_iff.mpr ⟨_, hspells, hstep⟩, ih.mpr ⟨_, haddress, hat⟩⟩

theorem lookupPath_eq_some_iff {path : String} : members.lookupPath path = some v ↔
    ∃ parts address, SplitsAtDots path parts ∧ List.Forall₂ Spells parts address ∧
      at? address (object members) = some v := by
  unfold Members.lookupPath
  rw [follow_eq_some_iff]
  constructor
  · rintro ⟨address, hspells, hat⟩
    exact ⟨_, address, splitsAtDots_iff.mpr rfl, hspells, hat⟩
  · rintro ⟨parts, address, hsplits, hspells, hat⟩
    exact ⟨address, splitsAtDots_iff.mp hsplits ▸ hspells, hat⟩

end walk

/-! ### Addresses written as paths -/

theorem spells_text (step : Step) : Spells step.text step := by
  cases step with
  | key name => exact .key name
  | position index =>
      refine .position ⟨_, Decimal.areDigitsOf_toDigits index.val, .inl ?_⟩
      exact String.toList_ofList

/-- Whether the keys of an address have no dots. -/
def NoDottedKeys (address : List Step) : Prop :=
  ∀ name, .key name ∈ address → '.' ∉ name.toList

theorem splitsAtDots_dotted {address : List Step} (hne : address ≠ [])
    (hkeys : NoDottedKeys address) : SplitsAtDots (dotted address) (address.map Step.text) where
  ne_nil := by simpa using hne
  no_dot := by
    intro part hpart
    obtain ⟨step, hstep, rfl⟩ := List.mem_map.mp hpart
    cases step with
    | key name => exact hkeys name hstep
    | position index =>
        intro hdot
        rw [Step.text, String.toList_ofList] at hdot
        exact absurd ((Decimal.areDigitsOf_toDigits index.val).isDigit '.' hdot) (by decide)
  joined := rfl

/-- **A dotted path leads to what stands at its address, and to nothing else.**  The path that is
written from an address in an object, with no dots in its keys, leads to the value at this address.
And a path of any kind leads to a value exactly if what lies between its dots spells an address,
keys by themselves and positions in digits, at which the value stands. -/
theorem lookupPath_exact (members : Members) :
    (∀ address v, address ≠ [] → NoDottedKeys address → at? address (object members) = some v →
      members.lookupPath (dotted address) = some v) ∧
    (∀ path v, members.lookupPath path = some v ↔
      ∃ parts address, SplitsAtDots path parts ∧ List.Forall₂ Spells parts address ∧
        at? address (object members) = some v) := by
  refine ⟨fun address v hne hkeys hat => ?_, fun path v => lookupPath_eq_some_iff⟩
  have hspells : List.Forall₂ Spells (address.map Step.text) address := by
    rw [List.forall₂_map_left_iff, List.forall₂_same]
    exact fun step _ => spells_text step
  exact lookupPath_eq_some_iff.mpr ⟨_, address, splitsAtDots_dotted hne hkeys, hspells, hat⟩

namespace Sample

/-- Tags with a list among them, and with a key that looks like a position. -/
def tagged : Members :=
  [("tags", .object [("1", .int 7), ("tier", .array [.text "gold", .text "silver"])])]

/-- The address of the second tier. -/
def secondTier : List Step := [.key "tags", .key "tier", .position ⟨1, by decide⟩]

end Sample

theorem sample_lookupPath :
    NoDottedKeys Sample.secondTier ∧
    at? Sample.secondTier (object Sample.tagged) = some (.text "silver") ∧
    dotted Sample.secondTier = "tags.tier.1" ∧
    Sample.tagged.lookupPath "tags.tier.1" = some (.text "silver") ∧
    ∃ parts address, SplitsAtDots "tags.1" parts ∧ List.Forall₂ Spells parts address ∧
      at? address (object Sample.tagged) = some (.int 7) := by
  have hkeys : NoDottedKeys Sample.secondTier := by
    intro name hname
    have hname : name = "tags" ∨ name = "tier" := by simpa [Sample.secondTier] using hname
    rcases hname with rfl | rfl <;> decide
  obtain ⟨hwritten, hread⟩ := lookupPath_exact Sample.tagged
  exact ⟨hkeys, rfl, by decide, hwritten Sample.secondTier _ (by decide) hkeys rfl,
    (hread "tags.1" _).mp rfl⟩

end Json

end DataRoute
