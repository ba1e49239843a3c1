import Lockstep.Proofs.Text.Search
import Lockstep.Proofs.Trace.Address
import Lockstep.Trace.Basic

set_option autoImplicit false
set_option relaxedAutoImplicit false

/-!
What each way of extraction takes from a line: the text that has to be an address, and the text that
is shown.
-/

namespace Lockstep.Extractor

theorem keyed?_eq_some_iff {address shown text : Text} {key : Key} :
    keyed? address shown = some (key, text) ↔ Key.parse? address = some key ∧ shown = text := by
  rw [keyed?, Option.map_eq_some_iff]
  simp only [Prod.mk.injEq]
  constructor
  · rintro ⟨k, parsed, rfl, same⟩
    exact ⟨parsed, same⟩
  · rintro ⟨parsed, same⟩
    exact ⟨key, parsed, rfl, same⟩

theorem extract?_bare_eq_some_iff {line text : Text} {key : Key} :
    bare.extract? line = some (key, text) ↔
      Key.parse? line = some key ∧ Text.trim line = text := by
  rw [extract?, keyed?_eq_some_iff]

theorem extract?_addressed_eq_some_iff {excluded : Option Text} {line text : Text} {key : Key} :
    (addressed excluded).extract? line = some (key, text) ↔
      isExcluded excluded line = false ∧ ∃ address rest, line = address ++ ':' :: rest ∧
        ':' ∉ address ∧ Key.parse? address = some key ∧ Text.trim rest = text := by
  rw [extract?]
  split
  · rename_i exclusion
    simp [exclusion]
  · rename_i included
    simp only [Option.bind_eq_some_iff, Prod.exists, Text.splitFirst?_singleton_eq_some_iff,
      keyed?_eq_some_iff, included, true_and, and_assoc]

theorem extract?_delimited_eq_some_iff {opening closing line text : Text} {key : Key} :
    (delimited opening closing).extract? line = some (key, text) ↔
      ∃ before rest field after, Text.splitFirst? opening line = some (before, rest) ∧
        Text.splitFirst? closing rest = some (field, after) ∧ Key.parse? field = some key ∧
        Text.trim line = text := by
  simp only [extract?, between?]
  cases split : Text.splitFirst? opening line with
  | none => simp
  | some parts =>
    obtain ⟨before, rest⟩ := parts
    simp only [Option.bind_eq_some_iff, Option.map_eq_some_iff, keyed?_eq_some_iff, Prod.exists,
      Option.some.injEq, Prod.mk.injEq]
    constructor
    · rintro ⟨_, ⟨field, after, closed, rfl⟩, parsed, shown⟩
      exact ⟨before, rest, field, after, ⟨rfl, rfl⟩, closed, parsed, shown⟩
    · rintro ⟨_, _, field, after, ⟨rfl, rfl⟩, closed, parsed, shown⟩
      exact ⟨field, ⟨field, after, closed, rfl⟩, parsed, shown⟩

theorem extract?_pattern_eq_some_iff {regex : Regex} {line text : Text} {key : Key} :
    (pattern regex).extract? line = some (key, text) ↔
      ∃ field after, regex.firstGroup? line = some (field, after) ∧ Key.parse? field = some key ∧
        Text.trim line = text := by
  simp only [extract?, Option.bind_eq_some_iff, keyed?_eq_some_iff, Prod.exists]

def IsBuiltIn : Extractor → Prop
  | .custom _ => False
  | _ => True

theorem IsBuiltIn.canonical {e : Extractor} (h : e.IsBuiltIn) {line text : Text} {key : Key}
    (extracted : e.extract? line = some (key, text)) : key.Canonical := by
  cases e with
  | bare => exact Key.canonical_of_parse? (extract?_bare_eq_some_iff.mp extracted).1
  | delimited opening closing =>
    obtain ⟨_, _, _, _, _, _, parsed, _⟩ := extract?_delimited_eq_some_iff.mp extracted
    exact Key.canonical_of_parse? parsed
  | pattern regex =>
    obtain ⟨_, _, _, parsed, _⟩ := extract?_pattern_eq_some_iff.mp extracted
    exact Key.canonical_of_parse? parsed
  | addressed excluded =>
    obtain ⟨_, _, _, _, _, parsed, _⟩ := extract?_addressed_eq_some_iff.mp extracted
    exact Key.canonical_of_parse? parsed
  | custom read => exact h.elim

theorem IsBuiltIn.text_isInfix {e : Extractor} (h : e.IsBuiltIn) {line text : Text} {key : Key}
    (extracted : e.extract? line = some (key, text)) : text <:+: line := by
  cases e with
  | bare =>
    obtain ⟨_, rfl⟩ := extract?_bare_eq_some_iff.mp extracted
    exact Text.trim_isInfix line
  | delimited opening closing =>
    obtain ⟨_, _, _, _, _, _, _, rfl⟩ := extract?_delimited_eq_some_iff.mp extracted
    exact Text.trim_isInfix line
  | pattern regex =>
    obtain ⟨_, _, _, _, rfl⟩ := extract?_pattern_eq_some_iff.mp extracted
    exact Text.trim_isInfix line
  | addressed excluded =>
    obtain ⟨_, address, rest, rfl, _, _, rfl⟩ := extract?_addressed_eq_some_iff.mp extracted
    have behind : rest <:+: address ++ ':' :: rest :=
      ((List.suffix_cons ':' rest).trans (List.suffix_append address _)).isInfix
    exact (Text.trim_isInfix rest).trans behind
  | custom read => exact h.elim

/-!
Fields between delimiters. The field of a line is between the first opening delimiter and the first
closing one behind it, and nothing else in the line has a part in the key: what comes before the field
holds no opening delimiter, and a later field is not looked at even where the first is no address.
-/

/-- The parts of a line with a field: what is before the first opening delimiter, the field up to the
first closing delimiter behind it, and what comes after. Either delimiter may be empty, and they may
overlap each other or themselves. -/
structure HasField (opening closing line before field after : Text) : Prop where
  whole : line = before ++ (opening ++ (field ++ (closing ++ after)))
  opensFirst : ∀ before' rest, line = before' ++ (opening ++ rest) → before.length ≤ before'.length
  closesFirst : ∀ field' rest, field ++ (closing ++ after) = field' ++ (closing ++ rest) →
    field.length ≤ field'.length

variable {opening closing line before field after : Text}

theorem hasField_iff :
    HasField opening closing line before field after ↔
      ∃ rest, Text.splitFirst? opening line = some (before, rest) ∧
        Text.splitFirst? closing rest = some (field, after) := by
  constructor
  · intro h
    refine ⟨field ++ (closing ++ after), ?_, ?_⟩
    · exact Text.splitFirst?_eq_some_iff.mpr ⟨h.whole, h.opensFirst⟩
    · exact Text.splitFirst?_eq_some_iff.mpr ⟨rfl, h.closesFirst⟩
  · rintro ⟨rest, opened, closed⟩
    obtain ⟨whole, opensFirst⟩ := Text.splitFirst?_eq_some_iff.mp opened
    obtain ⟨rfl, closesFirst⟩ := Text.splitFirst?_eq_some_iff.mp closed
    exact ⟨whole, opensFirst, closesFirst⟩

theorem HasField.with_after (h : HasField opening closing line before field after)
    (other : Text) :
    HasField opening closing (before ++ (opening ++ (field ++ (closing ++ other)))) before field
      other := by
  obtain ⟨rest, opened, closed⟩ := hasField_iff.mp h
  refine hasField_iff.mpr ⟨field ++ (closing ++ other), ?_, ?_⟩
  · exact Text.splitFirst?_append opened _
  · exact Text.splitFirst?_append closed other

theorem HasField.extract?_eq (h : HasField opening closing line before field after) :
    (delimited opening closing).extract? line =
      (Key.parse? field).map fun key => (key, Text.trim line) := by
  obtain ⟨rest, opened, closed⟩ := hasField_iff.mp h
  simp only [extract?, between?, opened, closed, Option.map_some, Option.bind_some, keyed?]

theorem HasField.eq_nil (h : HasField opening [] line before field after) : field = [] := by
  have least := h.closesFirst [] (field ++ after) rfl
  exact List.eq_nil_of_length_eq_zero (Nat.le_zero.mp least)

/-- A record is read exactly off the lines that have a field between the delimiters which is an
address. Its key is that of the field, whatever comes after it, also where the field is no address and
others follow; and without a closing delimiter there is no record at all. -/
theorem extract?_delimited_grammar (opening closing line : Text) :
    (∀ key text, (delimited opening closing).extract? line = some (key, text) ↔
      ∃ before field after, HasField opening closing line before field after ∧
        Key.parse? field = some key ∧ Text.trim line = text) ∧
    (∀ before field after, HasField opening closing line before field after → ∀ other,
      (delimited opening closing).extract?
          (before ++ (opening ++ (field ++ (closing ++ other)))) =
        (Key.parse? field).map fun key =>
          (key, Text.trim (before ++ (opening ++ (field ++ (closing ++ other)))))) ∧
    (delimited opening []).extract? line = none := by
  refine ⟨?_, ?_, ?_⟩
  · intro key text
    rw [extract?_delimited_eq_some_iff]
    simp only [hasField_iff]
    constructor
    · rintro ⟨before, rest, field, after, opened, closed, parsed, shown⟩
      exact ⟨before, field, after, ⟨rest, opened, closed⟩, parsed, shown⟩
    · rintro ⟨before, field, after, ⟨rest, opened, closed⟩, parsed, shown⟩
      exact ⟨before, rest, field, after, opened, closed, parsed, shown⟩
  · intro before field after h other
    exact (h.with_after other).extract?_eq
  · rw [Option.eq_none_iff_forall_ne_some]
    rintro ⟨key, text⟩ extracted
    obtain ⟨before, rest, field, after, opened, closed, parsed, -⟩ :=
      extract?_delimited_eq_some_iff.mp extracted
    obtain rfl := (hasField_iff.mpr ⟨rest, opened, closed⟩).eq_nil
    cases parsed

theorem extract?_delimited_grammar_manyFields :
    (∃ after, HasField "==".toList "=".toList "a===10=20==".toList ['a'] [] after ∧
      (delimited "==".toList "=".toList).extract? "a===10=20==".toList = none) ∧
    ∃ after, HasField "pc=[".toList "]".toList " pc=[0X10] pc=[20]".toList [' '] "0X10".toList after ∧
      (delimited "pc=[".toList "]".toList).extract? " pc=[0X10] pc=[20]".toList =
        some (⟨['1', '0']⟩, "pc=[0X10] pc=[20]".toList) := by
  refine ⟨⟨"10=20==".toList, ?_⟩, ⟨" pc=[20]".toList, ?_⟩⟩
  · have field : HasField "==".toList "=".toList "a===10=20==".toList ['a'] [] "10=20==".toList :=
      hasField_iff.mpr ⟨"=10=20==".toList, rfl, rfl⟩
    exact ⟨field, (extract?_delimited_grammar _ _ _).2.1 _ _ _ field "10=20==".toList⟩
  · have field : HasField "pc=[".toList "]".toList " pc=[0X10] pc=[20]".toList [' '] "0X10".toList
        " pc=[20]".toList := hasField_iff.mpr ⟨"0X10] pc=[20]".toList, rfl, rfl⟩
    have parsed : Key.parse? "0X10".toList = some ⟨['1', '0']⟩ := by decide
    exact ⟨field, ((extract?_delimited_grammar _ _ _).1 _ _).mpr ⟨_, _, _, field, parsed, rfl⟩⟩

end Lockstep.Extractor
