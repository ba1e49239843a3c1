import Mathlib.Data.List.TakeWhile
import Lockstep.Native
import Lockstep.Proofs.Pattern.Row
import Lockstep.Proofs.Text.Numeral
import Lockstep.Proofs.Text.Search

set_option autoImplicit false
set_option relaxedAutoImplicit false

/-!
The built-in patterns. Both look for a literal, blanks, and hexadecimal digits; the field they cut
out of a line is all the digits after the leftmost literal that digits follow.
-/

namespace Lockstep.Pattern

def hexClass : CharSet := [⟨48, 57⟩, ⟨65, 70⟩, ⟨97, 102⟩]

theorem hexClass_contains (c : Char) : hexClass.contains c = Text.isHexDigit c := by
  rw [Bool.eq_iff_iff, Text.isHexDigit_iff_toNat]
  simp only [hexClass, CharSet.contains, CharRange.contains, List.any_cons, List.any_nil,
    Bool.or_eq_true, Bool.and_eq_true, decide_eq_true_eq, Bool.false_eq_true, or_false]
  omega

theorem singleton_contains (c d : Char) : (CharSet.singleton c).contains d = decide (c = d) := by
  rw [Bool.eq_iff_iff, decide_eq_true_eq]
  simp only [CharSet.singleton, CharSet.contains, CharRange.contains, List.any_cons, List.any_nil,
    Bool.or_eq_true, Bool.and_eq_true, decide_eq_true_eq, Bool.false_eq_true, or_false]
  constructor
  · rintro ⟨low, high⟩
    exact Char.toNat_inj.mp (Nat.le_antisymm low high)
  · rintro rfl
    exact ⟨Nat.le_refl _, Nat.le_refl _⟩

def digitsMatcher : Matcher :=
  .seq .enter (.seq (.run true hexClass) .leave)

/-- The matcher of a literal before a group of hexadecimal digits, with blanks between. -/
def fieldMatcher (literal : Text) : Matcher :=
  literal.foldr (fun c m => .seq (.one (.singleton c)) m)
    (.seq (.alt (.run true Text.blanks) .empty) digitsMatcher)

/-- The regular expression of a literal before a group of hexadecimal digits. -/
def fieldRegex (literal : Text) : Regex :=
  (fieldMatcher literal).regex 1

set_option maxRecDepth 20000 in
theorem compile_jointText : compile jointText = .ok (fieldRegex "[joint]".toList) := rfl

set_option maxRecDepth 20000 in
theorem compile_counterText : compile counterText = .ok (fieldRegex "pc:".toList) := rfl

theorem ofPattern?_of_compile {source literal : Text}
    (compiled : compile source = .ok (fieldRegex literal)) :
    Extractor.ofPattern? source = .ok (.pattern (fieldRegex literal)) := by
  have regex : Library.native.regex source = .ok (fieldRegex literal) := by
    simp only [Library.regex, Library.native, compiled]
    rfl
  rw [Extractor.ofPattern?, Library.extractor?, regex]

@[simp]
theorem Seen.group?_append (digits after : Text) :
    Seen.group? ⟨some (digits ++ after), some after⟩ = some (digits, after) := by
  simp [Seen.group?]

/-- What is seen of a group of digits at the start of a text: all of them. -/
def digitsAt : Text → Option Seen
  | [] => none
  | c :: t =>
    if Text.isHexDigit c then some ⟨some (c :: t), some (t.dropWhile Text.isHexDigit)⟩ else none

/-- What is seen of a group of digits behind a literal and blanks at the start of a text. -/
def fieldAt (literal t : Text) : Option Seen :=
  (Text.after? literal t).bind fun rest => digitsAt (rest.dropWhile Text.isBlank)

theorem row_digitsMatcher (before : Option Char) (line : Text) :
    digitsMatcher.row (Place.along before line) (rowOf (fun _ => some ⟨none, none⟩) line) =
      rowOf digitsAt line := by
  have digits : hexClass.contains = Text.isHexDigit := funext hexClass_contains
  rw [digitsMatcher, Matcher.row_seq, Matcher.row_seq, Matcher.ActsBy.leave, Matcher.ActsBy.run,
    Matcher.ActsBy.enter]
  congr 1
  funext t
  cases t with
  | nil => rfl
  | cons c t =>
    simp only [takeOne, hexClass_contains]
    rw [takeRun_of_isSome (fun _ => rfl), digits, digitsAt]
    split <;> rfl

theorem digitsAt_of_blank {c : Char} (blank : Text.blanks.contains c = true) (t : Text) :
    digitsAt (c :: t) = none := by
  rw [digitsAt, if_neg]
  intro digit
  have solid := Text.isBlank_of_isHexDigit digit
  rw [Text.isBlank, blank] at solid
  cases solid

theorem row_blanks_digits (before : Option Char) (line : Text) :
    (Matcher.seq (.alt (.run true Text.blanks) .empty) digitsMatcher).row
        (Place.along before line) (rowOf (fun _ => some ⟨none, none⟩) line) =
      rowOf (fun t => digitsAt (t.dropWhile Text.isBlank)) line := by
  rw [Matcher.row_seq, row_digitsMatcher, Matcher.ActsBy.alt (.run Text.blanks) .empty]
  congr 1
  funext t
  cases t with
  | nil => rfl
  | cons c t => exact takeRun_of_none (fun c t blank => digitsAt_of_blank blank t) (c :: t)

theorem row_fieldMatcher (literal : Text) (before : Option Char) (line : Text) :
    (fieldMatcher literal).row (Place.along before line) (rowOf (fun _ => some ⟨none, none⟩) line) =
      rowOf (fieldAt literal) line := by
  induction literal with
  | nil => exact row_blanks_digits before line
  | cons c literal ih =>
    rw [fieldMatcher, List.foldr_cons, ← fieldMatcher, Matcher.row_seq, ih, Matcher.ActsBy.one]
    congr 1
    funext t
    cases t with
    | nil => rfl
    | cons d t =>
      rw [takeOne, singleton_contains, fieldAt, fieldAt, Text.after?]
      by_cases same : c = d
      · simp [same]
      · simp [same]

theorem search_fieldMatcher (literal line : Text) :
    (fieldMatcher literal).search line = leftmost (fieldAt literal) line :=
  Matcher.search_eq_leftmost (row_fieldMatcher literal) line

theorem digitsAt_eq_some_iff {t : Text} {seen : Seen} :
    digitsAt t = some seen ↔
      ∃ digits after, t = digits ++ after ∧ digits ≠ [] ∧
        (∀ c ∈ digits, Text.isHexDigit c = true) ∧
        (∀ c ∈ after.head?, Text.isHexDigit c = false) ∧
        seen = ⟨some (digits ++ after), some after⟩ := by
  cases t with
  | nil =>
    rw [digitsAt]
    constructor
    · rintro ⟨⟩
    · rintro ⟨digits, after, split, nonempty, -⟩
      exact absurd (List.append_eq_nil_iff.mp split.symm).1 nonempty
  | cons c t =>
    rw [digitsAt, Option.ite_none_right_eq_some, Option.some.injEq]
    constructor
    · rintro ⟨digit, rfl⟩
      have split : c :: t = c :: t.takeWhile Text.isHexDigit ++ t.dropWhile Text.isHexDigit := by
        rw [List.cons_append, List.takeWhile_append_dropWhile]
      refine ⟨c :: t.takeWhile Text.isHexDigit, t.dropWhile Text.isHexDigit, split,
        List.cons_ne_nil _ _, ?_, ?_, by rw [← split]⟩
      · intro d hd
        rcases List.mem_cons.mp hd with rfl | hd
        · exact digit
        · exact List.mem_takeWhile_imp hd
      · intro d hd
        have stopped := List.head?_dropWhile_not Text.isHexDigit t
        rw [hd] at stopped
        simpa using stopped
    · rintro ⟨digits, after, split, nonempty, hex, ended, rfl⟩
      obtain ⟨d, ds, rfl⟩ := List.exists_cons_of_ne_nil nonempty
      obtain ⟨rfl, rfl⟩ := List.cons.inj split
      refine ⟨hex c List.mem_cons_self, ?_⟩
      have rest : (ds ++ after).dropWhile Text.isHexDigit = after := by
        rw [List.dropWhile_append_of_pos fun d hd => hex d (List.mem_cons_of_mem c hd)]
        cases after with
        | nil => rfl
        | cons a after => exact List.dropWhile_cons_of_neg (by simp [ended a rfl])
      exact congrArg (fun u => (⟨some (c :: (ds ++ after)), some u⟩ : Seen)) rest

/-- A group of digits is seen behind a literal and blanks where a text begins with these, and the
digits end where no digit follows. -/
theorem fieldAt_eq_some_iff {literal t : Text} {seen : Seen} :
    fieldAt literal t = some seen ↔
      ∃ blanks digits after, t = literal ++ (blanks ++ (digits ++ after)) ∧
        (∀ c ∈ blanks, Text.isBlank c = true) ∧ digits ≠ [] ∧
        (∀ c ∈ digits, Text.isHexDigit c = true) ∧
        (∀ c ∈ after.head?, Text.isHexDigit c = false) ∧
        seen = ⟨some (digits ++ after), some after⟩ := by
  simp only [fieldAt, Option.bind_eq_some_iff, Text.after?_eq_some_iff]
  constructor
  · rintro ⟨rest, rfl, found⟩
    obtain ⟨digits, after, split, digitsSeen⟩ := digitsAt_eq_some_iff.mp found
    refine ⟨rest.takeWhile Text.isBlank, digits, after, ?_, ?_, digitsSeen⟩
    · rw [← split, List.takeWhile_append_dropWhile]
    · exact fun c hc => List.mem_takeWhile_imp hc
  · rintro ⟨blanks, digits, after, rfl, blank, nonempty, hex, ended, rfl⟩
    refine ⟨_, rfl, ?_⟩
    have first : (digits ++ after).dropWhile Text.isBlank = digits ++ after := by
      obtain ⟨d, ds, rfl⟩ := List.exists_cons_of_ne_nil nonempty
      exact List.dropWhile_cons_of_neg (by
        simp [Text.isBlank_of_isHexDigit (hex d List.mem_cons_self)])
    rw [List.dropWhile_append_of_pos blank, first]
    exact digitsAt_eq_some_iff.mpr ⟨digits, after, rfl, nonempty, hex, ended, rfl⟩

theorem isSome_fieldAt_iff {literal t : Text} :
    (fieldAt literal t).isSome = true ↔
      ∃ blanks c rest, t = literal ++ (blanks ++ c :: rest) ∧
        (∀ b ∈ blanks, Text.isBlank b = true) ∧ Text.isHexDigit c = true := by
  rw [Option.isSome_iff_exists]
  constructor
  · rintro ⟨seen, found⟩
    obtain ⟨blanks, digits, after, rfl, blank, nonempty, hex, -, -⟩ :=
      fieldAt_eq_some_iff.mp found
    obtain ⟨c, digits, rfl⟩ := List.exists_cons_of_ne_nil nonempty
    exact ⟨blanks, c, digits ++ after, rfl, blank, hex c List.mem_cons_self⟩
  · rintro ⟨blanks, c, rest, rfl, blank, digit⟩
    rw [fieldAt, Text.after?_eq_some_iff.mpr rfl, Option.bind_some,
      List.dropWhile_append_of_pos blank, List.dropWhile_cons_of_neg (by
        simp [Text.isBlank_of_isHexDigit digit]), digitsAt, if_pos digit]
    exact ⟨_, rfl⟩

/-- Where the field of a line is: behind the leftmost literal that blanks and digits follow, all
digits there. -/
structure HexField (literal before blanks digits after : Text) : Prop where
  blank : ∀ c ∈ blanks, Text.isBlank c = true
  nonempty : digits ≠ []
  hex : ∀ c ∈ digits, Text.isHexDigit c = true
  ended : ∀ c ∈ after.head?, Text.isHexDigit c = false
  leftmost : ∀ before' blanks' c rest,
    before ++ (literal ++ (blanks ++ (digits ++ after))) =
      before' ++ (literal ++ (blanks' ++ c :: rest)) →
    (∀ b ∈ blanks', Text.isBlank b = true) → Text.isHexDigit c = true →
    before.length ≤ before'.length

/-- Other digits in the place of those of a field are the field of the new line. No earlier literal
comes into play, since the field's literal begins with a character that literal, blanks and digits
of an earlier field would have to lack. -/
theorem HexField.respell {x : Char} {letters before blanks digits digits' after : Text}
    (h : HexField (x :: letters) before blanks digits after) (once : x ∉ letters)
    (solid : Text.isBlank x = false) (noDigit : Text.isHexDigit x = false) (nonempty : digits' ≠ [])
    (hex : ∀ c ∈ digits', Text.isHexDigit c = true) :
    HexField (x :: letters) before blanks digits' after := by
  refine ⟨h.blank, nonempty, hex, h.ended, ?_⟩
  intro before' blanks' c rest split blank' digit
  apply Nat.le_of_not_lt
  intro earlier
  have front : before' ++ [x] <+: before ++ (x :: letters ++ (blanks ++ (digits' ++ after))) := by
    rw [split]
    exact ⟨letters ++ (blanks' ++ c :: rest), by simp⟩
  have longer : (before' ++ [x]).length ≤ before.length := by
    rw [List.length_append, List.length_singleton]
    omega
  obtain ⟨u, rfl⟩ := List.prefix_of_prefix_length_le front (List.prefix_append _ _) longer
  have absent : x ∉ letters ++ (blanks' ++ [c]) := by
    simp only [List.mem_append, List.mem_singleton, not_or]
    refine ⟨once, ?_, ?_⟩
    · intro hx
      rw [blank' x hx] at solid
      cases solid
    · rintro rfl
      rw [digit] at noDigit
      cases noDigit
  have behind : letters ++ (blanks' ++ [c]) ++ rest =
      u ++ x :: (letters ++ (blanks ++ (digits' ++ after))) := by
    simpa using split.symm
  obtain ⟨v, rfl⟩ := Text.prefix_of_append_eq_append_cons behind absent
  have least := h.leftmost before' blanks' c (v ++ (x :: letters ++ (blanks ++ (digits ++ after))))
    (by simp) blank' digit
  simp only [List.length_append, List.length_cons, List.length_nil] at least
  omega

theorem search_fieldMatcher_eq_some_iff {literal line : Text} {seen : Seen} :
    (fieldMatcher literal).search line = some seen ↔
      ∃ before blanks digits after, line = before ++ (literal ++ (blanks ++ (digits ++ after))) ∧
        HexField literal before blanks digits after ∧
        seen = ⟨some (digits ++ after), some after⟩ := by
  rw [search_fieldMatcher, leftmost_eq_some_iff]
  constructor
  · rintro ⟨before, rest, rfl, found, least⟩
    obtain ⟨blanks, digits, after, rfl, blank, nonempty, hex, ended, rfl⟩ :=
      fieldAt_eq_some_iff.mp found
    refine ⟨before, blanks, digits, after, rfl, ⟨blank, nonempty, hex, ended, ?_⟩, rfl⟩
    intro before' blanks' c rest split blank' digit
    exact least before' _ split (isSome_fieldAt_iff.mpr ⟨blanks', c, rest, rfl, blank', digit⟩)
  · rintro ⟨before, blanks, digits, after, rfl, ⟨blank, nonempty, hex, ended, least⟩, rfl⟩
    refine ⟨before, _, rfl, ?_, ?_⟩
    · exact fieldAt_eq_some_iff.mpr ⟨blanks, digits, after, rfl, blank, nonempty, hex, ended, rfl⟩
    · intro before' rest' split some
      obtain ⟨blanks', c, rest, rfl, blank', digit⟩ := isSome_fieldAt_iff.mp some
      exact least before' blanks' c rest split blank' digit

theorem firstGroup?_fieldRegex_eq_some_iff {literal line digits after : Text} :
    (fieldRegex literal).firstGroup? line = some (digits, after) ↔
      ∃ before blanks, line = before ++ (literal ++ (blanks ++ (digits ++ after))) ∧
        HexField literal before blanks digits after := by
  simp only [fieldRegex, Matcher.regex, Option.bind_eq_some_iff, search_fieldMatcher_eq_some_iff]
  constructor
  · rintro ⟨_, ⟨before, blanks, ds, rest, rfl, field, rfl⟩, group⟩
    obtain ⟨rfl, rfl⟩ : ds = digits ∧ rest = after := by simpa using group
    exact ⟨before, blanks, rfl, field⟩
  · rintro ⟨before, blanks, rfl, field⟩
    exact ⟨_, ⟨before, blanks, digits, after, rfl, field, rfl⟩, Seen.group?_append digits after⟩

end Lockstep.Pattern
