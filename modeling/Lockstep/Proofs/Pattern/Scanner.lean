import Lockstep.Proofs.Pattern.HexField
import Lockstep.Proofs.Trace.Extraction

set_option autoImplicit false
set_option relaxedAutoImplicit false

/-!
The built-in patterns as scanners. A scanner goes through a line from left to right and stops where its
literal stands with blanks and a hexadecimal digit behind it; it takes all digits there. The two
built-in patterns cut exactly this out of every line, however often the literal occurs in it.
-/

namespace Lockstep.Pattern

/-- The digits behind a literal and blanks at the start of a text, of which there may be none. -/
def digitsBehind (literal t : Text) : Text :=
  match Text.after? literal t with
  | none => []
  | some rest => (rest.dropWhile Text.isBlank).takeWhile Text.isHexDigit

/-- The digits at the first place of a line where there are any behind the literal. -/
def scan? (literal : Text) : Text → Option Text
  | [] => none
  | c :: t =>
    if digitsBehind literal (c :: t) = [] then scan? literal t
    else some (digitsBehind literal (c :: t))

variable {literal line t : Text}

theorem takeWhile_digits {digits after : Text} (hex : ∀ c ∈ digits, Text.isHexDigit c = true)
    (ended : ∀ c ∈ after.head?, Text.isHexDigit c = false) :
    (digits ++ after).takeWhile Text.isHexDigit = digits := by
  have stop : after.takeWhile Text.isHexDigit = [] := by
    cases after with
    | nil => rfl
    | cons c after => exact List.takeWhile_cons_of_neg (by simp [ended c rfl])
  rw [List.takeWhile_append_of_pos hex, stop, List.append_nil]

theorem group?_of_fieldAt {seen : Seen} (h : fieldAt literal t = some seen) :
    seen.group?.map Prod.fst = some (digitsBehind literal t) ∧ digitsBehind literal t ≠ [] := by
  obtain ⟨rest, found, digitsSeen⟩ := Option.bind_eq_some_iff.mp h
  obtain ⟨digits, after, split, nonempty, hex, ended, rfl⟩ := digitsAt_eq_some_iff.mp digitsSeen
  have taken : digitsBehind literal t = digits := by
    simp only [digitsBehind, found, split, takeWhile_digits hex ended]
  rw [taken, Seen.group?_append]
  exact ⟨rfl, nonempty⟩

theorem digitsBehind_of_fieldAt (h : fieldAt literal t = none) : digitsBehind literal t = [] := by
  rw [fieldAt, Option.bind_eq_none_iff] at h
  unfold digitsBehind
  split
  · rfl
  · rename_i rest found
    have nothing := h rest found
    cases behind : rest.dropWhile Text.isBlank with
    | nil => rfl
    | cons c u =>
      rw [behind, digitsAt] at nothing
      apply List.takeWhile_cons_of_neg
      intro digit
      rw [if_pos digit] at nothing
      cases nothing

theorem fieldAt_nil (literal : Text) : fieldAt literal [] = none := by
  cases literal <;> rfl

theorem leftmost_fieldAt (literal line : Text) :
    ((leftmost (fieldAt literal) line).bind Seen.group?).map Prod.fst = scan? literal line := by
  induction line with
  | nil =>
    rw [leftmost, fieldAt_nil]
    rfl
  | cons c t ih =>
    rw [leftmost, scan?]
    cases here : fieldAt literal (c :: t) with
    | none => rw [Option.none_or, ih, if_pos (digitsBehind_of_fieldAt here)]
    | some seen =>
      obtain ⟨text, nonempty⟩ := group?_of_fieldAt here
      rw [Option.some_or, Option.bind_some, text, if_neg nonempty]

theorem firstGroup?_fieldRegex (literal line : Text) :
    ((fieldRegex literal).firstGroup? line).map Prod.fst = scan? literal line := by
  rw [← leftmost_fieldAt, ← search_fieldMatcher]
  rfl

theorem scan?_eq_some_iff {digits : Text} :
    scan? literal line = some digits ↔
      ∃ before blanks after, line = before ++ (literal ++ (blanks ++ (digits ++ after))) ∧
        HexField literal before blanks digits after := by
  simp only [← firstGroup?_fieldRegex, Option.map_eq_some_iff, Prod.exists,
    firstGroup?_fieldRegex_eq_some_iff]
  constructor
  · rintro ⟨_, after, ⟨before, blanks, split, field⟩, rfl⟩
    exact ⟨before, blanks, after, split, field⟩
  · rintro ⟨before, blanks, after, split, field⟩
    exact ⟨digits, after, ⟨before, blanks, split, field⟩, rfl⟩

theorem isSome_scan?_iff :
    (scan? literal line).isSome = true ↔
      ∃ before blanks digit after, line = before ++ (literal ++ (blanks ++ digit :: after)) ∧
        (∀ c ∈ blanks, Text.isBlank c = true) ∧ Text.isHexDigit digit = true := by
  have found : (scan? literal line).isSome = (leftmost (fieldAt literal) line).isSome := by
    rw [← leftmost_fieldAt]
    cases best : leftmost (fieldAt literal) line with
    | none => rfl
    | some seen =>
      obtain ⟨before, rest, -, here, -⟩ := leftmost_eq_some_iff.mp best
      rw [Option.bind_some, (group?_of_fieldAt here).1]
      rfl
  simp only [found, isSome_leftmost_iff, isSome_fieldAt_iff]
  constructor
  · rintro ⟨before, rest, rfl, blanks, digit, after, rfl, blank, hex⟩
    exact ⟨before, blanks, digit, after, rfl, blank, hex⟩
  · rintro ⟨before, blanks, digit, after, rfl, blank, hex⟩
    exact ⟨before, _, rfl, blanks, digit, after, rfl, blank, hex⟩

theorem HexField.denotes {before blanks digits after : Text}
    (h : HexField literal before blanks digits after) :
    digits.Denotes (Text.hexNumber digits) :=
  Key.denotes_of_hex [] (by decide) h.nonempty h.hex

theorem HexField.ofText_eq {before blanks digits after : Text}
    (h : HexField literal before blanks digits after) :
    Key.ofText digits = Key.ofNumber (Text.hexNumber digits) :=
  Key.ofText_of_denotes h.denotes

theorem extract?_eq_scan (literal line : Text) :
    (Extractor.pattern (fieldRegex literal)).extract? line =
      (scan? literal line).map fun digits => (Key.ofText digits, Text.trim line) := by
  rw [Extractor.extract?, ← firstGroup?_fieldRegex]
  cases cut : (fieldRegex literal).firstGroup? line with
  | none => rfl
  | some group =>
    obtain ⟨digits, after⟩ := group
    obtain ⟨before, blanks, -, field⟩ := firstGroup?_fieldRegex_eq_some_iff.mp cut
    have parsed : Key.parse? digits = some (Key.ofNumber (Text.hexNumber digits)) :=
      Key.parse?_eq_some_iff.mpr ⟨_, field.denotes, rfl⟩
    simp only [Option.bind_some, Extractor.keyed?, parsed, Option.map_some, field.ofText_eq]

/-- The built-in patterns do as a scanner does. A line has a record exactly when the literal of the
pattern stands in it with blanks and a hexadecimal digit behind it. The key is then that of all the
digits behind the leftmost literal of this kind, and the text is the line without blanks around it. -/
theorem builtIn_extract?_eq_scan :
    ∀ source literal,
      (source, literal) ∈ [(jointText, "[joint]".toList), (counterText, "pc:".toList)] →
      ∃ e, Extractor.ofPattern? source = .ok e ∧ ∀ line,
        e.extract? line =
            (scan? literal line).map (fun digits => (Key.ofText digits, Text.trim line)) ∧
          ((e.extract? line).isSome = true ↔
            ∃ before blanks digit after, line = before ++ (literal ++ (blanks ++ digit :: after)) ∧
              (∀ c ∈ blanks, Text.isBlank c = true) ∧ Text.isHexDigit digit = true) ∧
          ∀ key text, e.extract? line = some (key, text) ↔
            ∃ before blanks digits after,
              line = before ++ (literal ++ (blanks ++ (digits ++ after))) ∧
              HexField literal before blanks digits after ∧
              Key.ofNumber (Text.hexNumber digits) = key ∧ Text.trim line = text := by
  intro source literal known
  have compiled : Extractor.ofPattern? source = .ok (.pattern (fieldRegex literal)) := by
    simp only [List.mem_cons, List.not_mem_nil, or_false, Prod.mk.injEq] at known
    rcases known with ⟨rfl, rfl⟩ | ⟨rfl, rfl⟩
    · exact ofPattern?_of_compile compile_jointText
    · exact ofPattern?_of_compile compile_counterText
  refine ⟨_, compiled, ?_⟩
  intro line
  have scanned := extract?_eq_scan literal line
  refine ⟨scanned, ?_, ?_⟩
  · rw [scanned, Option.isSome_map, isSome_scan?_iff]
  · intro key text
    simp only [scanned, Option.map_eq_some_iff, Prod.mk.injEq, scan?_eq_some_iff]
    constructor
    · rintro ⟨digits, ⟨before, blanks, after, split, field⟩, rfl, shown⟩
      exact ⟨before, blanks, digits, after, split, field, field.ofText_eq.symm, shown⟩
    · rintro ⟨before, blanks, digits, after, split, field, rfl, shown⟩
      exact ⟨digits, ⟨before, blanks, after, split, field⟩, field.ofText_eq, shown⟩

theorem builtIn_extract?_eq_scan_skipped :
    ∃ e, (counterText, "pc:".toList) ∈
        [(jointText, "[joint]".toList), (counterText, "pc:".toList)] ∧
      Extractor.ofPattern? counterText = .ok e ∧
      scan? "pc:".toList "pc: pc:g pc:\u3000\t0C0x pc:4 ".toList = some "0C0".toList ∧
      e.extract? "pc: pc:g pc:\u3000\t0C0x pc:4 ".toList =
        some (⟨['c', '0']⟩, "pc: pc:g pc:\u3000\t0C0x pc:4".toList) := by
  have known : (counterText, "pc:".toList) ∈
      [(jointText, "[joint]".toList), (counterText, "pc:".toList)] := by simp
  obtain ⟨e, compiled, scans⟩ := builtIn_extract?_eq_scan _ _ known
  have scanned : scan? "pc:".toList "pc: pc:g pc:\u3000\t0C0x pc:4 ".toList = some "0C0".toList := by
    decide
  refine ⟨e, known, compiled, scanned, ?_⟩
  rw [(scans _).1, scanned]
  decide

end Lockstep.Pattern
