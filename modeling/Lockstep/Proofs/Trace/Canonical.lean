import Lockstep.Proofs.Trace.Spelling
import Mathlib.Dynamics.FixedPoints.Basic

set_option autoImplicit false
set_option relaxedAutoImplicit false

/-!
Canonical forms. A text that spells a number has the numeral of that number as its key, and such a key
is its own key, with or without the lead it is shown with. A text that spells no number has a key too,
but not always one that is its own: zeros go last, so that a blank right behind them is left in front,
and only a second pass takes it away.
-/

namespace Lockstep

namespace Text

theorem spells_iff_behind {t : Text} {n : Nat} :
    Spells leads t n ↔ Key.dropLead t ≠ [] ∧ (∀ c ∈ Key.dropLead t, isHexDigit c = true) ∧
      hexNumber (Key.dropLead t) = n := by
  constructor
  · rintro ⟨lead, hlead, digits, rfl, nonempty, hex, number⟩
    rw [Key.dropLead_append hlead hex]
    exact ⟨nonempty, hex, number⟩
  · rintro ⟨nonempty, hex, number⟩
    obtain ⟨lead, hlead, behind⟩ := Key.exists_lead_eq t
    exact ⟨lead, hlead, Key.dropLead t, behind, nonempty, hex, number⟩

theorem denotes_iff_spells_trim {t : Text} {n : Nat} : t.Denotes n ↔ Spells leads t.trim n := by
  rw [Key.denotes_iff_behind, spells_iff_behind]

def upperLetters : Text := "ABCDEFGHIJKLMNOPQRSTUVWXYZ".toList

theorem toLower_eq_or_mem (c : Char) : c.toLower = c ∨ c ∈ upperLetters := by
  unfold Char.toLower
  split
  · rename_i bounds
    right
    have lower : 65 ≤ c.toNat := bounds.1
    have upper : c.toNat ≤ 90 := bounds.2
    have named : Char.ofNat c.toNat = c := Char.ofNat_toNat c
    revert named
    generalize c.toNat = n at lower upper
    rintro rfl
    interval_cases n <;> decide
  · exact .inl rfl

theorem apply_toLower {α : Type} [DecidableEq α] {f : Char → α}
    (kept : upperLetters.all (fun c => f c.toLower == f c) = true) (c : Char) :
    f c.toLower = f c := by
  rcases toLower_eq_or_mem c with same | letter
  · rw [same]
  · exact eq_of_beq (List.all_eq_true.mp kept c letter)

theorem isBlank_toLower (c : Char) : isBlank c.toLower = isBlank c :=
  apply_toLower (by decide) c

theorem toLower_toLower (c : Char) : c.toLower.toLower = c.toLower :=
  apply_toLower (by decide) c

theorem toLower_eq_zero_iff (c : Char) : c.toLower = '0' ↔ c = '0' := by
  have kept : decide (c.toLower = '0') = decide (c = '0') :=
    apply_toLower (f := fun c => decide (c = '0')) (by decide) c
  simpa using kept

/-- A text has a gap when a blank comes right behind its padding: but for blanks around it, the text is
at most one lead, blanks, zeros, a blank, and what follows. -/
def HasGap (t : Text) : Prop :=
  ∃ lead ∈ leads, ∃ (blanks zeros rest : Text) (b : Char),
    t.trim = lead ++ (blanks ++ (zeros ++ b :: rest)) ∧ (∀ c ∈ blanks, isBlank c = true) ∧
      zeros ≠ [] ∧ (∀ c ∈ zeros, c = '0') ∧ isBlank b = true

end Text

namespace Key

theorem denotes_of_mem_forms (n : Nat) {t : Text}
    (ht : t ∈ [(ofNumber n).digits, (ofNumber n).display]) : t.Denotes n := by
  have lower : Text.lowerDigits.all Text.isHexDigit = true := by decide
  have canonical := canonical_ofNumber n
  have hex : ∀ c ∈ (ofNumber n).digits, Text.isHexDigit c = true := by
    intro c hc
    exact List.all_eq_true.mp lower c (canonical.lower c hc)
  have number : Text.hexNumber (ofNumber n).digits = n := Text.hexNumber_hexadecimal n
  have bare := denotes_of_hex [] (by decide) canonical.nonempty hex
  have shown := denotes_of_hex ['0', 'x'] (by decide) canonical.nonempty hex
  rw [number] at bare shown
  simp only [List.mem_cons, List.not_mem_nil, or_false] at ht
  rcases ht with rfl | rfl
  · exact bare
  · exact shown

theorem parse?_of_denotes {t : Text} {n : Nat} (h : t.Denotes n) : parse? t = some (ofNumber n) :=
  parse?_eq_some_iff.mpr ⟨n, h, rfl⟩

/-- A text is accepted exactly when it spells a number but for blanks around it. Its key is then the
numeral of the number, in lower case and without padding, so that accepted texts have one key exactly
when they spell one number; and canonicalization leaves that key as it is, in digits or as it is shown.
-/
theorem parse?_faithful (raw : Text) :
    ((parse? raw).isSome ↔ ∃ n, Text.Spells Text.leads raw.trim n) ∧
    (∀ n, Text.Spells Text.leads raw.trim n →
      parse? raw = some (ofNumber n) ∧ ofText raw = ofNumber n ∧
        (ofNumber n).Canonical ∧ Text.hexNumber (ofNumber n).digits = n ∧
        ∀ t ∈ [(ofNumber n).digits, (ofNumber n).display],
          ofText t = ofNumber n ∧ parse? t = some (ofNumber n)) ∧
    ∀ other m n, Text.Spells Text.leads raw.trim m → Text.Spells Text.leads (Text.trim other) n →
      (parse? raw = parse? other ↔ m = n) := by
  simp only [← Text.denotes_iff_spells_trim]
  refine ⟨?_, ?_, ?_⟩
  · simp only [Option.isSome_iff_exists, parse?_eq_some_iff]
    constructor
    · rintro ⟨k, n, denotes, -⟩
      exact ⟨n, denotes⟩
    · rintro ⟨n, denotes⟩
      exact ⟨ofNumber n, n, denotes, rfl⟩
  · intro n denotes
    refine ⟨parse?_of_denotes denotes, ofText_of_denotes denotes, canonical_ofNumber n,
      Text.hexNumber_hexadecimal n, ?_⟩
    intro t ht
    have same : t.Denotes n := denotes_of_mem_forms n ht
    exact ⟨ofText_of_denotes same, parse?_of_denotes same⟩
  · intro other m n hm hn
    rw [parse?_of_denotes hm, parse?_of_denotes hn, Option.some.injEq]
    exact ⟨ofNumber_injective, congrArg ofNumber⟩

/-- What is left of a text without blanks around it, one lead, blanks behind that, and padding. -/
def significant (raw : Text) : Text :=
  dropZeros (Text.trimStart (dropLead (Text.trim raw)))

theorem ofText_of_significant_eq_nil {raw : Text} (h : significant raw = []) :
    ofText raw = if raw.trim = [] then ⟨[]⟩ else ⟨['0']⟩ := by
  rw [significant] at h
  simp only [ofText, h, List.isEmpty_iff]

theorem ofText_of_significant_ne_nil {raw : Text} (h : significant raw ≠ []) :
    ofText raw = ⟨(significant raw).map Char.toLower⟩ := by
  rw [significant] at h ⊢
  simp only [ofText]

theorem dropLead_suffix (t : Text) : dropLead t <:+ t := by
  obtain ⟨lead, -, behind⟩ := exists_lead_eq t
  exact ⟨lead, behind.symm⟩

theorem significant_suffix (raw : Text) : significant raw <:+ raw.trim :=
  ((List.dropWhile_suffix _).trans (List.dropWhile_suffix _)).trans (dropLead_suffix _)

theorem not_blank_of_getLast?_significant {raw : Text} {c : Char}
    (h : (significant raw).getLast? = some c) : Text.isBlank c = false := by
  obtain ⟨before, split⟩ := significant_suffix raw
  apply Text.not_blank_of_getLast?_trim (t := raw)
  rw [← split, List.getLast?_append, h, Option.some_or]

theorem digits_ofText (raw : Text) :
    ((ofText raw).digits.head? = some '0' → (ofText raw).digits = ['0']) ∧
      (ofText raw).digits.map Char.toLower = (ofText raw).digits ∧
      ∀ c, (ofText raw).digits.getLast? = some c → Text.isBlank c = false := by
  by_cases h : significant raw = []
  · rw [ofText_of_significant_eq_nil h]
    split
    · simp
    · refine ⟨fun _ => rfl, by decide, ?_⟩
      intro c hc
      obtain rfl := Option.some.inj hc
      decide
  · rw [ofText_of_significant_ne_nil h]
    refine ⟨?_, ?_, ?_⟩
    · intro zero
      simp only [List.head?_map, Option.map_eq_some_iff, Text.toLower_eq_zero_iff] at zero
      obtain ⟨_, head, rfl⟩ := zero
      exact absurd head (head?_dropZeros_ne_zero _)
    · simp only [List.map_map, Function.comp_def, Text.toLower_toLower]
    · intro c hc
      simp only [List.getLast?_map, Option.map_eq_some_iff] at hc
      obtain ⟨d, last, rfl⟩ := hc
      rw [Text.isBlank_toLower]
      exact not_blank_of_getLast?_significant last

theorem ofText_eq_of_settled {t : Text} (trimmed : t.trim = t)
    (unpadded : t.head? = some '0' → t = ['0']) (lower : t.map Char.toLower = t) :
    ofText t = ⟨t⟩ := by
  match t with
  | [] => rfl
  | c :: cs =>
    by_cases zero : c = '0'
    · subst zero
      rw [unpadded rfl]
      decide
    · have unled : dropLead (c :: cs) = c :: cs := by
        apply dropLead_eq_self
        intro d u h
        exact absurd (List.cons.inj h).1 zero
      have kept : significant (c :: cs) = c :: cs := by
        rw [significant, trimmed, unled,
          Text.trimStart_of_head? (Text.trim_eq_self_iff.mp trimmed).1, dropZeros,
          List.dropWhile_cons_of_neg (by simp [zero])]
      rw [ofText_of_significant_ne_nil (by rw [kept]; exact List.cons_ne_nil c cs), kept, lower]

theorem length_digits_ofText_le (t : Text) : (ofText t).digits.length ≤ t.trim.length := by
  by_cases h : significant t = []
  · rw [ofText_of_significant_eq_nil h]
    split
    · exact Nat.zero_le _
    · rename_i nonempty
      exact List.length_pos_of_ne_nil nonempty
  · rw [ofText_of_significant_ne_nil h, List.length_map]
    exact (significant_suffix t).length_le

theorem trim_eq_of_ofText_eq {t : Text} (own : ofText t = ⟨t⟩) : t.trim = t := by
  have bound := length_digits_ofText_le t
  rw [own] at bound
  exact (Text.trim_isInfix t).eq_of_length_le bound

section Gap

variable {raw blanks zeros rest : Text} {b : Char}

theorem dropLead_of_gap (hblanks : ∀ c ∈ blanks, Text.isBlank c = true) (nonempty : zeros ≠ [])
    (hzeros : ∀ c ∈ zeros, c = '0') (hb : Text.isBlank b = true) :
    dropLead (blanks ++ (zeros ++ b :: rest)) = blanks ++ (zeros ++ b :: rest) := by
  apply dropLead_eq_self
  intro c u h
  have behind : c = '0' ∨ Text.isBlank c = true := by
    cases blanks with
    | cons a as =>
      obtain ⟨rfl, -⟩ := List.cons.inj h
      exact absurd (hblanks '0' List.mem_cons_self) (by decide)
    | nil =>
      obtain ⟨z, zs, rfl⟩ := List.exists_cons_of_ne_nil nonempty
      obtain ⟨-, h⟩ := List.cons.inj h
      cases zs with
      | nil =>
        obtain ⟨rfl, -⟩ := List.cons.inj h
        exact .inr hb
      | cons z' zs =>
        obtain ⟨rfl, -⟩ := List.cons.inj h
        exact .inl (hzeros z' (by simp))
  constructor <;> rintro rfl <;> rcases behind with c | c <;> exact absurd c (by decide)

theorem significant_of_gap {lead : Text} (hlead : lead ∈ Text.leads)
    (split : raw.trim = lead ++ (blanks ++ (zeros ++ b :: rest)))
    (hblanks : ∀ c ∈ blanks, Text.isBlank c = true) (nonempty : zeros ≠ [])
    (hzeros : ∀ c ∈ zeros, c = '0') (hb : Text.isBlank b = true) :
    significant raw = b :: rest := by
  have behind : dropLead raw.trim = blanks ++ (zeros ++ b :: rest) := by
    rw [split]
    simp only [Text.leads, List.mem_cons, List.not_mem_nil, or_false] at hlead
    rcases hlead with rfl | rfl | rfl
    · exact dropLead_of_gap hblanks nonempty hzeros hb
    · rfl
    · rfl
  have front : Text.trimStart (blanks ++ (zeros ++ b :: rest)) = zeros ++ b :: rest := by
    rw [Text.trimStart, List.dropWhile_append_of_pos hblanks]
    apply Text.trimStart_of_head?
    intro c hc
    obtain ⟨z, zs, rfl⟩ := List.exists_cons_of_ne_nil nonempty
    obtain rfl : z = c := Option.some.inj hc
    rw [hzeros z List.mem_cons_self]
    decide
  have nonzero : b ≠ '0' := by
    rintro rfl
    exact absurd hb (by decide)
  rw [significant, behind, front, dropZeros, List.dropWhile_append_of_pos (by simpa using hzeros),
    List.dropWhile_cons_of_neg (by simp [nonzero])]

theorem hasGap_iff :
    raw.HasGap ↔ ∃ b, (significant raw).head? = some b ∧ Text.isBlank b = true := by
  constructor
  · rintro ⟨lead, hlead, blanks, zeros, rest, b, split, hblanks, nonempty, hzeros, hb⟩
    refine ⟨b, ?_, hb⟩
    rw [significant_of_gap hlead split hblanks nonempty hzeros hb, List.head?_cons]
  · rintro ⟨b, head, hb⟩
    obtain ⟨lead, hlead, behind⟩ := exists_lead_eq raw.trim
    obtain ⟨blanks, hblanks, front⟩ := Text.exists_trimStart_eq (dropLead raw.trim)
    obtain ⟨zeros, hzeros, padded⟩ := exists_dropZeros_eq (Text.trimStart (dropLead raw.trim))
    obtain ⟨rest, left⟩ := List.head?_eq_some_iff.mp head
    rw [← significant, left] at padded
    refine ⟨lead, hlead, blanks, zeros, rest, b, ?_, hblanks, ?_, hzeros, hb⟩
    · rw [← padded, ← front, ← behind]
    · rintro rfl
      have solid : Text.isBlank b = false :=
        Text.not_blank_of_head?_trimStart (t := dropLead raw.trim) (by rw [padded]; rfl)
      rw [hb] at solid
      cases solid

end Gap

theorem digits_ofText_blank_iff (raw : Text) :
    (∃ b, (ofText raw).digits.head? = some b ∧ Text.isBlank b = true) ↔ raw.HasGap := by
  rw [hasGap_iff]
  by_cases h : significant raw = []
  · have solid : Text.isBlank '0' = false := by decide
    rw [ofText_of_significant_eq_nil h, h]
    split <;> simp [solid]
  · rw [ofText_of_significant_ne_nil h, List.head?_map]
    simp [Text.isBlank_toLower]

/-- Canonicalization leaves a key as it is exactly when the text has no gap. The blank behind the
padding is otherwise left in front of the key, and only the second pass takes it away. -/
theorem ofText_digits_eq_iff (raw : Text) :
    ofText (ofText raw).digits = ofText raw ↔ ¬raw.HasGap := by
  obtain ⟨unpadded, lower, back⟩ := digits_ofText raw
  rw [← digits_ofText_blank_iff]
  constructor
  · rintro own ⟨b, head, blank⟩
    have trimmed := trim_eq_of_ofText_eq own
    have solid := (Text.trim_eq_self_iff.mp trimmed).1 b head
    rw [blank] at solid
    cases solid
  · intro noGap
    refine ofText_eq_of_settled (Text.trim_eq_self_iff.mpr ⟨?_, back⟩) unpadded lower
    intro c hc
    rw [← Bool.not_eq_true]
    exact fun blank => noGap ⟨c, hc, blank⟩

/-- The key of a zero and a one with a blank between is not its own key. -/
theorem ofText_digits_ne_gappedOne :
    ofText (ofText "0 1".toList).digits ≠ ofText "0 1".toList := by
  decide

end Key

/-!
Texts that are their own keys. Canonicalization leaves a text as it is exactly when the text is settled:
without blanks at its ends, padding and upper-case letters. The key of any text lacks all of these but
for blanks in front, which are what is left of a gap; each further pass takes away a blank and some
padding, so that a key is settled after finitely many of them.
-/

namespace Text

theorem toLower_eq_self_iff {c : Char} : c.toLower = c ↔ c ∉ upperLetters := by
  have changed : upperLetters.all (fun c => c.toLower != c) = true := by decide
  constructor
  · intro same letter
    have differs := List.all_eq_true.mp changed c letter
    simp [same] at differs
  · exact (toLower_eq_or_mem c).resolve_right

/-- A text is settled when it is empty, or zero, or has no blank at either end, no zero in front and no
upper-case letter. -/
def IsSettled (t : Text) : Prop :=
  t = [] ∨ t = ['0'] ∨
    t ≠ [] ∧ (∀ c, t.head? = some c → isBlank c = false) ∧
      (∀ c, t.getLast? = some c → isBlank c = false) ∧ t.head? ≠ some '0' ∧
      ∀ c ∈ t, c ∉ upperLetters

end Text

namespace Key

/-- One pass of canonicalization, from a text to the digits of its key. -/
def pass (t : Text) : Text :=
  (ofText t).digits

theorem map_toLower_eq_self_iff {t : Text} :
    t.map Char.toLower = t ↔ ∀ c ∈ t, c ∉ Text.upperLetters := by
  have same : t.map Char.toLower = t.map id ↔ ∀ c ∈ t, c.toLower = id c := List.map_inj_left
  simpa only [List.map_id, id, Text.toLower_eq_self_iff] using same

theorem pass_eq_nil_iff {raw : Text} : pass raw = [] ↔ ∀ c ∈ raw, Text.isBlank c = true := by
  rw [← Text.trim_eq_nil_iff, pass]
  by_cases h : significant raw = []
  · rw [ofText_of_significant_eq_nil h]
    split
    · rename_i blank
      simp [blank]
    · rename_i solid
      simp [solid]
  · have solid : raw.trim ≠ [] := by
      intro blank
      have left := significant_suffix raw
      rw [blank] at left
      exact h (List.suffix_nil.mp left)
    rw [ofText_of_significant_ne_nil h]
    simp [h, solid]

theorem isSettled_pass {raw : Text}
    (front : ∀ c, (pass raw).head? = some c → Text.isBlank c = false) : (pass raw).IsSettled := by
  obtain ⟨unpadded, lower, back⟩ := digits_ofText raw
  by_cases empty : pass raw = []
  · exact .inl empty
  · by_cases zero : (pass raw).head? = some '0'
    · exact .inr (.inl (unpadded zero))
    · exact .inr (.inr ⟨empty, front, back, zero, map_toLower_eq_self_iff.mp lower⟩)

theorem isFixedPt_pass_iff {t : Text} : Function.IsFixedPt pass t ↔ t.IsSettled := by
  constructor
  · intro fixed
    have same : pass t = t := fixed
    have trimmed : t.trim = t := trim_eq_of_ofText_eq (congrArg Key.mk same)
    have settled : (pass t).IsSettled := by
      apply isSettled_pass
      rw [same]
      exact (Text.trim_eq_self_iff.mp trimmed).1
    rwa [same] at settled
  · rintro (rfl | rfl | ⟨-, front, back, unpadded, lower⟩)
    · rfl
    · decide
    · have own : ofText t = ⟨t⟩ := by
        apply ofText_eq_of_settled (Text.trim_eq_self_iff.mpr ⟨front, back⟩)
        · exact fun zero => absurd zero unpadded
        · exact map_toLower_eq_self_iff.mpr lower
      exact congrArg Key.digits own

theorem isFixedPt_pass_of_not_hasGap {raw : Text} (noGap : ¬raw.HasGap) :
    Function.IsFixedPt pass (pass raw) := by
  rw [← digits_ofText_blank_iff] at noGap
  rw [isFixedPt_pass_iff]
  apply isSettled_pass
  intro c head
  rw [← Bool.not_eq_true]
  exact fun blank => noGap ⟨c, head, blank⟩

theorem length_trim_pass_of_hasGap {raw : Text} (h : raw.HasGap) :
    (pass raw).trim.length + 2 ≤ raw.trim.length := by
  obtain ⟨lead, hlead, blanks, zeros, rest, b, split, hblanks, nonempty, hzeros, hb⟩ := h
  have left := significant_of_gap hlead split hblanks nonempty hzeros hb
  have pass_eq : pass raw = b.toLower :: rest.map Char.toLower := by
    rw [pass, ofText_of_significant_ne_nil (by simp [left]), left, List.map_cons]
  have blank : Text.isBlank b.toLower = true := by rw [Text.isBlank_toLower, hb]
  have padding : 0 < zeros.length := List.length_pos_of_ne_nil nonempty
  have shorter := (Text.trim_isInfix (rest.map Char.toLower)).length_le
  rw [pass_eq, Text.trim_cons_of_blank blank, split]
  simp only [List.length_append, List.length_cons, List.length_map] at shorter ⊢
  omega

theorem trim_pass_ne_nil {t : Text} (solid : t.trim ≠ []) : (pass t).trim ≠ [] := by
  intro blank
  rw [Text.trim_eq_nil_iff] at blank
  have left : pass t ≠ [] := by
    rwa [Ne, pass_eq_nil_iff, ← Text.trim_eq_nil_iff]
  have last := List.getLast?_eq_getLast_of_ne_nil left
  have solidLast := (digits_ofText t).2.2 _ last
  rw [blank _ (List.getLast_mem left)] at solidLast
  cases solidLast

/-- A text that is not blank is settled after half as many passes as it has characters without blanks
around it, rounded up: every pass over a gap takes at least two. -/
theorem exists_isFixedPt_of_solid (t : Text) (solid : t.trim ≠ []) :
    ∃ n ≤ (t.trim.length + 1) / 2, Function.IsFixedPt pass (pass^[n] t) := by
  by_cases gap : t.HasGap
  · have shorter := length_trim_pass_of_hasGap gap
    obtain ⟨n, bound, fixed⟩ := exists_isFixedPt_of_solid (pass t) (trim_pass_ne_nil solid)
    exact ⟨n + 1, by omega, fixed⟩
  · have positive := List.length_pos_of_ne_nil solid
    exact ⟨1, by omega, isFixedPt_pass_of_not_hasGap gap⟩
termination_by t.trim.length

theorem exists_isFixedPt_iterate (t : Text) :
    ∃ n ≤ (t.length + 1) / 2, Function.IsFixedPt pass (pass^[n] t) := by
  by_cases blank : t.trim = []
  · cases t with
    | nil => exact ⟨0, Nat.zero_le _, rfl⟩
    | cons c cs =>
      have gone : pass (c :: cs) = [] := pass_eq_nil_iff.mpr (Text.trim_eq_nil_iff.mp blank)
      refine ⟨1, ?_, ?_⟩
      · rw [List.length_cons]
        omega
      · rw [Function.iterate_one, gone]
        rfl
  · obtain ⟨n, bound, fixed⟩ := exists_isFixedPt_of_solid t blank
    have within := (Text.trim_isInfix t).length_le
    exact ⟨n, by omega, fixed⟩

example : pass^[2] "0 0 1".toList = " 1".toList ∧ pass^[3] "0 0 1".toList = "1".toList := by decide

/-- What a pass makes of any text. Nothing is left of blank texts only; what is left has no upper-case
letter, no blank at the end, and no zero in front unless it is zero. The settled texts are those that a
pass leaves as they are, and any text comes to one of them after at most half as many passes as it has
characters, rounded up. -/
theorem pass_representation (raw : Text) :
    (pass raw = [] ↔ ∀ c ∈ raw, Text.isBlank c = true) ∧
      (∀ c ∈ pass raw, c ∉ Text.upperLetters) ∧
      (∀ c, (pass raw).getLast? = some c → Text.isBlank c = false) ∧
      ((pass raw).head? = some '0' → pass raw = ['0']) ∧
      (Function.IsFixedPt pass raw ↔ raw.IsSettled) ∧
      ∃ n ≤ (raw.length + 1) / 2, Function.IsFixedPt pass (pass^[n] raw) := by
  obtain ⟨unpadded, lower, back⟩ := digits_ofText raw
  exact ⟨pass_eq_nil_iff, map_toLower_eq_self_iff.mp lower, back, unpadded, isFixedPt_pass_iff,
    exists_isFixedPt_iterate raw⟩

end Key

end Lockstep
