import Lockstep.Proofs.Text.Numeral
import Lockstep.Proofs.Text.Search
import Lockstep.Trace.Basic

set_option autoImplicit false
set_option relaxedAutoImplicit false

/-!
Addresses as numbers. A text is an address when it denotes a number, and its key is the numeral of
that number: keys are equal exactly when the numbers are, however the addresses are spelled.
-/

namespace Lockstep

def Text.leads : List Text := [[], ['0', 'x'], ['0', 'X']]

/-- A text denotes a number when it is hexadecimal digits of that number behind at most one lead,
with blanks around. -/
def Text.Denotes (t : Text) (n : Nat) : Prop :=
  ∃ left lead digits right : Text, t = left ++ (lead ++ digits) ++ right ∧
    (∀ c ∈ left, isBlank c = true) ∧ (∀ c ∈ right, isBlank c = true) ∧ lead ∈ leads ∧
    digits ≠ [] ∧ (∀ c ∈ digits, isHexDigit c = true) ∧ hexNumber digits = n

namespace Key

def ofNumber (n : Nat) : Key := ⟨Text.hexadecimal n⟩

theorem ofNumber_injective {m n : Nat} (h : ofNumber m = ofNumber n) : m = n :=
  Text.hexadecimal_injective (Key.mk.inj h)

/-- A key is canonical when it is hexadecimal digits in lower case without padding. -/
structure Canonical (k : Key) : Prop where
  nonempty : k.digits ≠ []
  lower : ∀ c ∈ k.digits, c ∈ Text.lowerDigits
  unpadded : k.digits.head? = some '0' → k.digits = ['0']

theorem canonical_ofNumber (n : Nat) : (ofNumber n).Canonical := by
  obtain ⟨nonempty, lower, head⟩ := Text.hexadecimal_digits n
  refine ⟨nonempty, lower, ?_⟩
  intro zero
  obtain rfl : n = 0 := head zero
  rfl

theorem exists_lead_eq (t : Text) : ∃ lead ∈ Text.leads, t = lead ++ dropLead t := by
  unfold dropLead
  split
  · exact ⟨['0', 'x'], by decide, rfl⟩
  · exact ⟨['0', 'X'], by decide, rfl⟩
  · exact ⟨[], by decide, rfl⟩

theorem dropLead_eq_self {t : Text} (h : ∀ c u, t = '0' :: c :: u → c ≠ 'x' ∧ c ≠ 'X') :
    dropLead t = t := by
  unfold dropLead
  split
  · exact absurd rfl (h _ _ rfl).1
  · exact absurd rfl (h _ _ rfl).2
  · rfl

theorem dropLead_of_hex {digits : Text} (hex : ∀ c ∈ digits, Text.isHexDigit c = true) :
    dropLead digits = digits := by
  apply dropLead_eq_self
  rintro c u rfl
  have digit : Text.isHexDigit c = true := hex c (by simp)
  constructor <;> rintro rfl <;> exact absurd digit (by decide)

theorem dropLead_append {lead digits : Text} (hlead : lead ∈ Text.leads)
    (hex : ∀ c ∈ digits, Text.isHexDigit c = true) : dropLead (lead ++ digits) = digits := by
  simp only [Text.leads, List.mem_cons, List.not_mem_nil, or_false] at hlead
  rcases hlead with rfl | rfl | rfl
  · exact dropLead_of_hex hex
  · rfl
  · rfl

theorem exists_dropZeros_eq (t : Text) :
    ∃ zeros : Text, (∀ c ∈ zeros, c = '0') ∧ t = zeros ++ dropZeros t := by
  refine ⟨t.takeWhile (· = '0'), ?_, List.takeWhile_append_dropWhile.symm⟩
  intro c hc
  simpa using List.mem_takeWhile_imp hc

theorem head?_dropZeros_ne_zero (t : Text) : (dropZeros t).head? ≠ some '0' := by
  intro zero
  have head := List.head?_dropWhile_not (· = '0') t
  rw [← dropZeros, zero] at head
  simp at head

theorem hexNumber_dropZeros (digits : Text) :
    Text.hexNumber (dropZeros digits) = Text.hexNumber digits := by
  induction digits with
  | nil => rfl
  | cons c cs ih =>
    by_cases zero : c = '0'
    · subst zero
      rw [dropZeros, List.dropWhile_cons_of_pos (by simp), ← dropZeros, ih,
        Text.hexNumber_zero_cons]
    · rw [dropZeros, List.dropWhile_cons_of_neg (by simp [zero])]

theorem ofText_of_behind {raw digits : Text} (behind : dropLead (Text.trim raw) = digits)
    (nonempty : digits ≠ []) (hex : ∀ c ∈ digits, Text.isHexDigit c = true) :
    ofText raw = ofNumber (Text.hexNumber digits) := by
  have solid : ∀ c ∈ digits, Text.isBlank c = false := fun c hc =>
    Text.isBlank_of_isHexDigit (hex c hc)
  have kept : ∀ c ∈ dropZeros digits, Text.isHexDigit c = true := fun c hc =>
    hex c ((List.dropWhile_suffix _).subset hc)
  have number := hexNumber_dropZeros digits
  have trimmed : Text.trim raw ≠ [] := by
    intro blank
    rw [blank] at behind
    exact nonempty behind.symm
  simp only [ofText, behind, Text.trimStart_of_forall_not_blank solid]
  cases significant : dropZeros digits with
  | nil =>
    rw [significant] at number
    rw [ofNumber, ← number]
    simp [trimmed, Text.hexNumber, Text.hexadecimal, Nat.toDigits_zero]
  | cons c cs =>
    have unpadded : c ≠ '0' := by
      rintro rfl
      apply head?_dropZeros_ne_zero digits
      rw [significant, List.head?_cons]
    rw [significant] at number kept
    have numeral := (Text.hexadecimal_hexNumber cs unpadded kept).2
    rw [ofNumber, ← number, numeral]

theorem denotes_iff_behind {t : Text} {n : Nat} :
    Text.Denotes t n ↔ dropLead (Text.trim t) ≠ [] ∧
      (∀ c ∈ dropLead (Text.trim t), Text.isHexDigit c = true) ∧
      Text.hexNumber (dropLead (Text.trim t)) = n := by
  constructor
  · rintro ⟨left, lead, digits, right, rfl, blankLeft, blankRight, hlead, nonempty, hex, number⟩
    have solid : ∀ c ∈ lead ++ digits, Text.isBlank c = false := by
      have clear : Text.leads.all (fun lead => lead.all fun c => !Text.isBlank c) = true := by
        decide
      intro c hc
      rcases List.mem_append.mp hc with hc | hc
      · have inLead := List.all_eq_true.mp (List.all_eq_true.mp clear lead hlead) c hc
        simpa using inLead
      · exact Text.isBlank_of_isHexDigit (hex c hc)
    rw [Text.trim_append blankLeft blankRight solid, dropLead_append hlead hex]
    exact ⟨nonempty, hex, number⟩
  · rintro ⟨nonempty, hex, number⟩
    obtain ⟨left, right, blankLeft, blankRight, around⟩ := Text.exists_trim_eq t
    obtain ⟨lead, hlead, behind⟩ := exists_lead_eq (Text.trim t)
    refine ⟨left, lead, _, right, ?_, blankLeft, blankRight, hlead, nonempty, hex, number⟩
    rw [← behind]
    exact around

theorem ofText_of_denotes {t : Text} {n : Nat} (h : Text.Denotes t n) : ofText t = ofNumber n := by
  obtain ⟨nonempty, hex, number⟩ := denotes_iff_behind.mp h
  rw [ofText_of_behind rfl nonempty hex, number]

theorem denotes_of_hex (lead : Text) {digits : Text} (hlead : lead ∈ Text.leads)
    (nonempty : digits ≠ []) (hex : ∀ c ∈ digits, Text.isHexDigit c = true) :
    Text.Denotes (lead ++ digits) (Text.hexNumber digits) := by
  refine ⟨[], lead, digits, [], ?_, ?_, ?_, hlead, nonempty, hex, rfl⟩
  · rw [List.nil_append, List.append_nil]
  · simp
  · simp

theorem parse?_eq_some_iff {t : Text} {k : Key} :
    parse? t = some k ↔ ∃ n, Text.Denotes t n ∧ ofNumber n = k := by
  simp only [parse?, Option.ite_none_right_eq_some, Bool.and_eq_true, Bool.not_eq_true',
    List.isEmpty_eq_false_iff, List.all_eq_true, Option.some.injEq, denotes_iff_behind]
  constructor
  · rintro ⟨⟨nonempty, hex⟩, rfl⟩
    refine ⟨_, ⟨nonempty, hex, rfl⟩, ?_⟩
    have key := ofText_of_denotes (denotes_of_hex [] (by decide) nonempty hex)
    exact key.symm
  · rintro ⟨n, ⟨nonempty, hex, number⟩, rfl⟩
    refine ⟨⟨nonempty, hex⟩, ?_⟩
    rw [← number]
    exact ofText_of_denotes (denotes_of_hex [] (by decide) nonempty hex)

example : parse? " 0X00aF\t".toList = some (ofNumber 175) := by decide

theorem canonical_of_parse? {t : Text} {k : Key} (h : parse? t = some k) : k.Canonical := by
  obtain ⟨n, -, rfl⟩ := parse?_eq_some_iff.mp h
  exact canonical_ofNumber n

end Key

end Lockstep
