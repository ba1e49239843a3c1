import Lockstep.Text.Basic
import Mathlib.Data.List.Basic
import Mathlib.Data.List.Induction
import Mathlib.Tactic.IntervalCases

set_option autoImplicit false
set_option relaxedAutoImplicit false

/-!
Numerals. Hexadecimal digits denote a number whatever their case and padding; without padding and in
lower case they are the numeral of that number. Neither decimal nor hexadecimal numerals of two numbers
are the same.
-/

namespace Lockstep.Text

def hexDigits : Text := "0123456789abcdefABCDEF".toList

theorem isHexDigit_iff_toNat (c : Char) :
    isHexDigit c = true ↔ (48 ≤ c.toNat ∧ c.toNat ≤ 57) ∨ (97 ≤ c.toNat ∧ c.toNat ≤ 102) ∨
      (65 ≤ c.toNat ∧ c.toNat ≤ 70) := by
  have figure : ('0' ≤ c ∧ c ≤ '9') ↔ (48 ≤ c.toNat ∧ c.toNat ≤ 57) := Iff.rfl
  have lower : ('a' ≤ c ∧ c ≤ 'f') ↔ (97 ≤ c.toNat ∧ c.toNat ≤ 102) := Iff.rfl
  have upper : ('A' ≤ c ∧ c ≤ 'F') ↔ (65 ≤ c.toNat ∧ c.toNat ≤ 70) := Iff.rfl
  rw [← figure, ← lower, ← upper]
  unfold isHexDigit hexValue?
  split
  · simp_all
  · split
    · simp_all
    · split <;> simp_all

theorem isHexDigit_iff_mem (c : Char) : isHexDigit c = true ↔ c ∈ hexDigits := by
  constructor
  · intro h
    have ranges := (isHexDigit_iff_toNat c).mp h
    have named : Char.ofNat c.toNat = c := Char.ofNat_toNat c
    revert named
    generalize c.toNat = n at ranges
    rintro rfl
    rcases ranges with ⟨hl, hu⟩ | ⟨hl, hu⟩ | ⟨hl, hu⟩ <;> interval_cases n <;> decide
  · intro member
    have all : hexDigits.all isHexDigit = true := by decide
    exact List.all_eq_true.mp all c member

/-- What holds of the ten figures and of the six letters in either case holds of every digit. The
check is a Boolean over this list, since over all characters it would be out of reach. -/
theorem of_isHexDigit {p : Char → Bool} (all : hexDigits.all p = true) {c : Char}
    (h : isHexDigit c = true) : p c = true := by
  have member : c ∈ hexDigits := (isHexDigit_iff_mem c).mp h
  exact List.all_eq_true.mp all c member

def hexValue (c : Char) : Nat := (hexValue? c).getD 0

theorem hexValue_lt {c : Char} (h : isHexDigit c = true) : hexValue c < 16 := by
  have all : hexDigits.all (fun c => decide (hexValue c < 16)) = true := by decide
  have below := of_isHexDigit all h
  exact of_decide_eq_true below

theorem digitChar_hexValue {c : Char} (h : isHexDigit c = true) :
    (hexValue c).digitChar = c.toLower := by
  have all : hexDigits.all (fun c => (hexValue c).digitChar == c.toLower) = true := by decide
  have same := of_isHexDigit all h
  exact eq_of_beq same

theorem hexValue_eq_zero_iff {c : Char} (h : isHexDigit c = true) : hexValue c = 0 ↔ c = '0' := by
  have all : hexDigits.all (fun c => decide (hexValue c = 0 ↔ c = '0')) = true := by decide
  have same := of_isHexDigit all h
  exact of_decide_eq_true same

theorem isBlank_of_isHexDigit {c : Char} (h : isHexDigit c = true) : isBlank c = false := by
  have all : hexDigits.all (fun c => !isBlank c) = true := by decide
  have solid := of_isHexDigit all h
  simpa using solid

/-- The number that digits denote, each weighing sixteen times the next. -/
def hexNumber (digits : Text) : Nat :=
  digits.foldl (fun n c => 16 * n + hexValue c) 0

theorem hexNumber_append_singleton (digits : Text) (c : Char) :
    hexNumber (digits ++ [c]) = 16 * hexNumber digits + hexValue c := by
  simp only [hexNumber, List.foldl_append, List.foldl_cons, List.foldl_nil]

theorem hexNumber_zero_cons (digits : Text) : hexNumber ('0' :: digits) = hexNumber digits := rfl

theorem hexadecimal_append_singleton {n d : Nat} (hn : 0 < n) (hd : d < 16) :
    hexadecimal (16 * n + d) = hexadecimal n ++ [d.digitChar] := by
  rw [hexadecimal, ← Nat.toDigits_append_toDigits (by decide) hn hd, Nat.toDigits_of_lt_base hd,
    hexadecimal]

theorem hexadecimal_hexNumber {c : Char} (cs : Text) (hc : c ≠ '0')
    (hex : ∀ d ∈ c :: cs, isHexDigit d = true) :
    0 < hexNumber (c :: cs) ∧ hexadecimal (hexNumber (c :: cs)) = (c :: cs).map Char.toLower := by
  induction cs using List.reverseRecOn with
  | nil =>
    have hexC := hex c List.mem_cons_self
    have number : hexNumber [c] = hexValue c := by simp [hexNumber]
    have nonzero : hexValue c ≠ 0 := fun zero => hc ((hexValue_eq_zero_iff hexC).mp zero)
    rw [number]
    refine ⟨Nat.pos_of_ne_zero nonzero, ?_⟩
    rw [hexadecimal, Nat.toDigits_of_lt_base (hexValue_lt hexC), digitChar_hexValue hexC]
    rfl
  | append_singleton cs d ih =>
    obtain ⟨pos, numeral⟩ := ih fun e he => hex e (by
      simp only [List.mem_cons, List.mem_append] at he ⊢
      tauto)
    have hexD : isHexDigit d = true := hex d (by simp)
    rw [← List.cons_append, hexNumber_append_singleton]
    refine ⟨by omega, ?_⟩
    rw [hexadecimal_append_singleton pos (hexValue_lt hexD), numeral, digitChar_hexValue hexD,
      List.map_append]
    rfl

/-- What holds of the numerals of one digit, and goes from the numeral of a positive number to that
with one more digit, holds of every numeral. -/
theorem hexadecimal_induction {p : Nat → Text → Prop} (digit : ∀ d < 16, p d [d.digitChar])
    (more : ∀ n d, 0 < n → d < 16 → p n (hexadecimal n) →
      p (16 * n + d) (hexadecimal n ++ [d.digitChar])) (n : Nat) : p n (hexadecimal n) := by
  induction n using Nat.strong_induction_on with
  | h n ih =>
    by_cases small : n < 16
    · rw [hexadecimal, Nat.toDigits_of_lt_base small]
      exact digit n small
    · have split : 16 * (n / 16) + n % 16 = n := by omega
      have pos : 0 < n / 16 := by omega
      have last : n % 16 < 16 := by omega
      have shorter := more (n / 16) (n % 16) pos last (ih (n / 16) (by omega))
      rwa [← hexadecimal_append_singleton pos last, split] at shorter

theorem hexNumber_hexadecimal (n : Nat) : hexNumber (hexadecimal n) = n := by
  have value : ∀ d < 16, hexValue d.digitChar = d := by decide
  induction n using hexadecimal_induction with
  | digit d hd => simpa [hexNumber] using value d hd
  | more n d _ hd ih => rw [hexNumber_append_singleton, ih, value d hd]

def lowerDigits : Text := "0123456789abcdef".toList

theorem hexadecimal_digits (n : Nat) :
    hexadecimal n ≠ [] ∧ (∀ c ∈ hexadecimal n, c ∈ lowerDigits) ∧
      ((hexadecimal n).head? = some '0' → n = 0) := by
  have lower : ∀ d < 16, d.digitChar ∈ lowerDigits := by decide
  have nonzero : ∀ d < 16, d.digitChar = '0' → d = 0 := by decide
  induction n using hexadecimal_induction with
  | digit d hd =>
    refine ⟨List.cons_ne_nil _ _, ?_, ?_⟩
    · intro c hc
      obtain rfl := List.mem_singleton.mp hc
      exact lower d hd
    · intro head
      exact nonzero d hd (Option.some.inj head)
  | more n d pos hd ih =>
    obtain ⟨nonempty, digits, head⟩ := ih
    refine ⟨by simp, ?_, ?_⟩
    · intro c hc
      rcases List.mem_append.mp hc with hc | hc
      · exact digits c hc
      · obtain rfl := List.mem_singleton.mp hc
        exact lower d hd
    · intro zero
      rw [List.head?_append_of_ne_nil _ nonempty] at zero
      exact absurd (head zero) (Nat.ne_of_gt pos)

theorem hexadecimal_injective {m n : Nat} (h : hexadecimal m = hexadecimal n) : m = n := by
  rw [← hexNumber_hexadecimal m, h, hexNumber_hexadecimal]

theorem isDigit_of_mem_decimal {c : Char} {n : Nat} (h : c ∈ decimal n) : c.isDigit = true :=
  Nat.isDigit_of_mem_toDigits (by decide) (by decide) h

theorem decimal_injective {m n : Nat} (h : decimal m = decimal n) : m = n := by
  have read := congrArg (Nat.ofDigitChars 10 · 0) h
  simpa only [decimal, Nat.ofDigitChars_ten_toDigits] using read

theorem decimal_ne_nil (n : Nat) : decimal n ≠ [] := by
  intro h
  have digits := Nat.length_toDigits_pos (b := 10) (n := n)
  rw [decimal] at h
  rw [h] at digits
  cases digits

theorem exists_decimal_eq_cons (n : Nat) :
    ∃ c digits, decimal n = c :: digits ∧ c.isDigit = true := by
  obtain ⟨c, digits, split⟩ := List.exists_cons_of_ne_nil (decimal_ne_nil n)
  refine ⟨c, digits, split, isDigit_of_mem_decimal (n := n) ?_⟩
  rw [split]
  exact List.mem_cons_self

theorem eq_zero_of_head?_decimal {n : Nat} (h : (decimal n).head? = some '0') : n = 0 := by
  have nonzero : ∀ d < 10, d.digitChar = '0' → d = 0 := by decide
  induction n using Nat.strong_induction_on with
  | h n ih =>
    by_cases small : n < 10
    · rw [decimal, Nat.toDigits_of_lt_base small] at h
      exact nonzero n small (Option.some.inj h)
    · have split : decimal n = decimal (n / 10) ++ [(n % 10).digitChar] := by
        rw [decimal, Nat.toDigits_eq_if (by decide), if_neg small]
        rfl
      rw [split, List.head?_append_of_ne_nil _ (decimal_ne_nil _)] at h
      have zero := ih (n / 10) (by omega) h
      omega

theorem natural?_decimal (n : Nat) : natural? (decimal n) = some n := by
  have digits : (decimal n).all Char.isDigit = true :=
    List.all_eq_true.mpr fun c member => isDigit_of_mem_decimal member
  have value : Nat.ofDigitChars 10 (decimal n) 0 = n := Nat.ofDigitChars_ten_toDigits
  simp [natural?, digits, value, decimal_ne_nil]

theorem integer?_signedDecimal (n : Int) : integer? (signedDecimal n) = some n := by
  cases n with
  | ofNat n =>
    obtain ⟨c, rest, digits, digit⟩ := exists_decimal_eq_cons n
    have read := natural?_decimal n
    rw [signedDecimal, digits]
    rw [digits] at read
    unfold integer?
    split
    · next h =>
      cases h
      exact absurd digit (by decide)
    · next h =>
      cases h
      exact absurd digit (by decide)
    · rw [read]
      rfl
  | negSucc n =>
    rw [signedDecimal, integer?, natural?_decimal]
    rfl

end Lockstep.Text
