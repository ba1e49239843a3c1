import Lockstep.Proofs.Alignment.FirstLine

set_option autoImplicit false
set_option relaxedAutoImplicit false

/-!
Distances reckoned in machine words. Start, distance and number of lines come as words of 64 bits, of
which only the distance has a sign. Each step of the reckoning is taken on words, and is given up where
the number it leads to is no word; what it leads to otherwise is that number, so that the reckoning as a
whole is one in whole numbers.
-/

namespace Lockstep

def signedWord? (n : UInt64) : Option Int64 :=
  if n.toInt64 < 0 then none else some n.toInt64

def unsignedWord? (i : Int64) : Option UInt64 :=
  if i < 0 then none else some i.toUInt64

def addWords? (a b : Int64) : Option Int64 :=
  if a.toBitVec.saddOverflow b.toBitVec then none else some (a + b)

def subWords? (a b : Int64) : Option Int64 :=
  if a.toBitVec.ssubOverflow b.toBitVec then none else some (a - b)

theorem toInt_cases (i : Int64) :
    (0 ≤ i.toInt ∧ i.toInt = i.toUInt64.toNat) ∨
      (i.toInt < 0 ∧ i.toInt + 0x10000000000000000 = i.toUInt64.toNat) := by
  have reads := BitVec.toInt_eq_toNat_cond i.toBitVec
  have bound := i.toUInt64.toNat_lt
  rw [Int64.toInt_toBitVec, Int64.toNat_toBitVec] at reads
  split at reads
  · exact .inl (by omega)
  · exact .inr (by omega)

/-- A signed word that is given up only where no word has the number in question, and has this number
otherwise, is had exactly as the word with this number. -/
theorem guarded_eq_some_iff {p : Prop} [Decidable p] {w i : Int64} {n : Int}
    (outside : p → i.toInt ≠ n) (inside : ¬p → w.toInt = n) :
    (if p then none else some w) = some i ↔ i.toInt = n := by
  split
  · rename_i given
    simp only [reduceCtorEq, false_iff]
    exact outside given
  · rename_i kept
    rw [Option.some.injEq, ← Int64.toInt_inj, inside kept, eq_comm]

theorem signedWord?_eq_some_iff {n : UInt64} {i : Int64} :
    signedWord? n = some i ↔ i.toInt = n.toNat := by
  have sign : n.toInt64 < 0 ↔ n.toInt64.toInt < 0 := Int64.lt_iff_toInt_lt
  have reads := toInt_cases n.toInt64
  have least := n.toInt64.le_toInt
  have bound := i.toInt_lt
  rw [UInt64.toUInt64_toInt64] at reads
  refine guarded_eq_some_iff ?_ ?_
  · rw [sign]
    omega
  · rw [sign]
    omega

theorem unsignedWord?_eq_some_iff {i : Int64} {n : UInt64} :
    unsignedWord? i = some n ↔ i.toInt = n.toNat := by
  have sign : i < 0 ↔ i.toInt < 0 := Int64.lt_iff_toInt_lt
  have reads := toInt_cases i
  unfold unsignedWord?
  split
  · rename_i negative
    rw [sign] at negative
    simp only [reduceCtorEq, false_iff]
    omega
  · rename_i nonneg
    rw [sign] at nonneg
    have same : i.toInt = i.toUInt64.toNat := by omega
    rw [Option.some.injEq, ← UInt64.toNat_inj, same, Int.natCast_inj]

theorem addWords?_eq_some_iff {a b c : Int64} :
    addWords? a b = some c ↔ c.toInt = a.toInt + b.toInt := by
  have above := c.toInt_lt
  have below := c.le_toInt
  refine guarded_eq_some_iff ?_ ?_
  · intro overflow
    simp only [BitVec.saddOverflow, Int64.toInt_toBitVec, Bool.or_eq_true, decide_eq_true_eq]
      at overflow
    omega
  · intro fits
    have sum := BitVec.toInt_add_of_not_saddOverflow fits
    rwa [← Int64.toBitVec_add] at sum

theorem subWords?_eq_some_iff {a b c : Int64} :
    subWords? a b = some c ↔ c.toInt = a.toInt - b.toInt := by
  have above := c.toInt_lt
  have below := c.le_toInt
  refine guarded_eq_some_iff ?_ ?_
  · intro overflow
    simp only [BitVec.ssubOverflow, Int64.toInt_toBitVec, Bool.or_eq_true, decide_eq_true_eq]
      at overflow
    omega
  · intro fits
    have difference := BitVec.toInt_sub_of_not_ssubOverflow fits
    rwa [← Int64.toBitVec_sub] at difference

namespace Alignment

/-- The line at a distance from a starting line, reckoned in words step by step: the start with a sign,
the distance added to it, one taken away, and the rest without a sign. -/
def offsetWord? (start : UInt64) (distance : Int64) (lines : UInt64) : Option UInt64 := do
  let first ← signedWord? start
  let next ← addWords? first distance
  let last ← subWords? next 1
  let line ← unsignedWord? last
  if line ≤ lines then some line else none

/-- Reckoned in words, a distance leads to the line that whole numbers give, as long as signed words can
hold the start and the line after the one that is reached. -/
theorem offsetWord?_eq_some_iff {start lines line : UInt64} {distance : Int64} :
    offsetWord? start distance lines = some line ↔
      start.toNat ≤ wordLimit ∧ line.toNat < wordLimit ∧ line.toNat ≤ lines.toNat ∧
        (start.toNat : Int) + distance.toInt - 1 = line.toNat := by
  have limit : (wordLimit : Int) = 2 ^ 63 - 1 := rfl
  simp only [offsetWord?, Option.bind_eq_bind, Option.bind_eq_some_iff, signedWord?_eq_some_iff,
    addWords?_eq_some_iff, subWords?_eq_some_iff, unsignedWord?_eq_some_iff,
    Option.ite_none_right_eq_some, Option.some.injEq, UInt64.le_iff_toNat_le, Int64.toInt_one]
  constructor
  · rintro ⟨first, hfirst, next, hnext, last, hlast, _, hline, within, rfl⟩
    have startBound := first.toInt_lt
    have nextBound := next.toInt_lt
    omega
  · rintro ⟨startBound, lineBound, within, reckoned⟩
    have word (n : Int) (below : -2 ^ 63 ≤ n) (above : n < 2 ^ 63) :
        ∃ i : Int64, i.toInt = n := ⟨.ofInt n, Int64.toInt_ofInt_of_le below above⟩
    obtain ⟨first, hfirst⟩ := word start.toNat (by omega) (by omega)
    obtain ⟨next, hnext⟩ := word (line.toNat + 1) (by omega) (by omega)
    obtain ⟨last, hlast⟩ := word line.toNat (by omega) (by omega)
    exact ⟨first, hfirst, next, by omega, last, by omega, line, hlast, within, rfl⟩

/-- No step of a reckoning wraps around: each word on the way has the number that whole numbers give. -/
structure Unwrapped (start : UInt64) (distance : Int64) : Prop where
  first : start.toInt64.toInt = start.toNat
  next : (start.toInt64 + distance).toInt = start.toNat + distance.toInt
  last : (start.toInt64 + distance - 1).toInt = start.toNat + distance.toInt - 1

theorem unwrapped_of_offsetWord? {start lines line : UInt64} {distance : Int64}
    (h : offsetWord? start distance lines = some line) : Unwrapped start distance := by
  simp only [offsetWord?, Option.bind_eq_bind, Option.bind_eq_some_iff] at h
  obtain ⟨first, hfirst, next, hnext, last, hlast, -⟩ := h
  have started := signedWord?_eq_some_iff.mp hfirst
  have added := addWords?_eq_some_iff.mp hnext
  have taken := subWords?_eq_some_iff.mp hlast
  obtain rfl : start.toInt64 = first := by simpa using (Option.ite_none_left_eq_some.mp hfirst).2
  obtain rfl : start.toInt64 + distance = next := by
    simpa using (Option.ite_none_left_eq_some.mp hnext).2
  obtain rfl : start.toInt64 + distance - 1 = last := by
    simpa using (Option.ite_none_left_eq_some.mp hlast).2
  rw [Int64.toInt_one] at taken
  exact ⟨started, by omega, by omega⟩

theorem offsetStart_eq_offsetWord? (start lines : UInt64) (distance : Int64) :
    offsetStart start.toNat distance.toInt lines.toNat =
      match offsetWord? start distance lines with
      | some line => .ok line.toNat
      | none => .error (.offsetOutOfRange distance.toInt start.toNat lines.toNat) := by
  split
  · rename_i line reckoned
    exact offsetStart_eq_ok_iff.mpr (offsetWord?_eq_some_iff.mp reckoned)
  · rename_i refused
    rw [offsetStart_eq_error_iff_forall_ne]
    refine ⟨?_, rfl⟩
    intro line found
    obtain ⟨startBound, lineBound, within, reckoned⟩ := offsetStart_eq_ok_iff.mp found
    have size : lines.toNat < UInt64.size := lines.toNat_lt
    have same : (UInt64.ofNat line).toNat = line := UInt64.toNat_ofNat_of_lt' (by omega)
    have reached : offsetWord? start distance lines = some (.ofNat line) := by
      rw [offsetWord?_eq_some_iff, same]
      exact ⟨startBound, lineBound, within, reckoned⟩
    rw [refused] at reached
    cases reached

/-- The line at a distance is reckoned exactly. From a start that a signed word can hold, in a reference
whose lines such words can number, a distance leads to a line if and only if whole numbers lead there
within the reference or just after it, and is refused with all that went into the reckoning otherwise;
from a start beyond signed words every distance is refused so. The reckoning in words leads to the same,
and where it leads to a line none of its steps wraps around. -/
theorem offsetStart_exact (start lines : UInt64) (distance : Int64) :
    (start.toNat ≤ wordLimit → lines.toNat < wordLimit →
      (∀ line : Nat, offsetStart start.toNat distance.toInt lines.toNat = .ok line ↔
        start.toNat + distance.toInt - 1 = line ∧ line ≤ lines.toNat) ∧
      ∀ fault, offsetStart start.toNat distance.toInt lines.toNat = .error fault ↔
        ¬(0 ≤ start.toNat + distance.toInt - 1 ∧
            start.toNat + distance.toInt - 1 ≤ lines.toNat) ∧
          fault = .offsetOutOfRange distance.toInt start.toNat lines.toNat) ∧
    (wordLimit < start.toNat →
      offsetStart start.toNat distance.toInt lines.toNat =
        .error (.offsetOutOfRange distance.toInt start.toNat lines.toNat)) ∧
    (offsetStart start.toNat distance.toInt lines.toNat =
      match offsetWord? start distance lines with
      | some line => .ok line.toNat
      | none => .error (.offsetOutOfRange distance.toInt start.toNat lines.toNat)) ∧
    ∀ line, offsetStart start.toNat distance.toInt lines.toNat = .ok line →
      Unwrapped start distance := by
  refine ⟨?_, ?_, offsetStart_eq_offsetWord? start lines distance, ?_⟩
  · intro bound short
    refine ⟨?_, fun fault => offsetStart_eq_error_iff bound short⟩
    intro line
    rw [offsetStart_eq_ok_iff]
    omega
  · intro beyond
    rw [offsetStart_eq_error_iff_forall_ne]
    refine ⟨?_, rfl⟩
    intro line found
    exact Nat.not_le_of_lt beyond (offsetStart_eq_ok_iff.mp found).1
  · intro line found
    rw [offsetStart_eq_offsetWord?] at found
    split at found
    · rename_i reckoned
      exact unwrapped_of_offsetWord? reckoned
    · cases found

theorem offsetStart_exact_wordLimit :
    offsetStart wordLimit (-0x7FFFFFFFFFFFFFFB) 5 = .ok 3 ∧
      offsetStart wordLimit 1 5 = .error (.offsetOutOfRange 1 wordLimit 5) := by
  have bound : (0x7FFFFFFFFFFFFFFF : UInt64).toNat ≤ wordLimit := by decide
  have short : (5 : UInt64).toNat < wordLimit := by decide
  have back := (offsetStart_exact 0x7FFFFFFFFFFFFFFF 5 (-0x7FFFFFFFFFFFFFFB)).1 bound short
  have beyond := (offsetStart_exact 0x7FFFFFFFFFFFFFFF 5 1).1 bound short
  exact ⟨(back.1 3).mpr (by decide), (beyond.2 _).mpr (by decide)⟩

end Alignment

end Lockstep
