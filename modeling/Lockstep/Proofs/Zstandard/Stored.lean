import Lockstep.Zstandard.Frame
import Mathlib.Algebra.Group.Nat.Defs
import Mathlib.Data.List.TakeDrop

set_option autoImplicit false
set_option relaxedAutoImplicit false

/-!
Bytes that are stored as they are. A frame of stored blocks is decompressed to the bytes it was made of,
however many blocks they take.
-/

namespace Lockstep.Zstandard

theorem length_numberBytes (count n : Nat) : (numberBytes count n).length = count := by
  induction count generalizing n with
  | zero => rfl
  | succ count ih => rw [numberBytes, List.length_cons, ih]

theorem number_numberBytes (count n : Nat) : number (numberBytes count n) = n % 256 ^ count := by
  induction count generalizing n with
  | zero => rw [numberBytes, number, Nat.pow_zero, Nat.mod_one]
  | succ count ih =>
    have low : (n % 256).toUInt8.toNat = n % 256 := by
      rw [Nat.toUInt8, UInt8.toNat_ofNat', Nat.mod_mod]
    rw [numberBytes, number, ih, low, Nat.pow_succ, Nat.mul_comm _ 256, Nat.mod_mul]

theorem takeBytes?_append (front rest : List UInt8) :
    takeBytes? front.length (front ++ rest) = some (front, rest) := by
  simp [takeBytes?]

theorem takeNumber?_numberBytes {count n : Nat} (fits : n < 256 ^ count) (rest : List UInt8) :
    takeNumber? count (numberBytes count n ++ rest) = some (n, rest) := by
  have taken := takeBytes?_append (numberBytes count n) rest
  rw [length_numberBytes] at taken
  simp only [takeNumber?, taken, Option.map_some, number_numberBytes, Nat.mod_eq_of_lt fits]

theorem length_drop_lt {turns : Nat} {bytes : List UInt8} (enough : bytes.length < turns + 1)
    (more : bytes.drop greatestBlock ≠ []) : (bytes.drop greatestBlock).length < turns := by
  have filled := List.length_pos_iff.mpr more
  have size : greatestBlock = 131072 := rfl
  rw [List.length_drop] at filled ⊢
  omega

theorem length_le_storedBlocks (turns : Nat) (bytes : List UInt8) (enough : bytes.length < turns) :
    bytes.length ≤ (storedBlocks turns bytes).length := by
  induction turns generalizing bytes with
  | zero => exact absurd enough (Nat.not_lt_zero _)
  | succ turns ih =>
    have whole := congrArg List.length (List.take_append_drop greatestBlock bytes)
    rw [List.length_append] at whole
    rw [storedBlocks]
    simp only [List.length_append, length_numberBytes]
    split
    · rename_i last
      rw [List.isEmpty_iff.mp last, List.length_nil] at whole
      omega
    · rename_i more
      have behind := ih (bytes.drop greatestBlock) (length_drop_lt enough (by simpa using more))
      omega

theorem readBlocks_stored {content : List UInt8} (limit : content.length ≤ greatestBlock)
    (turns : Nat) (p : Progress) (last : Bool) (rest : List UInt8) :
    readBlocks greatestBlock (turns + 1) p
        (numberBytes 3 (content.length * 8 + if last then 1 else 0) ++ content ++ rest) =
      if last then .ok (p.written.bytes.toList ++ content, rest)
      else readBlocks greatestBlock turns
        { p with written.bytes := p.written.bytes ++ content } rest := by
  have size : greatestBlock = 131072 := rfl
  have taken := takeBytes?_append content rest
  generalize written : content.length * 8 + (if last then 1 else 0) = header
  have parts : header / 8 = content.length ∧ header / 2 % 4 = 0 ∧
      header % 2 = if last then 1 else 0 := by
    cases last <;> simp only [Bool.false_eq_true, if_true, if_false] at written ⊢ <;> omega
  have fits : header < 256 ^ 3 := by omega
  have read := takeNumber?_numberBytes fits (content ++ rest)
  simp only [List.append_assoc, readBlocks, read, need, bind, Except.bind, pure, Except.pure, parts,
    taken, if_neg (Nat.not_lt.mpr limit)]
  cases last <;> simp

theorem readBlocks_storedBlocks {turns turns' : Nat} {bytes : List UInt8}
    (enough : bytes.length < turns) (enough' : bytes.length < turns') (p : Progress)
    (rest : List UInt8) :
    readBlocks greatestBlock turns' p (storedBlocks turns bytes ++ rest) =
      .ok (p.written.bytes.toList ++ bytes, rest) := by
  induction turns generalizing turns' bytes p with
  | zero => exact absurd enough (Nat.not_lt_zero _)
  | succ turns ih =>
    obtain ⟨turns', rfl⟩ := Nat.exists_eq_add_of_lt (Nat.zero_lt_of_lt enough')
    rw [Nat.zero_add] at enough' ⊢
    have whole := List.take_append_drop greatestBlock bytes
    have block := readBlocks_stored (List.length_take_le greatestBlock bytes) turns' p
      (bytes.drop greatestBlock).isEmpty
    rw [storedBlocks, List.append_assoc, block]
    split
    · rename_i last
      rw [List.isEmpty_iff.mp last, List.append_nil] at whole
      rw [whole, List.nil_append]
    · rename_i more
      rw [List.isEmpty_iff] at more
      rw [ih (length_drop_lt enough more) (length_drop_lt enough' more), Array.toList_appendList,
        List.append_assoc, whole]

theorem read_storedHeader (bytes : List UInt8) :
    Header.read ([0, 0x38] ++ bytes) = .ok (⟨greatestBlock, none, false⟩, bytes) := by
  have one (b : UInt8) (rest : List UInt8) : takeNumber? 1 (b :: rest) = some (b.toNat, rest) := by
    simp [takeNumber?, takeBytes?, number]
  have none (rest : List UInt8) : takeNumber? 0 rest = some (0, rest) := by
    simp [takeNumber?, takeBytes?, number]
  have window : Header.windowSize 56 = greatestBlock := rfl
  simp [Header.read, one, none, need, bind, Except.bind, Except.map, pure, Except.pure, window,
    greatestDescription, greatestWindow, greatestBlock]

/-- What is stored is decompressed to what it was. -/
theorem decompress_store (bytes : List UInt8) : decompress (store bytes) = .ok bytes := by
  have fits : frameMagic < 256 ^ 4 := by decide
  have magic := takeNumber?_numberBytes fits ([0, 0x38] ++ storedBlocks (bytes.length + 1) bytes)
  have held := length_le_storedBlocks (bytes.length + 1) bytes (Nat.lt_succ_self _)
  have blocks := readBlocks_storedBlocks (Nat.lt_succ_self _) (Nat.lt_succ_of_le held) .start []
  have frame : readFrame ([0, 0x38] ++ storedBlocks (bytes.length + 1) bytes) = .ok (bytes, []) := by
    rw [List.append_nil] at blocks
    simp only [readFrame, read_storedHeader, bind, Except.bind, blocks]
    rfl
  rw [decompress, store, List.append_assoc, readFrames]
  simp only [magic, if_true, frame, bind, Except.bind]
  rfl

end Lockstep.Zstandard
