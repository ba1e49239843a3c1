set_option autoImplicit false
set_option relaxedAutoImplicit false

/-!
How compressed data spends bits: rows of bits, and the two codes that symbols are read from them by.

Bits of compressed data. A row of bits is read from one end only; some rows of bytes are read from their
first byte on, others from their last byte back.
-/

namespace Lockstep.Zstandard

abbrev Bits := List Bool

namespace Bits

def ofByte (b : UInt8) : Bits :=
  [0, 1, 2, 3, 4, 5, 6, 7].map b.toNat.testBit

def forward (bytes : List UInt8) : Bits :=
  bytes.flatMap ofByte

/-- The bits of bytes from the last byte back. The highest bit that is set in the last byte marks the
start and is no bit of its own. -/
def backward? (bytes : List UInt8) : Option Bits :=
  match (forward bytes).reverse.span (! ·) with
  | (zeros, true :: bits) => if zeros.length < 8 then some bits else none
  | _ => none

def lowFirst : Bits → Nat
  | [] => 0
  | b :: bits => b.toNat + 2 * lowFirst bits

def highFirst (bits : Bits) : Nat :=
  bits.foldl (fun n b => 2 * n + b.toNat) 0

def take? (count : Nat) (bits : Bits) : Option (Nat × Bits) :=
  let (taken, rest) := bits.splitAt count
  if taken.length = count then some (highFirst taken, rest) else none

def peek (count : Nat) (bits : Bits) : Nat :=
  let taken := bits.take count
  highFirst taken <<< (count - taken.length)

end Bits

def number : List UInt8 → Nat
  | [] => 0
  | b :: bytes => b.toNat + 256 * number bytes

def takeBytes? (count : Nat) (bytes : List UInt8) : Option (List UInt8 × List UInt8) :=
  let (taken, rest) := bytes.splitAt count
  if taken.length = count then some (taken, rest) else none

def takeNumber? (count : Nat) (bytes : List UInt8) : Option (Nat × List UInt8) :=
  (takeBytes? count bytes).map fun (taken, rest) => (number taken, rest)

/-!
Coding by finite states. A table gives every state its symbol and the states that may come next, of which
the bits that follow choose one; a symbol has as many states as its share in a distribution.
-/

/-- The share of each symbol in a distribution. A share of −1 is one that is less than one state. -/
abbrev Shares := List Int

/-- What a state stands for, and where its successors begin among which some bits choose. -/
structure CodeState where
  symbol : Nat
  width : Nat
  base : Nat
deriving DecidableEq, Inhabited

structure StateTable where
  accuracy : Nat
  states : Array CodeState

namespace Shares

/-- Reads one share. Numbers that could not all occur take one bit less. `left` is what the shares so
far leave of the whole. -/
def readShare? (left : Nat) (bits : Bits) : Option (Int × Bits) :=
  let width := (left + 1).log2 + 1
  let half := 1 <<< (width - 1)
  let spare := (1 <<< width) - 2 - left
  let value := Bits.lowFirst (bits.take width)
  let low := value % half
  let (value, width) :=
    if low < spare then (low, width - 1)
    else if half ≤ value then (value - spare, width)
    else (value, width)
  if (bits.take width).length = width then some ((value : Int) - 1, bits.drop width) else none

/-- Reads how many more symbols have no share: twos of bits, of which all but the last are three. -/
def readSkips? : Nat → Bits → Option (Nat × Bits)
  | 0, _ => none
  | turns + 1, a :: b :: bits =>
    let count := Bits.lowFirst [a, b]
    if count = 3 then (readSkips? turns bits).map fun (more, bits) => (count + more, bits)
    else some (count, bits)
  | _, _ => none

/-- Reads shares until the whole is given out. No more than `turns` symbols are read, and `done` holds
the shares before, last first. -/
def readShares? (limit : Nat) : Nat → Nat → Shares → Bits → Option (Shares × Bits)
  | _, 0, done, bits => if done.length ≤ limit then some (done.reverse, bits) else none
  | 0, _, _, _ => none
  | turns + 1, left, done, bits =>
    match readShare? left bits with
    | none => none
    | some (share, bits) =>
      if left < share.natAbs then none
      else if share = 0 then
        match readSkips? limit bits with
        | none => none
        | some (skips, bits) =>
          readShares? limit turns left (List.replicate (skips + 1) 0 ++ done) bits
      else readShares? limit turns (left - share.natAbs) (share :: done) bits

def longestDescription : Nat := 512

/-- Reads a distribution over at most `limit` symbols, with the accuracy that it states. -/
def read? (limit greatestAccuracy : Nat) (bytes : List UInt8) :
    Option ((Nat × Shares) × List UInt8) :=
  let bits := Bits.forward (bytes.take longestDescription)
  let accuracy := Bits.lowFirst (bits.take 4) + 5
  if greatestAccuracy < accuracy then none
  else
    match readShares? limit limit (1 <<< accuracy) [] (bits.drop 4) with
    | none => none
    | some (shares, rest) =>
      some ((accuracy, shares), bytes.drop ((bits.length - rest.length + 7) / 8))

end Shares

namespace StateTable

/-- The symbols by state: those of less than one state come last from the end on, and the states of
all others are strewn over the rest with a fixed stride. -/
def symbols (accuracy : Nat) (shares : Shares) : Array Nat :=
  let size := 1 <<< accuracy
  let rare := (shares.zipIdx.filter fun s => s.1 = -1).map Prod.snd
  let common := shares.zipIdx.flatMap fun (share, symbol) => List.replicate share.toNat symbol
  let stride := size / 2 + size / 8 + 3
  let places := ((List.range size).map fun i => i * stride % size).filter (· < size - rare.length)
  let placed := places.zip common ++ rare.zipIdx.map fun (symbol, i) => (size - 1 - i, symbol)
  placed.foldl (fun table (place, symbol) => table.setIfInBounds place symbol) (.replicate size 0)

def stateOf (accuracy symbol met : Nat) : CodeState :=
  let width := accuracy - met.log2
  ⟨symbol, width, (met <<< width) - (1 <<< accuracy)⟩

def ofShares (accuracy : Nat) (shares : Shares) : StateTable :=
  let start : Array CodeState × Array Nat := (#[], (shares.map Int.natAbs).toArray)
  let (states, _) := (symbols accuracy shares).foldl (fun (states, met) symbol =>
    let count := met.getD symbol 0
    (states.push (stateOf accuracy symbol count), met.setIfInBounds symbol (count + 1))) start
  ⟨accuracy, states⟩

def single (symbol : Nat) : StateTable :=
  ⟨0, #[⟨symbol, 0, 0⟩]⟩

def read? (limit greatestAccuracy : Nat) (bytes : List UInt8) : Option (StateTable × List UInt8) :=
  (Shares.read? limit greatestAccuracy bytes).map fun ((accuracy, shares), rest) =>
    (ofShares accuracy shares, rest)

def state (t : StateTable) (n : Nat) : CodeState :=
  t.states.getD n default

def first? (t : StateTable) (bits : Bits) : Option (CodeState × Bits) :=
  (bits.take? t.accuracy).map fun (n, bits) => (t.state n, bits)

def next? (t : StateTable) (s : CodeState) (bits : Bits) : Option (CodeState × Bits) :=
  (bits.take? s.width).map fun (n, bits) => (t.state (s.base + n), bits)

end StateTable

/-!
Coding by lengths. Each symbol has a weight; the greater the weight, the shorter its code. Codes are
looked up by as many bits as the longest of them has.
-/

/-- A table of codes: for every row of bits of the greatest length, the symbol whose code starts it and
the length of that code. -/
structure CodeTable where
  longest : Nat
  codes : Array (UInt8 × Nat)

namespace CodeTable

def greatestLength : Nat := 12

def directWeights? (count : Nat) (bytes : List UInt8) : Option (List Nat × List UInt8) :=
  (takeBytes? ((count + 1) / 2) bytes).map fun (taken, rest) =>
    ((taken.flatMap fun b => [b.toNat / 16, b.toNat % 16]).take count, rest)

/-- Reads weights from two states in turn, until the bits do not suffice for a next state; then the
weight of the other state is the last. -/
def alternate (t : StateTable) : Nat → CodeState → CodeState → Bits → List Nat
  | 0, _, _, _ => []
  | turns + 1, s, other, bits =>
    match t.next? s bits with
    | none => [s.symbol, other.symbol]
    | some (s', bits) => s.symbol :: alternate t turns other s' bits

def codedWeights? (bytes : List UInt8) : Option (List Nat) := do
  let (table, rest) ← StateTable.read? 256 6 bytes
  let bits ← Bits.backward? rest
  let (s, bits) ← table.first? bits
  let (other, bits) ← table.first? bits
  return alternate table 256 s other bits

def portion (weight : Nat) : Nat :=
  if weight = 0 then 0 else 1 <<< (weight - 1)

/-- The table of the weights of all symbols but the last, whose weight makes the whole a power of
two. -/
def ofWeights? (weights : List Nat) : Option CodeTable :=
  let sum := weights.foldl (fun n weight => n + portion weight) 0
  let longest := sum.log2 + 1
  let left := (1 <<< longest) - sum
  let all := weights ++ [left.log2 + 1]
  if sum = 0 || greatestLength < longest || left ≠ 1 <<< left.log2 || 256 < all.length
      || all.count 1 < 2 then none
  else
    let codes := (List.range longest).flatMap fun w =>
      all.zipIdx.flatMap fun (weight, symbol) =>
        if weight = w + 1 then List.replicate (1 <<< w) (symbol.toUInt8, longest - w) else []
    some ⟨longest, codes.toArray⟩

def read? : List UInt8 → Option (CodeTable × List UInt8)
  | [] => none
  | lead :: bytes => do
    let (weights, rest) ←
      if lead.toNat < 128 then do
        let (taken, rest) ← takeBytes? lead.toNat bytes
        let weights ← codedWeights? taken
        pure (weights, rest)
      else directWeights? (lead.toNat - 127) bytes
    let table ← ofWeights? weights
    return (table, rest)

/-- Reads a number of symbols, which must take all bits. `done` holds the symbols before, last
first. -/
def readSymbols? (t : CodeTable) : Nat → List UInt8 → Bits → Option (List UInt8)
  | 0, done, bits => if bits.isEmpty then some done.reverse else none
  | count + 1, done, bits =>
    let (symbol, length) := t.codes.getD (bits.peek t.longest) (0, 0)
    match bits.take? length with
    | none => none
    | some (_, bits) => readSymbols? t count (symbol :: done) bits

def readStream? (t : CodeTable) (count : Nat) (bytes : List UInt8) : Option (List UInt8) :=
  match Bits.backward? bytes with
  | none => none
  | some bits => t.readSymbols? count [] bits

/-- Reads a number of symbols from four streams, of which all but the last yield equally many. The
sizes of the streams but the last stand before them. -/
def readFourStreams? (t : CodeTable) (count : Nat) (bytes : List UInt8) : Option (List UInt8) := do
  let (size1, bytes) ← takeNumber? 2 bytes
  let (size2, bytes) ← takeNumber? 2 bytes
  let (size3, bytes) ← takeNumber? 2 bytes
  let (stream1, bytes) ← takeBytes? size1 bytes
  let (stream2, bytes) ← takeBytes? size2 bytes
  let (stream3, stream4) ← takeBytes? size3 bytes
  let part := (count + 3) / 4
  if count < 3 * part then none
  else
    let symbols1 ← t.readStream? part stream1
    let symbols2 ← t.readStream? part stream2
    let symbols3 ← t.readStream? part stream3
    let symbols4 ← t.readStream? (count - 3 * part) stream4
    return symbols1 ++ symbols2 ++ symbols3 ++ symbols4

end CodeTable

end Lockstep.Zstandard
