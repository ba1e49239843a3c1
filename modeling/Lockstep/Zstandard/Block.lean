import Lockstep.Zstandard.Entropy

set_option autoImplicit false
set_option relaxedAutoImplicit false

/-!
Blocks of compressed data, and the sequences that they are made of.

Sequences: how a block is made of literal bytes and of copies of what has been written before.
-/

namespace Lockstep.Zstandard

/-- One step: how many literals to write, how many bytes to copy after them, and the value that tells
from how far back. -/
structure Sequence where
  literals : Nat
  copied : Nat
  offsetValue : Nat
deriving DecidableEq

/-- What a code stands for: a least value and how many bits are added to it. -/
structure CodeValue where
  least : Nat
  bits : Nat
deriving DecidableEq, Inhabited

namespace Sequence

/-- The values of codes with growing numbers of bits, each beginning where the one before ends. -/
def valuesFrom (least : Nat) : List Nat → List CodeValue
  | [] => []
  | bits :: more => ⟨least, bits⟩ :: valuesFrom (least + (1 <<< bits)) more

def literalValues : Array CodeValue :=
  (valuesFrom 0 (List.replicate 16 0 ++ [1, 1, 1, 1, 2, 2, 3, 3, 4])
    ++ valuesFrom 64 [6, 7, 8, 9, 10, 11, 12, 13, 14, 15, 16]).toArray

def copyValues : Array CodeValue :=
  (valuesFrom 3 (List.replicate 32 0 ++ [1, 1, 1, 1, 2, 2, 3, 3, 4, 4, 5])
    ++ valuesFrom 131 [7, 8, 9, 10, 11, 12, 13, 14, 15, 16]).toArray

def literalShares : Shares :=
  [4, 3, 2, 2, 2, 2, 2, 2, 2, 2, 2, 2, 2, 1, 1, 1, 2, 2, 2, 2, 2, 2, 2, 2, 2, 3, 2, 1, 1, 1, 1, 1,
   -1, -1, -1, -1]

def copyShares : Shares :=
  [1, 4, 3, 2, 2, 2, 2, 2, 2] ++ List.replicate 37 1 ++ List.replicate 7 (-1)

def offsetShares : Shares :=
  [1, 1, 1, 1, 1, 1, 2, 2, 2] ++ List.replicate 15 1 ++ List.replicate 5 (-1)

structure Tables where
  literals : StateTable
  offsets : StateTable
  copies : StateTable

structure States where
  literals : CodeState
  offsets : CodeState
  copies : CodeState

def firstStates? (t : Tables) (bits : Bits) : Option (States × Bits) := do
  let (literals, bits) ← t.literals.first? bits
  let (offsets, bits) ← t.offsets.first? bits
  let (copies, bits) ← t.copies.first? bits
  return (⟨literals, offsets, copies⟩, bits)

def nextStates? (t : Tables) (s : States) (bits : Bits) : Option (States × Bits) := do
  let (literals, bits) ← t.literals.next? s.literals bits
  let (copies, bits) ← t.copies.next? s.copies bits
  let (offsets, bits) ← t.offsets.next? s.offsets bits
  return (⟨literals, offsets, copies⟩, bits)

def ofStates? (s : States) (bits : Bits) : Option (Sequence × Bits) := do
  let copyValue ← copyValues[s.copies.symbol]?
  let literalValue ← literalValues[s.literals.symbol]?
  let (offset, bits) ← bits.take? s.offsets.symbol
  let (copied, bits) ← bits.take? copyValue.bits
  let (literals, bits) ← bits.take? literalValue.bits
  return (⟨literalValue.least + literals, copyValue.least + copied, (1 <<< s.offsets.symbol) + offset⟩, bits)

/-- Reads a number of sequences, which must take all bits. `done` holds those before, last first. -/
def readMore? (t : Tables) : Nat → States → List Sequence → Bits → Option (List Sequence)
  | 0, _, _, _ => none
  | turns + 1, s, done, bits =>
    match ofStates? s bits with
    | none => none
    | some (sequence, bits) =>
      if turns = 0 then if bits.isEmpty then some (sequence :: done).reverse else none
      else
        match nextStates? t s bits with
        | none => none
        | some (s, bits) => readMore? t turns s (sequence :: done) bits

def readStream? (t : Tables) (count : Nat) (bytes : List UInt8) : Option (List Sequence) := do
  let bits ← Bits.backward? bytes
  let (s, bits) ← firstStates? t bits
  readMore? t count s [] bits

end Sequence

structure Recent where
  first : Nat
  second : Nat
  third : Nat
deriving DecidableEq

namespace Recent

def initial : Recent := ⟨1, 4, 8⟩

/-- The offset that a value means, and the offsets used last after it. The least values mean recent
offsets, and one further on where no literals come before. -/
def resolve (r : Recent) (value literals : Nat) : Nat × Recent :=
  if 3 < value then (value - 3, ⟨value - 3, r.first, r.second⟩)
  else
    match if literals = 0 then value + 1 else value with
    | 1 => (r.first, r)
    | 2 => (r.second, ⟨r.second, r.first, r.third⟩)
    | 3 => (r.third, ⟨r.third, r.first, r.second⟩)
    | _ => (r.first - 1, ⟨r.first - 1, r.first, r.second⟩)

end Recent

structure Written where
  bytes : Array UInt8
  recent : Recent

namespace Written

def copyBack (offset : Nat) : Nat → Array UInt8 → Array UInt8
  | 0, bytes => bytes
  | count + 1, bytes => copyBack offset count (bytes.push (bytes.getD (bytes.size - offset) 0))

/-- Writes what sequences say, from literals, and then the literals that remain. An offset must lie
within what has been written. -/
def write? (w : Written) : List Sequence → List UInt8 → Option Written
  | [], literals => some { w with bytes := w.bytes ++ literals }
  | s :: more, literals =>
    let (taken, literals) := literals.splitAt s.literals
    if taken.length < s.literals then none
    else
      let bytes := w.bytes ++ taken
      let (offset, recent) := w.recent.resolve s.offsetValue s.literals
      if offset = 0 || bytes.size < offset then none
      else write? ⟨copyBack offset s.copied bytes, recent⟩ more literals

end Written

/-!
Compressed blocks: a section of literals and a section of sequences. Either may use again the tables of
the blocks before it.
-/

/-- What has been written of a frame, and the tables that its next block may use again. -/
structure Progress where
  written : Written
  codes : Option CodeTable
  literals : Option StateTable
  offsets : Option StateTable
  copies : Option StateTable

namespace Progress

def start : Progress := ⟨⟨#[], .initial⟩, none, none, none, none⟩

end Progress

def greatestBlock : Nat := 131072

/-- Reads the literals of a block where they stand as they are or are one byte repeated. The form of the
sizes is told by the first byte. -/
def readPlainLiterals? (repeated : Bool) (form : Nat) (bytes : List UInt8) :
    Option (List UInt8 × List UInt8) := do
  let width := if form = 1 then 2 else if form = 3 then 3 else 1
  let (header, bytes) ← takeNumber? width bytes
  let size := if width = 1 then header / 8 else header / 16
  if greatestBlock < size then none
  else if repeated then
    match bytes with
    | b :: rest => some (List.replicate size b, rest)
    | [] => none
  else takeBytes? size bytes

/-- Reads the literals of a block where they are coded, by a table of their own or by that of a block
before, and the table. -/
def readCodedLiterals? (before : Option CodeTable) (form : Nat) (bytes : List UInt8) :
    Option ((List UInt8 × CodeTable) × List UInt8) := do
  let (headerSize, width) := if form = 3 then (5, 18) else if form = 2 then (4, 14) else (3, 10)
  let (header, bytes) ← takeNumber? headerSize bytes
  let size := header / 16 % (1 <<< width)
  let (coded, rest) ← takeBytes? ((header >>> (width + 4)) % (1 <<< width)) bytes
  if greatestBlock < size then none
  else
    let (table, streams) ←
      match before with
      | some table => some (table, coded)
      | none => CodeTable.read? coded
    let literals ←
      if form = 0 then table.readStream? size streams else table.readFourStreams? size streams
    return ((literals, table), rest)

/-- Reads the literals of a block and the table of codes that the next block may use again. -/
def readLiterals? (before : Option CodeTable) (bytes : List UInt8) :
    Option ((List UInt8 × Option CodeTable) × List UInt8) :=
  match bytes with
  | [] => none
  | lead :: _ =>
    let form := lead.toNat / 4 % 4
    match lead.toNat % 4 with
    | 0 => (readPlainLiterals? false form bytes).map fun (literals, rest) =>
      ((literals, before), rest)
    | 1 => (readPlainLiterals? true form bytes).map fun (literals, rest) =>
      ((literals, before), rest)
    | 2 => (readCodedLiterals? none form bytes).map fun ((literals, table), rest) =>
      ((literals, some table), rest)
    | _ =>
      match before with
      | none => none
      | some table => (readCodedLiterals? (some table) form bytes).map fun ((literals, _), rest) =>
        ((literals, some table), rest)

structure CodeKind where
  shares : Shares
  accuracy : Nat
  limit : Nat
  greatestAccuracy : Nat

def literalCodes : CodeKind := ⟨Sequence.literalShares, 6, 36, 9⟩

def offsetCodes : CodeKind := ⟨Sequence.offsetShares, 5, 32, 8⟩

def copyCodes : CodeKind := ⟨Sequence.copyShares, 6, 53, 9⟩

/-- Reads the table of one part of a sequence by its mode: the one that holds where none is given, a
single code, one that is described, or that of a block before. -/
def readTable? (kind : CodeKind) (before : Option StateTable) (mode : Nat) (bytes : List UInt8) :
    Option (StateTable × List UInt8) :=
  match mode with
  | 0 => some (.ofShares kind.accuracy kind.shares, bytes)
  | 1 =>
    match bytes with
    | code :: rest => if code.toNat < kind.limit then some (.single code.toNat, rest) else none
    | [] => none
  | 2 => StateTable.read? kind.limit kind.greatestAccuracy bytes
  | _ => before.map fun table => (table, bytes)

def readCount? : List UInt8 → Option (Nat × List UInt8)
  | [] => none
  | a :: rest =>
    if a.toNat < 128 then some (a.toNat, rest)
    else
      match rest with
      | b :: rest =>
        if a.toNat < 255 then some ((a.toNat - 128) * 256 + b.toNat, rest)
        else
          match rest with
          | c :: rest => some (b.toNat + c.toNat * 256 + 0x7F00, rest)
          | [] => none
      | [] => none

def writeBlock? (p : Progress) (bytes : List UInt8) : Option Progress := do
  let ((literals, codes), bytes) ← readLiterals? p.codes bytes
  let (count, bytes) ← readCount? bytes
  if count = 0 then
    if bytes.isEmpty then
      let written ← p.written.write? [] literals
      return { p with written, codes }
    else none
  else
    match bytes with
    | [] => none
    | modes :: bytes =>
      if modes.toNat % 4 ≠ 0 then none
      else
        let (literalTable, bytes) ←
          readTable? literalCodes p.literals (modes.toNat / 64) bytes
        let (offsetTable, bytes) ← readTable? offsetCodes p.offsets (modes.toNat / 16 % 4) bytes
        let (copyTable, bytes) ← readTable? copyCodes p.copies (modes.toNat / 4 % 4) bytes
        let sequences ← Sequence.readStream? ⟨literalTable, offsetTable, copyTable⟩ count bytes
        let written ← p.written.write? sequences literals
        if greatestBlock < written.bytes.size - p.written.bytes.size then none
        else return ⟨written, codes, some literalTable, some offsetTable, some copyTable⟩

end Lockstep.Zstandard
