import Lockstep.Text.Basic
import Lockstep.Zstandard.Block
import Lockstep.Zstandard.Entropy

set_option autoImplicit false
set_option relaxedAutoImplicit false

/-!
Decompression of files, frame by frame, up to the end of the file or the first defect.

Defects of compressed data, and what is said of them.
-/

namespace Lockstep.Zstandard

inductive Defect where
  | unknownFrame
  | unsupportedFrame
  | dictionaryMissing
  | windowTooLarge
  | corrupted
  | wrongChecksum
  | incomplete
deriving DecidableEq

namespace Defect

def message : Defect → Text
  | .unknownFrame => "Unknown frame descriptor".toList
  | .unsupportedFrame => "Unsupported frame parameter".toList
  | .dictionaryMissing => "Dictionary mismatch".toList
  | .windowTooLarge => "Frame requires too much memory for decoding".toList
  | .corrupted => "Data corruption detected".toList
  | .wrongChecksum => "Restored data doesn't match checksum".toList
  | .incomplete => "incomplete frame".toList

end Defect

end Lockstep.Zstandard

/-!
Checksums of frames: the low half of a hash of 64 bits, in which four lanes take turns over the bytes.
-/

namespace Lockstep.Zstandard.Checksum

def factor1 : UInt64 := 0x9E3779B185EBCA87

def factor2 : UInt64 := 0xC2B2AE3D27D4EB4F

def factor3 : UInt64 := 0x165667B19E3779F9

def factor4 : UInt64 := 0x85EBCA77C2B2AE63

def factor5 : UInt64 := 0x27D4EB2F165667C5

def turn (w : UInt64) (count : UInt64) : UInt64 :=
  (w <<< count) ||| (w >>> (64 - count))

def word (bytes : List UInt8) : UInt64 :=
  (number bytes).toUInt64

def mix (lane w : UInt64) : UInt64 :=
  turn (lane + w * factor2) 31 * factor1

structure Lanes where
  a : UInt64
  b : UInt64
  c : UInt64
  d : UInt64

def Lanes.start : Lanes := ⟨factor1 + factor2, factor2, 0, 0 - factor1⟩

def stripes : Nat → Lanes → List UInt8 → Lanes × List UInt8
  | 0, l, bytes => (l, bytes)
  | turns + 1, l, bytes =>
    stripes turns
      ⟨mix l.a (word (bytes.take 8)), mix l.b (word ((bytes.drop 8).take 8)),
        mix l.c (word ((bytes.drop 16).take 8)), mix l.d (word ((bytes.drop 24).take 8))⟩
      (bytes.drop 32)

def join (hash lane : UInt64) : UInt64 :=
  (hash ^^^ mix 0 lane) * factor1 + factor4

def Lanes.hash (l : Lanes) : UInt64 :=
  [l.a, l.b, l.c, l.d].foldl join (turn l.a 1 + turn l.b 7 + turn l.c 12 + turn l.d 18)

def addBytes (hash : UInt64) (bytes : List UInt8) : UInt64 :=
  bytes.foldl (fun hash b => turn (hash ^^^ b.toUInt64 * factor5) 11 * factor1) hash

def addHalf (hash : UInt64) (bytes : List UInt8) : UInt64 :=
  if bytes.length < 4 then addBytes hash bytes
  else
    addBytes (turn (hash ^^^ word (bytes.take 4) * factor1) 23 * factor2 + factor3) (bytes.drop 4)

def addWords : Nat → UInt64 → List UInt8 → UInt64
  | 0, hash, bytes => addHalf hash bytes
  | turns + 1, hash, bytes =>
    addWords turns (turn (hash ^^^ mix 0 (word (bytes.take 8))) 27 * factor1 + factor4)
      (bytes.drop 8)

def spread (hash : UInt64) : UInt64 :=
  let hash := (hash ^^^ (hash >>> 33)) * factor2
  let hash := (hash ^^^ (hash >>> 29)) * factor3
  hash ^^^ (hash >>> 32)

def hash (bytes : List UInt8) : UInt64 :=
  let length := bytes.length
  let (start, rest) :=
    if length < 32 then (factor5, bytes)
    else
      let (lanes, rest) := stripes (length / 32) .start bytes
      (lanes.hash, rest)
  spread (addWords (length % 32 / 8) (start + length.toUInt64) rest)

def of (bytes : List UInt8) : Nat :=
  (hash bytes).toNat % 0x100000000

end Lockstep.Zstandard.Checksum

/-!
Frames: compressed data as a file holds it. A frame has a header, blocks, and perhaps a checksum; frames
may follow each other, and some are to be skipped.
-/

namespace Lockstep.Zstandard

structure Header where
  blockLimit : Nat
  contentSize : Option Nat
  hasChecksum : Bool
deriving DecidableEq

def frameMagic : Nat := 0xFD2FB528

/-- The number with which frames begin that are to be skipped; any last digit will do. -/
def skippedMagic : Nat := 0x184D2A50

def greatestWindow : Nat := 0x8000001

def greatestDescription : Nat := 0xFFFFFFFF

def need {α : Type} (read : Option α) : Except Defect α :=
  match read with
  | some a => .ok a
  | none => .error .incomplete

def numberBytes : Nat → Nat → List UInt8
  | 0, _ => []
  | count + 1, n => (n % 256).toUInt8 :: numberBytes count (n / 256)

def mayBegin (bytes : List UInt8) : Bool :=
  bytes.isPrefixOf (numberBytes 4 frameMagic) ||
    match bytes with
    | [] => true
    | b :: rest => b.toNat / 16 = 5 && rest.isPrefixOf ((numberBytes 4 skippedMagic).drop 1)

namespace Header

/-- The size of a window by its description: a power of two and up to seven eighths of it. -/
def windowSize (description : Nat) : Nat :=
  let base := 1 <<< (10 + description / 8)
  base + base / 8 * (description % 8)

def read (bytes : List UInt8) : Except Defect (Header × List UInt8) := do
  let (descriptor, bytes) ← need (takeNumber? 1 bytes)
  let single := descriptor / 32 % 2 = 1
  let sizeForm := descriptor / 64
  if descriptor / 8 % 2 = 1 then .error .unsupportedFrame
  else
    let (window, bytes) ←
      if single then pure (0, bytes)
      else (need (takeNumber? 1 bytes)).map fun (w, bytes) => (windowSize w, bytes)
    let dictionaryForm := descriptor % 4
    let (dictionary, bytes) ←
      need (takeNumber? (if dictionaryForm = 3 then 4 else dictionaryForm) bytes)
    let (size, bytes) ←
      match sizeForm with
      | 0 =>
        if single then (need (takeNumber? 1 bytes)).map fun (n, bytes) => (some n, bytes)
        else pure (none, bytes)
      | 1 => (need (takeNumber? 2 bytes)).map fun (n, bytes) => (some (n + 256), bytes)
      | 2 => (need (takeNumber? 4 bytes)).map fun (n, bytes) => (some n, bytes)
      | _ => (need (takeNumber? 8 bytes)).map fun (n, bytes) => (some n, bytes)
    let window := if single then size.getD 0 else window
    if !single && greatestDescription < window then .error .windowTooLarge
    else if dictionary ≠ 0 then .error .dictionaryMissing
    else if greatestWindow < window then .error .windowTooLarge
    else .ok (⟨min window greatestBlock, size, descriptor / 4 % 2 = 1⟩, bytes)

end Header

/-- Reads blocks up to the last of a frame: bytes as they are, one byte repeated, or compressed. -/
def readBlocks (limit : Nat) : Nat → Progress → List UInt8 →
    Except Defect (List UInt8 × List UInt8)
  | 0, _, _ => .error .incomplete
  | turns + 1, p, bytes => do
    let (header, bytes) ← need (takeNumber? 3 bytes)
    let size := header / 8
    let (p, bytes) ←
      match header / 2 % 4 with
      | 0 =>
        if limit < size then .error .corrupted
        else do
          let (content, bytes) ← need (takeBytes? size bytes)
          pure ({ p with written.bytes := p.written.bytes ++ content }, bytes)
      | 1 => do
        let (content, bytes) ← need (takeBytes? 1 bytes)
        if limit < size then .error .corrupted
        else
          pure ({ p with
            written.bytes := p.written.bytes ++ content.flatMap (List.replicate size ·) }, bytes)
      | 2 =>
        if limit < size then .error .corrupted
        else do
          let (content, bytes) ← need (takeBytes? size bytes)
          match writeBlock? p content with
          | some p => pure (p, bytes)
          | none => .error .corrupted
      | _ => .error .corrupted
    if header % 2 = 1 then .ok (p.written.bytes.toList, bytes) else readBlocks limit turns p bytes

/-- Reads a frame after the number with which it begins: what was compressed, and the bytes after
the frame. -/
def readFrame (bytes : List UInt8) : Except Defect (List UInt8 × List UInt8) := do
  let (header, bytes) ← Header.read bytes
  let (content, bytes) ← readBlocks header.blockLimit (bytes.length + 1) .start bytes
  if header.contentSize.any (· ≠ content.length) then .error .corrupted
  else if header.hasChecksum then
    let (checksum, bytes) ← need (takeNumber? 4 bytes)
    if checksum = Checksum.of content then .ok (content, bytes) else .error .wrongChecksum
  else .ok (content, bytes)

def readFrames : Nat → List UInt8 → Except Defect (List UInt8)
  | 0, _ => .error .incomplete
  | turns + 1, bytes => do
    let (content, rest) ←
      match takeNumber? 4 bytes with
      | none => .error (if mayBegin bytes then .incomplete else .unknownFrame)
      | some (magic, rest) =>
        if magic = frameMagic then readFrame rest
        else if magic / 16 = skippedMagic / 16 then do
          let (size, rest) ← need (takeNumber? 4 rest)
          let (_, rest) ← need (takeBytes? size rest)
          pure ([], rest)
        else .error .unknownFrame
    if rest.isEmpty then .ok content else (readFrames turns rest).map (content ++ ·)

def decompress (bytes : List UInt8) : Except Defect (List UInt8) :=
  readFrames (bytes.length + 1) bytes

def storedBlocks : Nat → List UInt8 → List UInt8
  | 0, _ => []
  | turns + 1, bytes =>
    let content := bytes.take greatestBlock
    let rest := bytes.drop greatestBlock
    numberBytes 3 (content.length * 8 + if rest.isEmpty then 1 else 0) ++ content ++
      if rest.isEmpty then [] else storedBlocks turns rest

def store (bytes : List UInt8) : List UInt8 :=
  numberBytes 4 frameMagic ++ [0, 0x38] ++ storedBlocks (bytes.length + 1) bytes

end Lockstep.Zstandard
