import Lockstep.Text.CharSet

set_option autoImplicit false
set_option relaxedAutoImplicit false

/-!
Texts. A text is a list of characters, so that every law about texts is a law about lists; files hold
texts as bytes, line by line.

Blank characters and the trimming of texts.
-/

namespace Lockstep

abbrev Text := List Char

namespace Text

def blanks : CharSet :=
  [⟨0x9, 0xD⟩, ⟨0x20, 0x20⟩, ⟨0x85, 0x85⟩, ⟨0xA0, 0xA0⟩, ⟨0x1680, 0x1680⟩, ⟨0x2000, 0x200A⟩,
   ⟨0x2028, 0x2029⟩, ⟨0x202F, 0x202F⟩, ⟨0x205F, 0x205F⟩, ⟨0x3000, 0x3000⟩]

def isBlank (c : Char) : Bool :=
  blanks.contains c

def trimStart (t : Text) : Text :=
  t.dropWhile isBlank

def trimEnd (t : Text) : Text :=
  (t.reverse.dropWhile isBlank).reverse

def trim (t : Text) : Text :=
  trimEnd (trimStart t)

end Text

end Lockstep

/-!
Finding one text in another. A text splits at the first occurrence of a separator; the empty text
occurs at the start of every text.
-/

namespace Lockstep.Text

def after? : Text → Text → Option Text
  | [], t => some t
  | _ :: _, [] => none
  | a :: lead, b :: t => if a = b then after? lead t else none

def occursIn (part : Text) : Text → Bool
  | [] => part.isEmpty
  | c :: t => part.isPrefixOf (c :: t) || occursIn part t

/-- The texts before and after the first occurrence of a separator. -/
def splitFirst? (separator : Text) : Text → Option (Text × Text)
  | [] => (after? separator []).map fun rest => ([], rest)
  | c :: t =>
    match after? separator (c :: t) with
    | some rest => some ([], rest)
    | none => (splitFirst? separator t).map fun (before, rest) => (c :: before, rest)

/-!
Numbers as texts: plain decimals without leading zeros, and hexadecimal digits.
-/

def decimal (n : Nat) : Text :=
  Nat.toDigits 10 n

/-- The decimal numeral of an integer, with a minus sign below zero. -/
def signedDecimal : Int → Text
  | .ofNat n => decimal n
  | .negSucc n => '-' :: decimal (n + 1)

/-- The number of a plain decimal numeral, which may begin with zeros. -/
def natural? (t : Text) : Option Nat :=
  if !t.isEmpty && t.all Char.isDigit then some (Nat.ofDigitChars 10 t 0) else none

def integer? : Text → Option Int
  | '-' :: t => (natural? t).map fun n => -(n : Int)
  | '+' :: t => (natural? t).map fun n => (n : Int)
  | t => (natural? t).map fun n => (n : Int)

def hexValue? (c : Char) : Option Nat :=
  if '0' ≤ c ∧ c ≤ '9' then some (c.toNat - '0'.toNat)
  else if 'a' ≤ c ∧ c ≤ 'f' then some (c.toNat - 'a'.toNat + 10)
  else if 'A' ≤ c ∧ c ≤ 'F' then some (c.toNat - 'A'.toNat + 10)
  else none

/-- Whether a character is an ASCII hexadecimal digit of either case. -/
def isHexDigit (c : Char) : Bool :=
  (hexValue? c).isSome

/-- The hexadecimal numeral of a natural number, in lower case. -/
def hexadecimal (n : Nat) : Text :=
  Nat.toDigits 16 n

/-!
Texts as bytes. Decoding never fails: each maximal part of the bytes that cannot be continued to a
character becomes one replacement character.
-/

/-- The character that stands for bytes that make no character. -/
def replacement : Char := '\ufffd'

def encode (t : Text) : List UInt8 :=
  t.flatMap String.utf8EncodeChar

/-- What the bytes so far call for: the start of a character, or `count` more bytes of one, the next
of them between `low` and `high`. -/
inductive Expecting where
  | start
  | more (count value : Nat) (low high : UInt8)
deriving DecidableEq

/-- What the first byte of a character yields and what it then calls for. -/
def lead (b : UInt8) : Text × Expecting :=
  if b < 0x80 then ([Char.ofNat b.toNat], .start)
  else if 0xC2 ≤ b ∧ b ≤ 0xDF then ([], .more 1 (b.toNat - 0xC0) 0x80 0xBF)
  else if b = 0xE0 then ([], .more 2 0 0xA0 0xBF)
  else if b = 0xED then ([], .more 2 0xD 0x80 0x9F)
  else if 0xE1 ≤ b ∧ b ≤ 0xEF then ([], .more 2 (b.toNat - 0xE0) 0x80 0xBF)
  else if b = 0xF0 then ([], .more 3 0 0x90 0xBF)
  else if 0xF1 ≤ b ∧ b ≤ 0xF3 then ([], .more 3 (b.toNat - 0xF0) 0x80 0xBF)
  else if b = 0xF4 then ([], .more 3 4 0x80 0x8F)
  else ([replacement], .start)

/-- What one byte yields after others, and what it then calls for. A byte that does not continue the
character before it ends that character's bytes and is read as a first byte. -/
def Expecting.next (b : UInt8) : Expecting → Text × Expecting
  | .start => lead b
  | .more count value low high =>
    if low ≤ b ∧ b ≤ high then
      let value := value * 64 + (b.toNat - 0x80)
      if count ≤ 1 then ([Char.ofNat value], .start)
      else ([], .more (count - 1) value 0x80 0xBF)
    else
      let (text, state) := lead b
      (replacement :: text, state)

def decodeFrom : Expecting → List UInt8 → Text
  | .start, [] => []
  | .more .., [] => [replacement]
  | state, b :: rest =>
    let (text, state) := state.next b
    text ++ decodeFrom state rest

/-- Decodes bytes, with a replacement character for each maximal part that makes none. -/
def decode (bytes : List UInt8) : Text :=
  decodeFrom .start bytes

/-!
Lines of a file. A line feed ends a line, carriage returns before it go with it, and a last line needs
no line feed.
-/

def lineFeed : UInt8 := 0x0A

def carriageReturn : UInt8 := 0x0D

/-- Puts a byte before pieces: a line feed ends a piece of its own, any other byte belongs to the
piece that follows it. -/
def putByte (b : UInt8) : List (List UInt8) → List (List UInt8)
  | [] => [[b]]
  | c :: cs => if b = lineFeed then [b] :: c :: cs else (b :: c) :: cs

/-- Cuts bytes after each line feed, into pieces that are not empty. -/
def pieces (bytes : List UInt8) : List (List UInt8) :=
  bytes.foldr putByte []

/-- Drops all line feeds and carriage returns at the end of a line's bytes. -/
def dropLineEnd (bytes : List UInt8) : List UInt8 :=
  (bytes.reverse.dropWhile fun b => b = lineFeed || b = carriageReturn).reverse

def lines (bytes : List UInt8) : List Text :=
  (pieces bytes).map fun piece => decode (dropLineEnd piece)

end Lockstep.Text
