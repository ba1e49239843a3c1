import Lockstep.Report
import Lockstep.Proofs.Text.Numeral
import Lockstep.Text.Basic
import Mathlib.Data.Rat.Defs

set_option autoImplicit false
set_option relaxedAutoImplicit false

/-!
JSON texts as any program reads them. The decoder takes the whole format and not only what reports are
written in: blanks between tokens, every escape, numbers with sign, fraction and exponent, arrays. Numbers
keep their exact value.
-/

namespace Lockstep.Json

inductive Value where
  | null
  | bool (value : Bool)
  | number (value : ℚ)
  | string (value : Text)
  | array (elements : List Value)
  | object (members : List (Text × Value))

def isSpace (c : Char) : Bool :=
  c = ' ' || c = '\t' || c = '\n' || c = '\r'

def skipSpace (t : Text) : Text :=
  t.dropWhile isSpace

def codeUnit? : Text → Option (Nat × Text)
  | a :: b :: c :: d :: rest =>
    if [a, b, c, d].all Text.isHexDigit then some (Text.hexNumber [a, b, c, d], rest) else none
  | _ => none

/-- The character of a code unit, or of a high surrogate and the low one that must follow it. -/
def codePoint? (t : Text) : Option (Char × Text) :=
  (codeUnit? t).bind fun (unit, rest) =>
    if unit < 0xD800 ∨ 0xE000 ≤ unit then some (Char.ofNat unit, rest)
    else if 0xDC00 ≤ unit then none
    else (Text.after? "\\u".toList rest).bind fun rest => (codeUnit? rest).bind fun (low, rest) =>
      if 0xDC00 ≤ low ∧ low < 0xE000 then
        some (Char.ofNat (0x10000 + (unit - 0xD800) * 0x400 + (low - 0xDC00)), rest)
      else none

/-- The character that a letter or sign behind a backslash stands for. -/
def shortEscape? : Char → Option Char
  | '"' => some '"'
  | '\\' => some '\\'
  | '/' => some '/'
  | 'b' => some '\x08'
  | 'f' => some '\x0c'
  | 'n' => some '\n'
  | 'r' => some '\r'
  | 't' => some '\t'
  | _ => none

/-- One character between quotes, escaped or as it is. Quotes and control characters are never as they
are. -/
def char? : Text → Option (Char × Text)
  | '\\' :: 'u' :: rest => codePoint? rest
  | '\\' :: c :: rest => (shortEscape? c).map fun escaped => (escaped, rest)
  | c :: rest => if c < ' ' ∨ c = '"' ∨ c = '\\' then none else some (c, rest)
  | [] => none

def chars? : Nat → Text → Option (Text × Text)
  | 0, _ => none
  | fuel + 1, t =>
    match char? t with
    | some (c, rest) => (chars? fuel rest).map fun (cs, rest) => (c :: cs, rest)
    | none => (Text.after? ['"'] t).map fun rest => ([], rest)

def string? : Text → Option (Text × Text)
  | '"' :: rest => chars? rest.length rest
  | _ => none

def digits? (t : Text) : Option (Text × Text) :=
  if (t.takeWhile Char.isDigit).isEmpty then none
  else some (t.takeWhile Char.isDigit, t.dropWhile Char.isDigit)

/-- The digits before a point, with a zero in front only if it is the only one. -/
def whole? : Text → Option (Text × Text)
  | '0' :: rest => some (['0'], rest)
  | t => digits? t

def fraction? : Text → Option (Text × Text)
  | '.' :: rest => digits? rest
  | t => some ([], t)

def power? : Text → Option (Int × Text)
  | '-' :: rest => (digits? rest).map fun (digits, rest) => (-(Nat.ofDigitChars 10 digits 0), rest)
  | '+' :: rest => (digits? rest).map fun (digits, rest) => (Nat.ofDigitChars 10 digits 0, rest)
  | t => (digits? t).map fun (digits, rest) => (Nat.ofDigitChars 10 digits 0, rest)

def exponent? : Text → Option (Int × Text)
  | 'e' :: rest => power? rest
  | 'E' :: rest => power? rest
  | t => some (0, t)

def scaled (n : Nat) : Int → ℚ
  | .ofNat e => (n * 10 ^ e : Nat)
  | .negSucc e => mkRat n (10 ^ (e + 1))

def magnitude? (t : Text) : Option (ℚ × Text) :=
  (whole? t).bind fun (whole, rest) => (fraction? rest).bind fun (fraction, rest) =>
    (exponent? rest).map fun (exponent, rest) =>
      (scaled (Nat.ofDigitChars 10 (whole ++ fraction) 0) (exponent - fraction.length), rest)

def number? : Text → Option (ℚ × Text)
  | '-' :: rest => (magnitude? rest).map fun (n, rest) => (-n, rest)
  | t => magnitude? t

section Reader

variable {α : Type} (element? : Text → Option (α × Text))

/-- Elements with commas between them, at least one, up to a closing bracket. -/
def elements? (closing : Char) : Nat → Text → Option (List α × Text)
  | 0, _ => none
  | fuel + 1, t =>
    (element? t).bind fun (a, rest) =>
      match skipSpace rest with
      | [] => none
      | c :: rest =>
        if c = closing then some ([a], rest)
        else if c = ',' then
          (elements? closing fuel rest).map fun (others, rest) => (a :: others, rest)
        else none

/-- What stands between brackets, of which the opening one is read already. -/
def sequence? (closing : Char) (t : Text) : Option (List α × Text) :=
  match Text.after? [closing] (skipSpace t) with
  | some rest => some ([], rest)
  | none => elements? element? closing t.length t

def member? (t : Text) : Option ((Text × α) × Text) :=
  (string? (skipSpace t)).bind fun (name, rest) =>
    (Text.after? [':'] (skipSpace rest)).bind fun rest =>
      (element? rest).map fun (a, rest) => ((name, a), rest)

end Reader

/-- A value with the blanks before it, nested no deeper than the fuel. -/
def value? : Nat → Text → Option (Value × Text)
  | 0, _ => none
  | fuel + 1, t =>
    match skipSpace t with
    | 'n' :: rest => (Text.after? "ull".toList rest).map fun rest => (.null, rest)
    | 't' :: rest => (Text.after? "rue".toList rest).map fun rest => (.bool true, rest)
    | 'f' :: rest => (Text.after? "alse".toList rest).map fun rest => (.bool false, rest)
    | '[' :: rest =>
      (sequence? (value? fuel) ']' rest).map fun (elements, rest) => (.array elements, rest)
    | '\x7b' :: rest =>
      (sequence? (member? (value? fuel)) '\x7d' rest).map fun (members, rest) =>
        (.object members, rest)
    | '"' :: rest => (string? ('"' :: rest)).map fun (text, rest) => (.string text, rest)
    | t => (number? t).map fun (n, rest) => (.number n, rest)

/-- The value of a text, with blanks around it and nothing else. A value is never nested deeper than
its text is long. -/
def decode? (t : Text) : Option Value :=
  (value? (t.length + 1) t).bind fun (v, rest) => if (skipSpace rest).isEmpty then some v else none

end Lockstep.Json
