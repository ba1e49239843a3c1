import Lockstep.Trace.Basic
import Lockstep.Unicode.Property

set_option autoImplicit false
set_option relaxedAutoImplicit false

/-!
Faults and their messages, with the texts that messages quote.

Quoted texts for messages. Between double quotes every character is shown so that it can be told
apart: what is not printable and what would attach to its neighbour is written by its code point.
-/

namespace Lockstep.Text

/-- Characters without a glyph of their own: controls, formats, separators and the unassigned. -/
private def unprintable : CharSet :=
  .normalize (Unicode.unassigned ++ Unicode.categoryUnion
    [.control, .format, .surrogate, .privateUse, .lineSeparator, .paragraphSeparator,
     .spaceSeparator])

/-- A character is printable when it has a glyph; of the separators only the plain space counts. -/
def isPrintable (c : Char) : Bool :=
  c = ' ' || !unprintable.contains c

private def codeEscape (c : Char) : Text :=
  '\\' :: 'u' :: '\x7b' :: (hexadecimal c.toNat ++ ['\x7d'])

def quoteChar (c : Char) : Text :=
  if c = '"' then ['\\', '"']
  else if c = '\\' then ['\\', '\\']
  else if c = '\n' then ['\\', 'n']
  else if c = '\t' then ['\\', 't']
  else if c = '\r' then ['\\', 'r']
  else if c = '\x00' then ['\\', '0']
  else if ' ' ≤ c ∧ c ≤ '~' then [c]
  else if Unicode.graphemeExtend.contains c || !isPrintable c then codeEscape c
  else [c]

def quoted (t : Text) : Text :=
  '"' :: (t.flatMap quoteChar ++ ['"'])

end Lockstep.Text

/-!
The causes for which a comparison cannot take place, and their messages. A divergence is a result and
never a fault.
-/

namespace Lockstep

inductive ReadFailure where
  | notFound
  | notADirectory
  | isADirectory
  | nameTooLong
  | nameHasNul
  | permissionDenied
  | other (cause : Text)
deriving DecidableEq

namespace ReadFailure

def message : ReadFailure → Text
  | .notFound => "No such file or directory (os error 2)".toList
  | .notADirectory => "Not a directory (os error 20)".toList
  | .isADirectory => "Is a directory (os error 21)".toList
  | .nameTooLong => "File name too long (os error 36)".toList
  | .nameHasNul => "file name contained an unexpected NUL byte".toList
  | .permissionDenied => "Permission denied (os error 13)".toList
  | .other cause => cause

end ReadFailure

/-- The causes that stop a comparison: a trace that cannot be read, no line with the start marker, an
offset that leads outside the reference, no line to align with, and a pattern that is refused. -/
inductive Fault where
  | unreadable (path : Text) (cause : ReadFailure)
  | markerNotFound (marker path : Text)
  | offsetOutOfRange (offset : Int) (start lines : Nat)
  | targetNotFound (target : Key) (start : Nat) (path : Text)
  | patternRefused (source : Text) (refusal : Regex.Refusal)
deriving DecidableEq

namespace Fault

def message : Fault → Text
  | .unreadable path cause => "failed to read ".toList ++ path ++ ": ".toList ++ cause.message
  | .markerNotFound marker path =>
    "no line containing ".toList ++ Text.quoted marker ++ " in ".toList ++ path
  | .offsetOutOfRange offset start lines =>
    "offset ".toList ++ Text.signedDecimal offset ++ " from trace start at line ".toList
      ++ Text.decimal (start + 1) ++ " is outside the reference (".toList ++ Text.decimal lines
      ++ " lines)".toList
  | .targetNotFound target start path =>
    "no alignment found: ".toList ++ target.display ++ " does not appear in ".toList ++ path
      ++ " at or after line ".toList ++ Text.decimal (start + 1)
  | .patternRefused source .noGroup =>
    "pattern ".toList ++ Text.quoted source ++ " has no capture group".toList
  | .patternRefused source (.invalid description) =>
    "invalid pattern ".toList ++ Text.quoted source ++ ": ".toList ++ description

end Fault

end Lockstep
