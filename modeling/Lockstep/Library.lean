import Lockstep.Text.Basic

set_option autoImplicit false
set_option relaxedAutoImplicit false

/-!
What the program takes from libraries: regular expressions and decompression. Both are left open, so that
whatever is proved of the program holds for every library that has the two.
-/

namespace Lockstep

/-- A compiled regular expression, by the greatest number of its groups and by what its first group is in
the leftmost match of a line: the text that the group matches, and the text after it. -/
structure Regex where
  groups : Nat
  firstGroup? : Text → Option (Text × Text)

/-- Why a regular expression cannot cut out a field: it does not compile, for a reason that the library
describes, or it has no group. -/
inductive Regex.Refusal where
  | invalid (description : Text)
  | noGroup
deriving DecidableEq

/-- The functions of libraries that the program calls. Each describes its failures in words. -/
structure Library where
  compile : Text → Except Text Regex
  decompress : List UInt8 → Except Text (List UInt8)

/-- Compiles a regular expression that is to cut out a field, and so must have a group. -/
def Library.regex (lib : Library) (source : Text) : Except Regex.Refusal Regex :=
  match lib.compile source with
  | .error description => .error (.invalid description)
  | .ok regex => if regex.groups = 0 then .error .noGroup else .ok regex

end Lockstep
