import Lockstep.Fault
import Lockstep.Trace.Basic

set_option autoImplicit false
set_option relaxedAutoImplicit false

/-!
Reading of traces. Where the bytes of a file come from is left open: a storage is any function from paths
to bytes. Files whose names end in `.zst` hold compressed bytes.
-/

namespace Lockstep

abbrev Storage := Text → Except ReadFailure (List UInt8)

namespace Storage

def pathNames (path : Text) : List Text :=
  path.splitOn '/'

/-- The name of the file that a path leads to. Slashes and single dots at the end of a path are
passed over. -/
def fileName? (path : Text) : Option Text :=
  match (pathNames path).reverse.dropWhile fun name => name = [] || name = ['.'] with
  | [] => none
  | name :: _ => some name

/-- What follows the last dot of a name, unless the dot stands first or the name is that of the parent
directory. -/
def extension? (name : Text) : Option Text :=
  if name = ['.', '.'] then none
  else
    match (name.reverse.span fun c => c != '.') with
    | (last, '.' :: _ :: _) => some last.reverse
    | _ => none

/-- Whether a path leads to a file of compressed bytes by its extension. -/
def isCompressed (path : Text) : Bool :=
  (fileName? path).bind extension? = some "zst".toList

/-- What a reader gets from the bytes at a path: what was compressed to them where the path says that
they are compressed, and otherwise the bytes themselves. -/
def payload (lib : Library) (path : Text) (raw : List UInt8) : Except ReadFailure (List UInt8) :=
  if isCompressed path then (lib.decompress raw).mapError .other else .ok raw

def bytes (lib : Library) (storage : Storage) (path : Text) : Except ReadFailure (List UInt8) :=
  match storage path with
  | .error cause => .error cause
  | .ok raw => payload lib path raw

end Storage

def TraceFile.readBy (lib : Library) (storage : Storage) (path : Text) : Except Fault TraceFile :=
  match storage.bytes lib path with
  | .error cause => .error (.unreadable path cause)
  | .ok bytes => .ok ⟨path, Text.lines bytes⟩

end Lockstep
