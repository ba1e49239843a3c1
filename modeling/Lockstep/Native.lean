import Lockstep.Configuration
import Lockstep.Pattern.Matcher
import Lockstep.Storage.Basic
import Lockstep.Zstandard.Frame

set_option autoImplicit false
set_option relaxedAutoImplicit false

/-!
The library that the program runs with: the regular expressions and the decompression of this project.
-/

namespace Lockstep

/-- The regular expressions and the decompression of this project. -/
def Library.native : Library where
  compile := Pattern.compile
  decompress bytes := (Zstandard.decompress bytes).mapError Zstandard.Defect.message

def Extractor.ofPattern? : Text → Except Fault Extractor :=
  Library.native.extractor?

/-- Two logs from which patterns cut the addresses, compared from their starts. -/
def Configuration.joints : Text → Text → Except Fault Configuration :=
  jointsBy .native

def TraceFile.read : Storage → Text → Except Fault TraceFile :=
  readBy .native

end Lockstep
