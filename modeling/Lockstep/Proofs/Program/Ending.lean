import Lockstep.Program
import Lockstep.Proofs.CommandLine.Reading
import Lockstep.Proofs.Pattern.HexField
import Lockstep.Proofs.Storage.Reading

set_option autoImplicit false
set_option relaxedAutoImplicit false

/-!
How the program ends on an accepted command line. The first thing that goes wrong decides, in the order
of patterns, reference, dump and comparison; where nothing does, the outcome alone gives the report, and
the status with it only where divergences are to be failures.
-/

namespace Lockstep

namespace Library

variable {lib : Library} {source : Text}

end Library

namespace CommandLine

variable {lib : Library}

namespace Invocation

section

variable {i i' : Invocation} {storage : Storage} (same : i'.unflagged = i.unflagged)

include same

end

end Invocation

end CommandLine

namespace Program

open CommandLine

end Program

end Lockstep
