import Lockstep.Main
import Lockstep.Session
import Lockstep.Storage.Directory
import Lockstep.Proofs.Alignment.FirstLine
import Lockstep.Proofs.Alignment.Reckoning
import Lockstep.Proofs.Comparison.Agreement
import Lockstep.Proofs.Comparison.Disagreement
import Lockstep.Proofs.Comparison.Index
import Lockstep.Proofs.Configuration.Resolution
import Lockstep.Proofs.Trace.Listing
import Lockstep.Proofs.Configuration.Growth
import Lockstep.Proofs.Outcome.WellFormed
import Lockstep.Proofs.Text.Numeral
import Lockstep.Proofs.Text.Search
import Lockstep.Proofs.Trace.Address
import Lockstep.Proofs.Configuration.Membership
import Lockstep.Proofs.Configuration.Fidelity
import Lockstep.Proofs.Configuration.Window
import Lockstep.Proofs.Configuration.Padding
import Lockstep.Proofs.Configuration.Refusal
import Lockstep.Proofs.Outcome.Provenance
import Lockstep.Proofs.Pattern.HexField
import Lockstep.Proofs.Trace.Spelling
import Lockstep.Proofs.Trace.Canonical
import Lockstep.Proofs.Configuration.Spelling
import Lockstep.Proofs.Json.Rendering
import Lockstep.Proofs.Report.Json
import Lockstep.Proofs.Report.Raw
import Lockstep.Proofs.Report.Text
import Lockstep.Proofs.Text.Lossy
import Lockstep.Proofs.Text.Lines
import Lockstep.Proofs.CommandLine.Flag
import Lockstep.Proofs.CommandLine.Given
import Lockstep.Proofs.CommandLine.Reading
import Lockstep.Proofs.CommandLine.Exclusion
import Lockstep.Proofs.CommandLine.Spelling
import Lockstep.Proofs.Session
import Lockstep.Proofs.Storage.Directory
import Lockstep.Proofs.Program.Ending
import Lockstep.Proofs.Configuration.DumpForm
import Lockstep.Proofs.Trace.Extraction
import Lockstep.Proofs.Pattern.Scanner
