import Converge.CommandLine.Parse
import Converge.CommandLine.Run
import Converge.Main
import Converge.Proofs.Calls
import Converge.Proofs.Act
import Converge.Proofs.Steps
import Converge.Proofs.Runs
import Converge.Proofs.Avoidance
import Converge.Proofs.Built
import Converge.Proofs.Calm
import Converge.Proofs.Catalogue
import Converge.Proofs.Containment
import Converge.Proofs.Creation
import Converge.Proofs.Diagnosis
import Converge.Proofs.Exactness
import Converge.Proofs.Footprint
import Converge.Proofs.Loading
import Converge.Proofs.Locality
import Converge.Proofs.Mending
import Converge.Proofs.Recovery
import Converge.Proofs.Refusal
import Converge.Proofs.Removal
import Converge.Proofs.Scenario
import Converge.Proofs.Separation
import Converge.Proofs.Truth
import Converge.Proofs.Ownership
import Converge.Proofs.Course
import Converge.Proofs.Entries
import Converge.Proofs.Existence
import Converge.Proofs.Pairs
import Converge.Proofs.Writing
import Converge.Proofs.Construction
import Converge.Proofs.Sources
import Converge.Proofs.Escaping
import Converge.Proofs.Literal
import Converge.Proofs.Table
import Converge.Proofs.Numerals
import Converge.Proofs.OctalModes
import Converge.Proofs.Offences
import Converge.Proofs.SameFile
import Converge.Proofs.Lines
import Converge.Proofs.Naming
import Converge.Proofs.Streaming
