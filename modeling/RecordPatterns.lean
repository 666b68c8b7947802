import RecordPatterns.Matching
import RecordPatterns.Registry.Comparison
import RecordPatterns.Resolution.Basic
import RecordPatterns.Value.Printer
import RecordPatterns.Proofs.History
import RecordPatterns.Proofs.Conformance
import RecordPatterns.Proofs.Course
import RecordPatterns.Proofs.Elaboration
import RecordPatterns.Proofs.Observation
import RecordPatterns.Proofs.DirectMatching
import RecordPatterns.Proofs.Inheritance
import RecordPatterns.Proofs.TypeSoundness
import RecordPatterns.Proofs.Trace
import RecordPatterns.Proofs.Saturation
import RecordPatterns.Proofs.Assignment
import RecordPatterns.Proofs.Candor
import RecordPatterns.Proofs.Comparison
import RecordPatterns.Proofs.Preorder
import RecordPatterns.Proofs.Representation
import RecordPatterns.Proofs.Equivalence
import RecordPatterns.Proofs.Congruence
import RecordPatterns.Proofs.Growth
import RecordPatterns.Proofs.Stability
import RecordPatterns.Proofs.Records
import RecordPatterns.Proofs.Forest
import RecordPatterns.Proofs.AppendOnly
import RecordPatterns.Proofs.Getters
import RecordPatterns.Proofs.Noninterference
import RecordPatterns.Proofs.Interning
import RecordPatterns.Proofs.Exactness
import RecordPatterns.Proofs.Refusal
import RecordPatterns.Proofs.Viability
import RecordPatterns.Proofs.Inspection
import RecordPatterns.Proofs.NestingLimit
import RecordPatterns.Proofs.Discarding
import RecordPatterns.Proofs.Presence
import RecordPatterns.Proofs.RoundTrip
import RecordPatterns.Proofs.Sensitivity
import RecordPatterns.Proofs.Verbatim
import RecordPatterns.Proofs.Quoting
import RecordPatterns.Proofs.Rendering
