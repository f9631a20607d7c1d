import ThreatWatch.Event.Mapping
import ThreatWatch.Main
import ThreatWatch.Proofs.Coverage
import ThreatWatch.Proofs.Keeping
import ThreatWatch.Proofs.Soundness
import ThreatWatch.Proofs.Tagging
import ThreatWatch.Proofs.History
import ThreatWatch.Proofs.Scanning
import ThreatWatch.Proofs.Rescan
import ThreatWatch.Proofs.Summary
import ThreatWatch.Proofs.Agreement
import ThreatWatch.Proofs.Course
import ThreatWatch.Proofs.Stamps
import ThreatWatch.Proofs.Conditions
import ThreatWatch.Proofs.Failing
import ThreatWatch.Proofs.Matching
import ThreatWatch.Proofs.Doubles
import ThreatWatch.Proofs.Comparing
import ThreatWatch.Proofs.Answering
import ThreatWatch.Proofs.Binding
import ThreatWatch.Proofs.Loading
import ThreatWatch.Proofs.Wording
import ThreatWatch.Proofs.Directory
import ThreatWatch.Proofs.Growth
import ThreatWatch.Proofs.Settling
import ThreatWatch.Proofs.Records
import ThreatWatch.Proofs.Paging
import ThreatWatch.Proofs.Alerts
import ThreatWatch.Proofs.Completion
import ThreatWatch.Proofs.Extending
import ThreatWatch.Proofs.Rearranging
import ThreatWatch.Proofs.Acceptance
import ThreatWatch.Proofs.Wildcards
import ThreatWatch.Proofs.Ledger
import ThreatWatch.Proofs.Epochs
import ThreatWatch.Proofs.Drafting
import ThreatWatch.Proofs.Methods
import ThreatWatch.Proofs.Removal
import ThreatWatch.Proofs.Identity
import ThreatWatch.Proofs.Merging
import ThreatWatch.Proofs.Placements
import ThreatWatch.Proofs.Stars
import ThreatWatch.Proofs.Networks
import ThreatWatch.Proofs.Modifiers
import ThreatWatch.Proofs.Precedence
import ThreatWatch.Proofs.Attributes
import ThreatWatch.Proofs.Paths
import ThreatWatch.Proofs.Moments
import ThreatWatch.Proofs.Overruns
import ThreatWatch.Proofs.Units
import ThreatWatch.Proofs.Ranking
import ThreatWatch.Proofs.Walking
import ThreatWatch.Proofs.Admission
import ThreatWatch.Proofs.Splitting
import ThreatWatch.Proofs.Integers
import ThreatWatch.Proofs.Wholeness
import ThreatWatch.Proofs.Locating
import ThreatWatch.Proofs.Origins
import ThreatWatch.Proofs.Overlaps
