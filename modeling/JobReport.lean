import JobReport.Main
import JobReport.Proofs.Builders
import JobReport.Proofs.Layers
import JobReport.Proofs.Numbering
import JobReport.Proofs.Retrying
import JobReport.Proofs.RoundTrip
import JobReport.Proofs.Stages
import JobReport.Proofs.Profiles
import JobReport.Proofs.Exporting
import JobReport.Proofs.Tails
import JobReport.Proofs.Record.Edits
import JobReport.Proofs.Presentation
import JobReport.Proofs.LogFiles
import JobReport.Proofs.Trees
import JobReport.Proofs.Spelling
import JobReport.Proofs.Visible
import JobReport.Proofs.Version.Grammar
import JobReport.Proofs.Version.Canonical
import JobReport.Proofs.Failures
import JobReport.Proofs.Streams
import JobReport.Proofs.Refusals
import JobReport.Proofs.Statistics
import JobReport.Proofs.Synchronous
import JobReport.Proofs.Unset
import JobReport.Proofs.Flags
import JobReport.Proofs.Placement
