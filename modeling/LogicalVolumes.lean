import LogicalVolumes.Host.Standard
import LogicalVolumes.Json.Read
import LogicalVolumes.Main
import LogicalVolumes.Run.Script
import LogicalVolumes.Desired.Json
import LogicalVolumes.Proofs.Plan.Convergence
import LogicalVolumes.Proofs.Run.Course
import LogicalVolumes.Proofs.Run.Order
import LogicalVolumes.Proofs.Report.Label
import LogicalVolumes.Proofs.Report.Volume
import LogicalVolumes.Proofs.Run.Absence
import LogicalVolumes.Proofs.Run.Ownership
import LogicalVolumes.Proofs.Capacity.Alignment
import LogicalVolumes.Proofs.Report.Group
import LogicalVolumes.Proofs.Run.Diagnostics
import LogicalVolumes.Proofs.Run.DryRun
import LogicalVolumes.Proofs.Report.Printed
import LogicalVolumes.Proofs.Run.Provision
import LogicalVolumes.Proofs.Run.Refinement
import LogicalVolumes.Proofs.Plan.Precedence
import LogicalVolumes.Proofs.Json.Literal
import LogicalVolumes.Proofs.Json.RoundTrip
import LogicalVolumes.Proofs.Decode.Record
import LogicalVolumes.Proofs.Decode.RoundTrip
import LogicalVolumes.Proofs.Run.Document
import LogicalVolumes.Proofs.Report.Rule
import LogicalVolumes.Proofs.Text.LetterCase
import LogicalVolumes.Proofs.Report.Layout
import LogicalVolumes.Proofs.Report.Row.Group
import LogicalVolumes.Proofs.Report.Row.Volume
import LogicalVolumes.Proofs.Capacity.Ceiling
import LogicalVolumes.Proofs.Plan.Growth
import LogicalVolumes.Proofs.Report.Latest
import LogicalVolumes.Proofs.Report.Missing
import LogicalVolumes.Proofs.Report.Cut
import LogicalVolumes.Proofs.Decode.Naming
import LogicalVolumes.Proofs.Run.Influence
import LogicalVolumes.Proofs.Desired.PhysicalVolumes
import LogicalVolumes.Proofs.Text.Tokens
import LogicalVolumes.Proofs.Command.Creation
import LogicalVolumes.Proofs.Plan.PrintedSize
import LogicalVolumes.Proofs.Report.Margin
import LogicalVolumes.Proofs.Report.Respacing
import LogicalVolumes.Proofs.Host.Search
import LogicalVolumes.Proofs.Report.Capture
