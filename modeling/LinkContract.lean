import LinkContract.Allocation.Request
import LinkContract.Audit.Findings
import LinkContract.Audit.Run
import LinkContract.Command.Reading
import LinkContract.Command.Run
import LinkContract.Command.Terminal
import LinkContract.Decimal
import LinkContract.Digest
import LinkContract.EntryPoint
import LinkContract.Exports
import LinkContract.Files
import LinkContract.Json.Basic
import LinkContract.Json.Decode
import LinkContract.Json.Parse
import LinkContract.Json.Render
import LinkContract.Json.Scan
import LinkContract.Listing
import LinkContract.Log.Journal
import LinkContract.Log.Record
import LinkContract.Log.Validation
import LinkContract.Main
import LinkContract.Manifest
import LinkContract.Names
import LinkContract.Path
import LinkContract.Process.Client
import LinkContract.Process.Operators
import LinkContract.Text.Basic
import LinkContract.Text.Quoted
import LinkContract.Time.Instant
import LinkContract.Trap
import LinkContract.Variant.Axis
import LinkContract.Variant.Basic
import LinkContract.Variant.Requirement
import LinkContract.Proofs.Audit.References
import LinkContract.Proofs.Listing.Rendering
import LinkContract.Proofs.Json.Members
import LinkContract.Proofs.Json.Numbers
import LinkContract.Proofs.Json.RoundTrip
import LinkContract.Proofs.Json.OneLine
import LinkContract.Proofs.Log.RecordRoundTrip
import LinkContract.Proofs.Log.TraceId
import LinkContract.Proofs.Log.Validation
import LinkContract.Proofs.Log.Framing
import LinkContract.Proofs.Log.Journal
import LinkContract.Proofs.Audit.Log
import LinkContract.Proofs.Exports.Agreement
import LinkContract.Proofs.Log.LineRoundTrip
import LinkContract.Proofs.Audit.Failure
import LinkContract.Proofs.Audit.LogContents
import LinkContract.Proofs.Allocation.Rounding
import LinkContract.Proofs.Process.OperatorRuns
import LinkContract.Proofs.Path.Labels
import LinkContract.Proofs.Audit.Loading
import LinkContract.Proofs.Audit.Order
import LinkContract.Proofs.Audit.Renaming
import LinkContract.Proofs.Audit.FittingLibrary
import LinkContract.Proofs.Audit.Growth
import LinkContract.Proofs.Log.Identifiers
import LinkContract.Proofs.Process.ReportSessions
import LinkContract.Proofs.Time.DayCount
import LinkContract.Proofs.Time.Padded
import LinkContract.Proofs.Time.CivilDate
import LinkContract.Proofs.Time.WordDates
import LinkContract.Proofs.Time.Stamp
import LinkContract.Proofs.Time.StampOrder
import LinkContract.Proofs.Listing.Cuts
import LinkContract.Proofs.Listing.NormalForm
import LinkContract.Proofs.Log.FileParts
import LinkContract.Proofs.Manifest.RoundTrip
import LinkContract.Proofs.Digest.NameSets
import LinkContract.Proofs.Text.Trimming
import LinkContract.Proofs.Exports.FeatureLists
import LinkContract.Proofs.Text.Stems
import LinkContract.Proofs.Variant.StandardSpellings
