import JsonPatch.Main
import JsonPatch.Host.Function
import JsonPatch.Json.Text
import JsonPatch.Live.Run
import JsonPatch.Tracing.Provider
import JsonPatch.Proofs.Patch.FirstFailure
import JsonPatch.Proofs.Patch.Move
import JsonPatch.Proofs.Live.Reuse
import JsonPatch.Proofs.Pointer.Walk
import JsonPatch.Proofs.Predicate.Location
import JsonPatch.Proofs.Pointer.Lookup
import JsonPatch.Proofs.Live.Fresh
import JsonPatch.Proofs.Patch.Alike
import JsonPatch.Proofs.Predicate.Evaluation
import JsonPatch.Proofs.Predicate.Truth
import JsonPatch.Proofs.Predicate.Break
import JsonPatch.Proofs.Pointer.Keys
import JsonPatch.Proofs.Grammar.Operation
import JsonPatch.Proofs.Grammar.Violations
import JsonPatch.Proofs.Grammar.Schema
import JsonPatch.Proofs.Grammar.Report
import JsonPatch.Proofs.Patch.Check
import JsonPatch.Proofs.Patch.Existence
import JsonPatch.Proofs.Patch.Kind
import JsonPatch.Proofs.Value.Structure
import JsonPatch.Proofs.Log.Redaction
import JsonPatch.Proofs.Patch.Text
import JsonPatch.Proofs.Json.Printer
import JsonPatch.Proofs.Log.Entry
import JsonPatch.Proofs.Patch.Settings
import JsonPatch.Proofs.Session.Observer
import JsonPatch.Proofs.Patch.Undo
import JsonPatch.Proofs.Patch.Order
import JsonPatch.Proofs.Session.Story
import JsonPatch.Proofs.Patch.Return
import JsonPatch.Proofs.Patch.Conserve
import JsonPatch.Proofs.Patch.Below
import JsonPatch.Proofs.Patch.Commute
import JsonPatch.Proofs.Patch.Compare
import JsonPatch.Proofs.Predicate.Text
import JsonPatch.Proofs.CommandLine.Report
import JsonPatch.Proofs.Value.Token
import JsonPatch.Proofs.Value.Container
import JsonPatch.Proofs.Patch.Resolution
