import Enclosure.Main
import Enclosure.Service.Http
import Enclosure.Service.Toolbox
import Enclosure.Proofs.Choice
import Enclosure.Proofs.Codes
import Enclosure.Proofs.Lookup
import Enclosure.Proofs.Json.Number
import Enclosure.Proofs.Fields
import Enclosure.Proofs.Places
import Enclosure.Proofs.Enclosing
import Enclosure.Proofs.Utf8
import Enclosure.Proofs.Json.Document
import Enclosure.Proofs.Json.Record
import Enclosure.Proofs.Agreement
import Enclosure.Proofs.Json.Limits
import Enclosure.Proofs.Contract
import Enclosure.Proofs.Overrides
import Enclosure.Proofs.Verdicts
import Enclosure.Proofs.Widening
import Enclosure.Proofs.Markup
import Enclosure.Proofs.Words
import Enclosure.Proofs.Histories
import Enclosure.Proofs.Calls
import Enclosure.Proofs.Questions
import Enclosure.Proofs.Runs
import Enclosure.Proofs.Surfaces
import Enclosure.Proofs.Selection
import Enclosure.Proofs.Failures
import Enclosure.Proofs.Configuration
import Enclosure.Proofs.Refusals
import Enclosure.Proofs.Newlines
import Enclosure.Proofs.Concrete.Faults
import Enclosure.Proofs.Concrete.Nesting
import Enclosure.Proofs.Concrete.Lines
import Enclosure.Proofs.Integers
import Enclosure.Proofs.Reports
import Enclosure.Proofs.Narrowing
import Enclosure.Proofs.LineEnds
import Enclosure.Proofs.Transport
import Enclosure.Proofs.Diagnoses
import Enclosure.Proofs.Admission
import Enclosure.Proofs.Traversal
import Enclosure.Proofs.Warnings
import Enclosure.Proofs.Verbatim
