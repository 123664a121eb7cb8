import Formulary.Arguments
import Formulary.Assistant
import Formulary.Form.Writing
import Formulary.Main
import Formulary.Result.Reading
import Formulary.Service
import Formulary.Trace
import Formulary.Proofs.Data
import Formulary.Proofs.Display
import Formulary.Proofs.Engine.Gate
import Formulary.Proofs.Engine.History
import Formulary.Proofs.Engine.Home
import Formulary.Proofs.Engine.Mirror
import Formulary.Proofs.Engine.Naming
import Formulary.Proofs.Engine.Replay
import Formulary.Proofs.Engine.Reset
import Formulary.Proofs.Form.Keyword
import Formulary.Proofs.Form.Required
import Formulary.Proofs.Report.Feedback
import Formulary.Proofs.Service.Bookkeeping
import Formulary.Proofs.Service.Dispatch
import Formulary.Proofs.Service.Entering
import Formulary.Proofs.Service.Failure
import Formulary.Proofs.Service.Isolation
import Formulary.Proofs.Json.Numerals
import Formulary.Proofs.RuleList
import Formulary.Proofs.Engine.Input
import Formulary.Proofs.Blank
import Formulary.Proofs.Number.Spelling
import Formulary.Proofs.Bounds
import Formulary.Proofs.Identifier
import Formulary.Proofs.Engine.Nesting
import Formulary.Proofs.TypeTag
import Formulary.Proofs.Form.Respelling
import Formulary.Proofs.Form.Writing
