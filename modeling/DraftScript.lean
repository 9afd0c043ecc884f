import DraftScript.Main
import DraftScript.Proofs.Line.Source
import DraftScript.Proofs.Variables.History
import DraftScript.Proofs.Script.Run
import DraftScript.Proofs.Literal.Refusal
import DraftScript.Proofs.Script.Failure
import DraftScript.Proofs.Script.Append
import DraftScript.Proofs.Line.Structure
import DraftScript.Proofs.Resolution.Values
import DraftScript.Proofs.Session.History
import DraftScript.Proofs.Block.Warnings
import DraftScript.Proofs.Catalogue.Soundness
import DraftScript.Proofs.Block.Layout
import DraftScript.Proofs.Block.Headings
import DraftScript.Proofs.Document.Braces
import DraftScript.Proofs.Block.Order
import DraftScript.Proofs.CommandLine.Agreement
import DraftScript.Proofs.Field.Joining
import DraftScript.Proofs.Field.Commas
import DraftScript.Proofs.Literal.Outcome
import DraftScript.Proofs.Literal.Number
import DraftScript.Proofs.Script.Declarations
import DraftScript.Proofs.Line.InPlace
import DraftScript.Proofs.Block.Counts
import DraftScript.Proofs.Block.Indent
import DraftScript.Proofs.Line.Repeated
import DraftScript.Proofs.Resolution.Conversion
import DraftScript.Proofs.Block.Defaults
import DraftScript.Proofs.Script.Returns
import DraftScript.Proofs.Template.Reading
import DraftScript.Proofs.Template.Written
import DraftScript.Proofs.Settings.Mapping
import DraftScript.Proofs.Variables.Pieces
