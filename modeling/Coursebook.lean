import Coursebook.Main
import Coursebook.Workshop
import Coursebook.Proofs.Math.Spelling
import Coursebook.Proofs.Integrity.Damage
import Coursebook.Proofs.Text.Normal.Compose
import Coursebook.Proofs.Text.Normal.Solid
import Coursebook.Proofs.Integrity.Repair
import Coursebook.Proofs.Integrity.Square
import Coursebook.Proofs.Command.Balance
import Coursebook.Proofs.Integrity.Stable
import Coursebook.Proofs.Integrity.Sanitize
import Coursebook.Proofs.Section
import Coursebook.Proofs.Segment.Map
import Coursebook.Proofs.Segment.Body
import Coursebook.Proofs.Math.Repair
import Coursebook.Proofs.Markup.Underline
import Coursebook.Proofs.Html.Tags
import Coursebook.Proofs.Image.Style
import Coursebook.Proofs.Render.Tags
import Coursebook.Proofs.Capture.Discipline
import Coursebook.Proofs.Integrity.Admission
import Coursebook.Proofs.Segment.Mask
import Coursebook.Proofs.Command.Reading
import Coursebook.Proofs.Command.Edit
import Coursebook.Proofs.Command.ListBlock
import Coursebook.Proofs.Command.Call
import Coursebook.Proofs.Command.LineBreak
import Coursebook.Proofs.Command.Restored
import Coursebook.Proofs.Command.Formulas
import Coursebook.Proofs.Command.Settled
import Coursebook.Proofs.Capture.Handshake
import Coursebook.Proofs.Capture.Script
import Coursebook.Proofs.Document.Json
import Coursebook.Proofs.Cli.Batch
import Coursebook.Proofs.Command.ListBlock.Rounds
import Coursebook.Proofs.Command.ListBlock.Tree
import Coursebook.Proofs.Math.BlankLine
import Coursebook.Proofs.Math.Interchange
import Coursebook.Proofs.Math.Garbled
import Coursebook.Proofs.Command.ListBlock.Items
import Coursebook.Proofs.Integrity.Fraction
import Coursebook.Proofs.Integrity.SquareBalance
import Coursebook.Proofs.Image.Expand
import Coursebook.Proofs.Integrity.Agreement
import Coursebook.Proofs.Integrity.Repetition
import Coursebook.Proofs.Capture.Timing
import Coursebook.Proofs.Math.Canonical
import Coursebook.Proofs.Command.Replacement
import Coursebook.Proofs.Segment.Template
import Coursebook.Proofs.Command.Placeholders
import Coursebook.Proofs.Markup.DisplayMath
import Coursebook.Proofs.Document.Projection
import Coursebook.Proofs.Render.Stats
import Coursebook.Proofs.Math.Nesting
import Coursebook.Proofs.Math.Repaired
