import JsonSelect.Main
import JsonSelect.Path.Writer
import JsonSelect.Proofs.Dialogue.Inline
import JsonSelect.Proofs.Dialogue.Lines
import JsonSelect.Proofs.Dialogue.Rounds
import JsonSelect.Proofs.Edit.AtOnce
import JsonSelect.Proofs.Edit.Calls
import JsonSelect.Proofs.Edit.Flat
import JsonSelect.Proofs.Edit.Frame
import JsonSelect.Proofs.Edit.Rebuild
import JsonSelect.Proofs.Edit.Removed
import JsonSelect.Proofs.Edit.Reselected
import JsonSelect.Proofs.Edit.Schedule
import JsonSelect.Proofs.Edit.Selected
import JsonSelect.Proofs.Edit.Sorted
import JsonSelect.Proofs.Edit.Turns
import JsonSelect.Proofs.Edit.WriteBack
import JsonSelect.Proofs.Edit.Writes
import JsonSelect.Proofs.Location.AsPath
import JsonSelect.Proofs.Location.Order
import JsonSelect.Proofs.Location.Reordered
import JsonSelect.Proofs.Number.Comparison
import JsonSelect.Proofs.Number.Nearest
import JsonSelect.Proofs.Number.ReadsBack
import JsonSelect.Proofs.Path.Complete
import JsonSelect.Proofs.Path.Continued
import JsonSelect.Proofs.Path.Derivation
import JsonSelect.Proofs.Path.Detached
import JsonSelect.Proofs.Path.Faults
import JsonSelect.Proofs.Path.Grammar
import JsonSelect.Proofs.Path.Lists
import JsonSelect.Proofs.Path.Numbers
import JsonSelect.Proofs.Path.Outcome
import JsonSelect.Proofs.Path.Parse
import JsonSelect.Proofs.Path.RoundTrip
import JsonSelect.Proofs.Path.Shape
import JsonSelect.Proofs.Path.Sound
import JsonSelect.Proofs.Path.Texts
import JsonSelect.Proofs.Path.Within
import JsonSelect.Proofs.Path.WrittenNumbers
import JsonSelect.Proofs.Path.WrittenTexts
import JsonSelect.Proofs.Selection.Ancestors
import JsonSelect.Proofs.Selection.Children
import JsonSelect.Proofs.Selection.Comparisons
import JsonSelect.Proofs.Selection.Composition
import JsonSelect.Proofs.Selection.Descendants
import JsonSelect.Proofs.Selection.Indices
import JsonSelect.Proofs.Selection.Integers
import JsonSelect.Proofs.Selection.Local
import JsonSelect.Proofs.Selection.Order
import JsonSelect.Proofs.Selection.Places
import JsonSelect.Proofs.Selection.Predicates
import JsonSelect.Proofs.Selection.Queries
import JsonSelect.Proofs.Selection.Reordered
import JsonSelect.Proofs.Selection.Slices
import JsonSelect.Proofs.Selection.Stopping
import JsonSelect.Proofs.Selection.Truth
import JsonSelect.Proofs.Selection.Walk
import JsonSelect.Proofs.Selector.Histories
import JsonSelect.Proofs.Selector.Readings
import JsonSelect.Proofs.Text.Digits
import JsonSelect.Selector
