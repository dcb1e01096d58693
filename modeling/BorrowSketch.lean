import BorrowSketch.Export.Tree
import BorrowSketch.Main
import BorrowSketch.Proofs.History
import BorrowSketch.Proofs.KeyMap.Lookup
import BorrowSketch.Proofs.Drawing.Escaping
import BorrowSketch.Proofs.Drawing.Reader
import BorrowSketch.Proofs.Drawing.Reading
import BorrowSketch.Proofs.Drawing.Building
import BorrowSketch.Proofs.Drawing.Recovery
import BorrowSketch.Proofs.Handlers.Registries
import BorrowSketch.Proofs.Sketch.Rendering
import BorrowSketch.Proofs.Sketch.Themes
import BorrowSketch.Proofs.Editor.Holdings
import BorrowSketch.Proofs.Editor.Mirror
import BorrowSketch.Proofs.Editor.Names
import BorrowSketch.Proofs.Tracker.Custody
import BorrowSketch.Proofs.Tracker.Display
import BorrowSketch.Proofs.Tracker.Rebuilding
import BorrowSketch.Proofs.Tracker.Renaming
import BorrowSketch.Proofs.Tracker.Triangles
import BorrowSketch.Proofs.Tracker.Toggling
import BorrowSketch.Proofs.Document.Lines
import BorrowSketch.Proofs.Diagnostic.Published
import BorrowSketch.Proofs.Diagnostic.Shapes
import BorrowSketch.Proofs.Session.Handling
import BorrowSketch.Proofs.Session.Custody
import BorrowSketch.Proofs.Session.Renaming
import BorrowSketch.Proofs.Session.Sharing
import BorrowSketch.Proofs.Session.Publication
import BorrowSketch.Proofs.Text.Pattern
import BorrowSketch.Proofs.Diagnostic.Related
import BorrowSketch.Proofs.Sketch.Reading
import BorrowSketch.Proofs.Sketch.Searching
import BorrowSketch.Proofs.Document.Extent
import BorrowSketch.Proofs.Sketch.Layout
import BorrowSketch.Proofs.Sketch.Placement
import BorrowSketch.Proofs.Tracker.Refusal
import BorrowSketch.Proofs.Editor.Requests
import BorrowSketch.Proofs.Tracker.Requests
import BorrowSketch.Proofs.Session.Indifference
import BorrowSketch.Proofs.Session.Debounce
import BorrowSketch.Proofs.Session.Hinting
import BorrowSketch.Proofs.Export.Tree
import BorrowSketch.Proofs.Export.Jobs
import BorrowSketch.Proofs.Export.Agreement
import BorrowSketch.Proofs.Sketch.Locality
import BorrowSketch.Proofs.Sketch.Labels
import BorrowSketch.Proofs.Document.Words
import BorrowSketch.Proofs.Hint.Dereference
import BorrowSketch.Proofs.Sketch.Outcomes
import BorrowSketch.Proofs.Document.Insertion
import BorrowSketch.Proofs.Text.Units
import BorrowSketch.Proofs.Diagnostic.Conversion
import BorrowSketch.Proofs.Diagnostic.Writing
import BorrowSketch.Proofs.Number.Value
import BorrowSketch.Proofs.Number.Rounding
import BorrowSketch.Proofs.Number.Numeral
import BorrowSketch.Proofs.Number.Printing
import BorrowSketch.Proofs.Text.Base64
import BorrowSketch.Proofs.Drawing.Address
import BorrowSketch.Proofs.Editor.Log
import BorrowSketch.Proofs.Drawing.PathData
