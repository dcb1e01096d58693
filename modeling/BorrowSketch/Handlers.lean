import BorrowSketch.Hint.Dereference
import BorrowSketch.Sketch.EarlyDrop
import BorrowSketch.Sketch.EscapingClosure
import BorrowSketch.Sketch.MixedBorrow
import BorrowSketch.Sketch.MovedValue
import BorrowSketch.Text.Quoted

/-! # Handlers

Which error codes have a sketch and which a hint.

* **`Registry`** — handlers by error code.
* **`Handlers`**, **`Handlers.standard`** — the renderers and the hinters in use.
* **`Handlers.standardRenderings`**, **`Handlers.standardSketches`** — the programs of these
  renderers, and what they draw.
* **`Handlers.accepts`** — whether a diagnostic is one to keep track of. -/

namespace BorrowSketch

/-- Handlers by error code. -/
abbrev Registry (α : Type) := KeyMap String α

namespace Registry

variable {α : Type}

/-- The registry of the given handlers; of two for one code the later counts. -/
def ofList (handlers : List (String × α)) : Registry α :=
  handlers.foldl (fun registry entry => registry.insert entry.1 entry.2) ∅

/-- The codes of a registry as a set of quoted texts. -/
def text (registry : Registry α) : String :=
  "\x7b" ++ String.intercalate ", " (registry.keys.map Text.quote) ++ "\x7d"

end Registry

/-- The renderers and the hinters in use. -/
structure Handlers where
  /-- What makes pictures, by code. -/
  renderers : Registry Renderer
  /-- What makes hints, by code. -/
  hinters : Registry Hinter

namespace Handlers

/-- The programs that draw the errors about borrows, by code. -/
def standardRenderings : List (String × Rendering) :=
  [("E0373", EscapingClosure.rendering), ("E0382", MovedValue.rendering),
    ("E0499", SecondBorrow.rendering), ("E0502", MixedBorrow.rendering),
    ("E0503", UseDuringBorrow.rendering), ("E0505", MoveDuringBorrow.rendering),
    ("E0506", AssignDuringBorrow.rendering), ("E0597", EarlyDrop.rendering)]

/-- The sketches of the errors about borrows, by code. -/
def standardSketches : List (String × (LineView → Diagnostic → Outcome Sketch)) :=
  [("E0373", EscapingClosure.sketch), ("E0382", MovedValue.sketch),
    ("E0499", SecondBorrow.sketch), ("E0502", MixedBorrow.sketch),
    ("E0503", UseDuringBorrow.sketch), ("E0505", MoveDuringBorrow.sketch),
    ("E0506", AssignDuringBorrow.sketch), ("E0597", EarlyDrop.sketch)]

/-- A renderer for every error about borrows, in a program that does not stop when it counts. -/
def renderersBy (counting : Counting) (h : counting ≠ .checked) : Registry Renderer :=
  Registry.ofList (standardRenderings.map fun entry => (entry.1, entry.2.renderer counting h))

/-- A renderer for every error about borrows. -/
def standardRenderers : Registry Renderer := renderersBy .exact (by decide)

/-- A hinter for missing dereferences. -/
def standardHinters : Registry Hinter :=
  Registry.ofList [("E0308", TypeMismatch.hints)]

/-- The handlers in use unless others are chosen. -/
def standard : Handlers := ⟨standardRenderers, standardHinters⟩

/-- Whether a code has a renderer or a hinter. -/
def supports (handlers : Handlers) (code : String) : Bool :=
  handlers.renderers.contains code || handlers.hinters.contains code

/-- The codes with a renderer or a hinter, in order. -/
def codes (handlers : Handlers) : List String :=
  (Registry.ofList ((handlers.renderers.keys ++ handlers.hinters.keys).map fun code =>
    (code, ()))).keys

/-- Whether a diagnostic is to be kept track of: an error of the given source with a supported
code. -/
def accepts (handlers : Handlers) (d : Diagnostic) (source : String) : Bool :=
  decide (d.source = some source) && decide (d.severity = some .error)
    && (d.codeName?.any handlers.supports)

/-- Whether a diagnostic gets hints and no sketch. -/
def hasHinter (handlers : Handlers) (d : Diagnostic) : Bool :=
  d.codeName?.any handlers.hinters.contains

end Handlers
end BorrowSketch
