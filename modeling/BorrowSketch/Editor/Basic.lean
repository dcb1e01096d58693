import BorrowSketch.Editor.Decoration

/-! # Editors

An editor keeps layers of decorations. A layer is created with a style and gets a number that is
never used again; its decorations are replaced as a whole; once disposed of, it stays empty.

* **`LayerId`**, **`Layer`** — layers and their numbers.
* **`Editor`** — the layers created so far, the messages shown, and a count of replacements.
* **`Editor.createLayer`**, **`Editor.decorate`**, **`Editor.dispose`**, **`Editor.notify`** — the
  requests that an editor serves, **`Editor.Request`** as data, and **`Editor.run`** for several of
  them. -/

namespace BorrowSketch

/-- The number of a layer. -/
structure LayerId where
  number : Nat
deriving DecidableEq

/-- The form in which a layer is named. -/
def LayerId.text (id : LayerId) : String :=
  "dectype#" ++ toString id.number

/-- Decorations of one style. -/
structure Layer where
  /-- The style that the layer was created with. -/
  style : LayerStyle
  /-- The decorations applied. -/
  decorations : List Decoration
  /-- Whether the layer was disposed of. -/
  disposed : Bool
deriving DecidableEq

/-- The state of an editor. -/
structure Editor where
  /-- Every layer ever created. The first has number 1. -/
  layers : List Layer
  /-- The error messages shown, the oldest first. -/
  messages : List String
  /-- How often decorations were replaced. -/
  replacements : Nat
deriving DecidableEq

namespace Editor

/-- An editor without layers. -/
def empty : Editor := ⟨[], [], 0⟩

/-- The layer with a number, disposed of or not. -/
def layer? (editor : Editor) (id : LayerId) : Option Layer :=
  match id.number with
  | 0 => none
  | n + 1 => editor.layers[n]?

/-- Change the layer with a number, if there is one. -/
def modifyLayer (editor : Editor) (id : LayerId) (f : Layer → Layer) : Editor :=
  match id.number with
  | 0 => editor
  | n + 1 => { editor with layers := editor.layers.modify n f }

/-! ## Requests -/

/-- Create a layer and return its number. -/
def createLayer (editor : Editor) (style : LayerStyle) : LayerId × Editor :=
  (⟨editor.layers.length + 1⟩, { editor with layers := editor.layers ++ [⟨style, [], false⟩] })

/-- Replace the decorations of a layer. A layer that is disposed of or unknown stays as it is. -/
def decorate (editor : Editor) (id : LayerId) (decorations : List Decoration) : Editor :=
  let editor := editor.modifyLayer id fun layer =>
    if layer.disposed then layer else { layer with decorations := decorations }
  { editor with replacements := editor.replacements + 1 }

/-- Dispose of a layer; its decorations disappear. -/
def dispose (editor : Editor) (id : LayerId) : Editor :=
  editor.modifyLayer id fun layer => { layer with decorations := [], disposed := true }

/-- Show an error message. -/
def notify (editor : Editor) (message : String) : Editor :=
  { editor with messages := editor.messages ++ [message] }

/-- Take all decorations off several layers. -/
def clearAll (editor : Editor) (ids : List LayerId) : Editor :=
  ids.foldl (fun editor id => editor.decorate id []) editor

/-- Clear and dispose of several layers, one after the other. -/
def releaseAll (editor : Editor) (ids : List LayerId) : Editor :=
  ids.foldl (fun editor id => (editor.decorate id []).dispose id) editor

/-! ## Views -/

/-- The decorations shown by a layer; none for one that is unknown or disposed of. -/
def decorations (editor : Editor) (id : LayerId) : List Decoration :=
  match editor.layer? id with
  | some layer => if layer.disposed then [] else layer.decorations
  | none => []

/-- The layers with their numbers, in order of creation. -/
def numbered (editor : Editor) : List (LayerId × Layer) :=
  editor.layers.zipIdx.map fun (layer, index) => (⟨index + 1⟩, layer)

/-- The layers that are not disposed of. -/
def live (editor : Editor) : List LayerId :=
  (editor.numbered.filter fun entry => !entry.2.disposed).map Prod.fst

/-- The live layers for whole lines that have decorations. -/
def visible (editor : Editor) : List LayerId :=
  (editor.numbered.filter fun entry =>
    !entry.2.disposed && decide (entry.2.style = .wholeLine) && !entry.2.decorations.isEmpty).map
      Prod.fst

/-- How many layers were ever created. -/
def created (editor : Editor) : Nat :=
  editor.layers.length

/-! ## Requests as data -/

/-- A request to an editor. -/
inductive Request where
  | createLayer (style : LayerStyle)
  | decorate (id : LayerId) (decorations : List Decoration)
  | dispose (id : LayerId)
  | notify (message : String)
deriving DecidableEq

/-- The editor after a request. -/
def serve (editor : Editor) : Request → Editor
  | .createLayer style => (editor.createLayer style).2
  | .decorate id decorations => editor.decorate id decorations
  | .dispose id => editor.dispose id
  | .notify message => editor.notify message

/-- The editor after several requests, starting from an empty one. -/
def run (requests : List Request) : Editor :=
  requests.foldl serve empty

end Editor
end BorrowSketch
