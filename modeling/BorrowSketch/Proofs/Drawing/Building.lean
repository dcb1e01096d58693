import BorrowSketch.Drawing.Svg
import Mathlib.Data.List.Induction

/-! # How groups are built

A group is built by calls that set attributes and draw nodes, in any order. What is drawn depends
on the drawing calls only, and the attributes depend only on what was set.

* **`settled`** — the attributes after settings. A name stands where it was set first
  (`names_settled`), with the value that was set last (`lookup_settled`).
* **`Group.Call`**, **`Group.build`** — one call, and the group after a row of them.
* **`Group.nodes_build`**, **`Group.attributes_build`**, **`Group.attr?_build`** — what calls leave
  in a group. -/

namespace BorrowSketch.Drawing

/-! ### Attributes set in a row -/

/-- The attributes after settings, each a name and a value. -/
def settled (settings : List (String × String)) : List (String × String) :=
  settings.foldl (fun attributes (name, value) => withAttr name value attributes) []

@[simp] theorem settled_concat (settings : List (String × String)) (name value : String) :
    settled (settings ++ [(name, value)]) = withAttr name value (settled settings) := by
  simp [settled]

theorem names_withAttr (name value : String) (attributes : List (String × String)) :
    (withAttr name value attributes).map Prod.fst
      = if name ∈ attributes.map Prod.fst then attributes.map Prod.fst
        else attributes.map Prod.fst ++ [name] := by
  induction attributes with
  | nil => simp [withAttr]
  | cons entry rest ih =>
    by_cases hsame : entry.1 = name
    · simp [withAttr, hsame]
    · have hother : name ≠ entry.1 := Ne.symm hsame
      simp only [withAttr, hsame, if_false, List.map_cons, List.mem_cons, hother, false_or, ih]
      split <;> rfl

theorem lookup_withAttr (name value : String) (attributes : List (String × String))
    (asked : String) :
    (withAttr name value attributes).lookup asked
      = if asked = name then some value else attributes.lookup asked := by
  induction attributes with
  | nil =>
    by_cases h : asked = name
    · simp [withAttr, h]
    · simp [withAttr, List.lookup_cons, h, beq_false_of_ne h]
  | cons entry rest ih =>
    obtain ⟨key, old⟩ := entry
    by_cases hsame : key = name
    · subst hsame
      by_cases h : asked = key
      · simp [withAttr, h]
      · simp [withAttr, List.lookup_cons, h, beq_false_of_ne h]
    · by_cases h : asked = key
      · simp [withAttr, hsame, h]
      · simp [withAttr, List.lookup_cons, hsame, beq_false_of_ne h, ih]

/-- The names stand where they were set first. -/
theorem names_settled (settings : List (String × String)) :
    (settled settings).map Prod.fst = (settings.map Prod.fst).eraseDups := by
  induction settings using List.reverseRecOn with
  | nil => rfl
  | append_singleton settings setting ih =>
    obtain ⟨name, value⟩ := setting
    rw [settled_concat, names_withAttr, ih, List.map_append, List.eraseDups_append]
    by_cases hknown : name ∈ settings.map Prod.fst <;>
      simp [List.removeAll, hknown, List.mem_eraseDups, List.eraseDups_cons]

/-- The values are those that were set last. -/
theorem lookup_settled (settings : List (String × String)) (name : String) :
    (settled settings).lookup name = settings.reverse.lookup name := by
  induction settings using List.reverseRecOn with
  | nil => rfl
  | append_singleton settings setting ih =>
    obtain ⟨key, value⟩ := setting
    rw [settled_concat, lookup_withAttr, ih, List.reverse_concat]
    by_cases h : name = key
    · simp [h]
    · simp [List.lookup_cons, h, beq_false_of_ne h]

namespace Group

/-! ### Calls -/

/-- One call on a group. -/
inductive Call where
  /-- Set an attribute. -/
  | attr (name value : String)
  /-- Draw a path. -/
  | path (data : String) (paint : Paint)
  /-- Draw a text. -/
  | text (content fill : String) (x y lineHeight : Float)

/-- The name and the value that a call sets. -/
def Call.setting? : Call → Option (String × String)
  | attr name value => some (name, value)
  | path .. => none
  | text .. => none

/-- The lines of a text. -/
def linesOf (content : String) : List String :=
  (content.toList.splitOn '\n').map String.ofList

theorem linesOf_ne_nil (content : String) : linesOf content ≠ [] := by
  simp [linesOf]

/-- The node that a call draws. -/
def Call.node? : Call → Option Node
  | attr .. => none
  | path data paint => some (.path data paint)
  | text content fill x y lineHeight => some (.text x y fill (linesOf content) lineHeight)

/-- The group after a call. -/
def perform (group : Group) : Call → Group
  | .attr name value => group.setAttr name value
  | .path data paint => group.path data paint
  | .text content fill x y lineHeight => group.text content fill x y lineHeight

/-- The group that calls build. -/
def build (calls : List Call) : Group :=
  calls.foldl perform empty

@[simp] theorem build_concat (calls : List Call) (call : Call) :
    build (calls ++ [call]) = (build calls).perform call := by
  simp [build]

/-- What is drawn is what the drawing calls draw. -/
theorem nodes_build (calls : List Call) : (build calls).nodes = calls.filterMap Call.node? := by
  induction calls using List.reverseRecOn with
  | nil => rfl
  | append_singleton calls call ih =>
    cases call <;>
      simp [perform, setAttr, path, text, draw, linesOf, Call.node?, List.filterMap_cons, ih]

/-- The attributes are what was set. -/
theorem attributes_build (calls : List Call) :
    (build calls).attributes = settled (calls.filterMap Call.setting?) := by
  induction calls using List.reverseRecOn with
  | nil => rfl
  | append_singleton calls call ih =>
    cases call <;>
      simp [perform, setAttr, path, text, draw, Call.setting?, List.filterMap_cons, ih]

/-- An attribute has the value that it was set to last. -/
theorem attr?_build (calls : List Call) (name : String) :
    (build calls).attr? name = (calls.filterMap Call.setting?).reverse.lookup name := by
  rw [attr?, attributes_build, lookup_settled]

end Group
end BorrowSketch.Drawing
