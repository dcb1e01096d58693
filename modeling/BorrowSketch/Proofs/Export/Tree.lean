import BorrowSketch.Export.Tree
import Mathlib.Data.List.Induction

/-! # Files in trees

What stands in a file tree after files were written, and where the paths of files in one directory
lead.

* **`FileTree.node?_put_self`**, **`FileTree.node?_put_of_ne`** — what names lead to once something
  is put into the tree.
* **`FileTree.locate_put`** — a new file is in the way of no path that leads to a name.
* **`FileTree.exists_locate_joinPath`** — the path of a file in a directory leads to a name that
  ends with that of the file.
* **`FileTree.Writes`**, **`FileTree.Writes.readBytes_eq`** — several files written one after the
  other, and what is read from them afterwards. -/

namespace BorrowSketch.Export

/-- The name of a file: one name in a path. -/
structure IsFileName (file : String) : Prop where
  /-- There is something in it. -/
  nonempty : file ≠ ""
  /-- It does not reach into a directory. -/
  slash : '/' ∉ file.toList

/-- Nothing is split in the name of a file. -/
theorem IsFileName.splitOnP_eq {file : String} (h : IsFileName file) :
    List.splitOnP (· == '/') file.toList = [file.toList] := by
  refine List.splitOnP_eq_singleton fun c hc => ?_
  rw [beq_eq_false_iff_ne]
  rintro rfl
  exact h.slash hc

/-- The name of a file is a path of one name. -/
theorem IsFileName.pathNames_eq {file : String} (h : IsFileName file) :
    pathNames file = [file] := by
  have hkept : [file].filter (· ≠ "") = [file] :=
    List.filter_cons_of_pos (decide_eq_true h.nonempty)
  have hhead : file.toList.head? ≠ some '/' := fun hhead =>
    h.slash (List.mem_of_mem_head? hhead)
  rw [pathNames, List.splitOn, h.splitOnP_eq, List.map_singleton, String.ofList_toList, hkept]
  exact if_neg hhead

/-- **The names in the path of a file in a directory** end with that of the file. -/
theorem exists_names_joinPath (directory : String) {file : String} (h : IsFileName file) :
    ∃ above, (((joinPath directory file).toList.splitOn '/').map String.ofList).filter (· ≠ "") =
      above ++ [file] := by
  have hfile := h.splitOnP_eq
  have hkept : [file].filter (· ≠ "") = [file] :=
    List.filter_cons_of_pos (decide_eq_true h.nonempty)
  -- it does not matter what stands in front of the last slash
  have hbehind : ∀ front : List Char, ∃ above,
      (((front ++ '/' :: file.toList).splitOn '/').map String.ofList).filter (· ≠ "") =
        above ++ [file] := by
    intro front
    have hsplit : (front ++ '/' :: file.toList).splitOn '/' =
        front.splitOn '/' ++ [file.toList] := by
      rw [List.splitOn, List.splitOnP_append_cons (p := (· == '/')) front file.toList rfl, hfile]
      rfl
    refine ⟨((front.splitOn '/').map String.ofList).filter (· ≠ ""), ?_⟩
    rw [hsplit, List.map_append, List.filter_append, List.map_singleton, String.ofList_toList,
      hkept]
  unfold joinPath
  split
  · refine ⟨[], ?_⟩
    rw [List.splitOn, hfile, List.map_singleton, String.ofList_toList, hkept, List.nil_append]
  · split
    · next hslash =>
      obtain ⟨front, hfront⟩ := List.getLast?_eq_some_iff.1 hslash
      rw [String.toList_append, hfront, List.append_assoc]
      exact hbehind front
    · rw [String.toList_append, String.toList_append, List.append_assoc]
      exact hbehind directory.toList

namespace FileTree

variable {tree next after : FileTree} {names other : List String} {node : FileNode}
  {path text : String} {content : ByteArray}

/-! ## What is put into a tree -/

section Replace

variable (entries : List (List String × FileNode))

/-- Look-up of an entry that was replaced. -/
theorem lookup_map_replace_self :
    (entries.map fun entry => if entry.1 = names then (names, node) else entry).lookup names =
      (entries.lookup names).map fun _ => node := by
  induction entries with
  | nil => rfl
  | cons entry entries ih =>
    obtain ⟨key, old⟩ := entry
    rw [List.map_cons, List.lookup_cons]
    by_cases hkey : key = names
    · rw [if_pos hkey, List.lookup_cons, hkey, beq_self_eq_true]
      rfl
    · rw [if_neg hkey, List.lookup_cons, beq_false_of_ne (Ne.symm hkey)]
      exact ih

/-- Look-up of an entry beside the one that was replaced. -/
theorem lookup_map_replace_of_ne (h : other ≠ names) :
    (entries.map fun entry => if entry.1 = names then (names, node) else entry).lookup other =
      entries.lookup other := by
  induction entries with
  | nil => rfl
  | cons entry entries ih =>
    obtain ⟨key, old⟩ := entry
    rw [List.map_cons, List.lookup_cons]
    by_cases hkey : key = names
    · rw [if_pos hkey, List.lookup_cons, hkey, beq_false_of_ne h]
      exact ih
    · rw [if_neg hkey, List.lookup_cons, ih]

end Replace

/-- What was put under names is what they lead to. -/
theorem node?_put_self (h : names ≠ []) : (tree.put names node).node? names = some node := by
  rw [node?, List.isEmpty_eq_false_iff.2 h, if_neg Bool.false_ne_true, put]
  cases hlookup : tree.entries.lookup names with
  | some old =>
    rw [Option.isSome_some, if_pos rfl, lookup_map_replace_self, hlookup]
    rfl
  | none =>
    rw [Option.isSome_none, if_neg Bool.false_ne_true, List.lookup_append, hlookup,
      List.lookup_cons, beq_self_eq_true]
    rfl

/-- What other names lead to stays as it is. -/
theorem node?_put_of_ne (h : other ≠ names) :
    (tree.put names node).node? other = tree.node? other := by
  have hlookup : (tree.put names node).entries.lookup other = tree.entries.lookup other := by
    rw [put]
    split
    · exact lookup_map_replace_of_ne _ h
    · rw [List.lookup_append, List.lookup_cons, beq_false_of_ne h]
      exact Option.or_none
  rw [node?, node?, hlookup]

/-- **A tree of files in its top directory** has one entry for each of them, in their order. -/
theorem ofFiles_of_isFileName {files : List (String × ByteArray)}
    (hnames : ∀ file ∈ files, IsFileName file.1) (hnodup : (files.map Prod.fst).Nodup) :
    ofFiles files = ⟨files.map fun file => ([file.1], .file file.2)⟩ := by
  induction files using List.reverseRecOn with
  | nil => rfl
  | append_singleton files file ih =>
    rw [List.map_append, List.nodup_append] at hnodup
    have hbefore := ih (fun other hother => hnames other (List.mem_append_left _ hother)) hnodup.1
    have hfile := hnames file (List.mem_append_right _ (List.mem_singleton_self file))
    -- no file before it has its name
    have hlookup : (files.map fun file => ([file.1], FileNode.file file.2)).lookup [file.1] =
        none := by
      rw [List.lookup_eq_none_iff]
      intro entry hentry
      obtain ⟨other, hother, rfl⟩ := List.mem_map.1 hentry
      have hne := hnodup.2.2 other.1 (List.mem_map_of_mem hother) file.1 (by simp)
      simpa using Ne.symm hne
    rw [ofFiles, List.foldl_append, ← ofFiles, hbefore, List.foldl_cons, List.foldl_nil,
      hfile.pathNames_eq]
    simp [put, hlookup]

/-! ## Where paths lead -/

/-- A path leads to a name one step at a time: dots stay in the directory or lead out of it, the
last name is the one that the path leads to, and any other leads into a directory. -/
theorem follow_cons_eq_ok_iff {directory rest : List String} {name : String} :
    tree.follow directory (name :: rest) = .ok (.named names) ↔
      if name = "." then tree.follow directory rest = .ok (.named names)
      else if name = ".." then tree.follow directory.dropLast rest = .ok (.named names)
      else name.utf8ByteSize ≤ maxNameBytes ∧
        if rest = [] then directory ++ [name] = names
        else tree.node? (directory ++ [name]) = some .directory ∧
          tree.follow (directory ++ [name]) rest = .ok (.named names) := by
  rw [follow]
  by_cases hdot : name = "."
  · rw [if_pos hdot, if_pos hdot]
  · rw [if_neg hdot, if_neg hdot]
    by_cases hdots : name = ".."
    · rw [if_pos hdots, if_pos hdots]
    · rw [if_neg hdots, if_neg hdots]
      by_cases hlong : maxNameBytes < name.utf8ByteSize
      · rw [if_pos hlong]
        exact iff_of_false (by simp) fun h => Nat.not_le.2 hlong h.1
      · rw [if_neg hlong, and_iff_right (Nat.not_lt.1 hlong)]
        dsimp only
        by_cases hrest : rest = []
        · rw [if_pos hrest, if_pos (List.isEmpty_iff.2 hrest), Except.ok.injEq, Place.named.injEq]
        · rw [if_neg hrest, if_neg (mt List.isEmpty_iff.1 hrest)]
          cases tree.node? (directory ++ [name]) with
          | none => simp
          | some node => cases node <;> simp

/-- **A new file is in the way of no path** that leads to a name: there was no directory in its
place. -/
theorem follow_put {directory : List String} {path : List String}
    (hnode : tree.node? other ≠ some .directory)
    (h : tree.follow directory path = .ok (.named names)) :
    (tree.put other node).follow directory path = .ok (.named names) := by
  induction path generalizing directory with
  | nil => cases h
  | cons name rest ih =>
    rw [follow_cons_eq_ok_iff] at h ⊢
    by_cases hdot : name = "."
    · rw [if_pos hdot] at h ⊢
      exact ih h
    · rw [if_neg hdot] at h ⊢
      by_cases hdots : name = ".."
      · rw [if_pos hdots] at h ⊢
        exact ih h
      · rw [if_neg hdots] at h ⊢
        obtain ⟨hshort, hlead⟩ := h
        refine ⟨hshort, ?_⟩
        by_cases hrest : rest = []
        · rw [if_pos hrest] at hlead ⊢
          exact hlead
        · rw [if_neg hrest] at hlead ⊢
          -- the path goes on through a directory, so nothing was put in its place
          have hne : directory ++ [name] ≠ other := by
            rintro rfl
            exact hnode hlead.1
          exact ⟨(node?_put_of_ne hne).trans hlead.1, ih hlead.2⟩

/-- A path that leads to a name leads to one that ends with its own last name. -/
theorem exists_of_follow {directory : List String} {path : List String}
    (h : tree.follow directory path = .ok (.named names)) :
    ∃ above parent name, path = above ++ [name] ∧ names = parent ++ [name] := by
  induction path generalizing directory with
  | nil => cases h
  | cons first rest ih =>
    -- whatever the first name is, the path behind it ends with the last one
    have hbehind : ∀ {directory}, tree.follow directory rest = .ok (.named names) →
        ∃ above parent name, first :: rest = above ++ [name] ∧ names = parent ++ [name] := by
      intro directory hrest
      obtain ⟨above, parent, name, rfl, hnames⟩ := ih hrest
      exact ⟨first :: above, parent, name, rfl, hnames⟩
    rw [follow_cons_eq_ok_iff] at h
    by_cases hdot : first = "."
    · rw [if_pos hdot] at h
      exact hbehind h
    · rw [if_neg hdot] at h
      by_cases hdots : first = ".."
      · rw [if_pos hdots] at h
        exact hbehind h
      · rw [if_neg hdots] at h
        by_cases hrest : rest = []
        · rw [if_pos hrest] at h
          exact ⟨[], directory, first, congrArg (first :: ·) hrest, h.2.symm⟩
        · rw [if_neg hrest] at h
          exact hbehind h.2.2

/-- Where a path leads to a name, it is followed from the top. -/
theorem locate_eq_ok_iff :
    tree.locate path = .ok (.named names) ↔
      (path ≠ "" ∧ ¬ path.toList.contains '\x00' = true ∧ path.utf8ByteSize ≤ maxPathBytes ∧
        path.toList.head? ≠ some '/') ∧
      tree.follow [] (((path.toList.splitOn '/').map String.ofList).filter (· ≠ "")) =
        .ok (.named names) := by
  rw [locate]
  by_cases hempty : path = ""
  · rw [if_pos hempty]
    exact iff_of_false (by simp) fun h => h.1.1 hempty
  rw [if_neg hempty]
  by_cases hzero : path.toList.contains '\x00' = true
  · rw [if_pos hzero]
    exact iff_of_false (by simp) fun h => h.1.2.1 hzero
  rw [if_neg hzero]
  by_cases hlong : maxPathBytes < path.utf8ByteSize
  · rw [if_pos hlong]
    exact iff_of_false (by simp) fun h => Nat.not_le.2 hlong h.1.2.2.1
  rw [if_neg hlong]
  dsimp only
  by_cases hnames : ((path.toList.splitOn '/').map String.ofList).filter (· ≠ "") = []
  · rw [hnames]
    exact iff_of_false (by simp) fun h => by cases h.2
  rw [if_neg (mt List.isEmpty_iff.1 hnames)]
  by_cases hroot : path.toList.head? = some '/'
  · rw [if_pos hroot]
    exact iff_of_false (by simp) fun h => h.1.2.2.2 hroot
  rw [if_neg hroot]
  exact (and_iff_right ⟨hempty, hzero, Nat.not_lt.1 hlong, hroot⟩).symm

/-- A new file is in the way of no path that leads to a name. -/
theorem locate_put (hnode : tree.node? other ≠ some .directory)
    (h : tree.locate path = .ok (.named names)) :
    (tree.put other node).locate path = .ok (.named names) := by
  rw [locate_eq_ok_iff] at h ⊢
  exact ⟨h.1, follow_put hnode h.2⟩

/-- **The path of a file in a directory** leads to a name that ends with that of the file. -/
theorem exists_locate_joinPath {directory file : String} (hfile : IsFileName file)
    (h : tree.locate (joinPath directory file) = .ok (.named names)) :
    ∃ parent, names = parent ++ [file] := by
  obtain ⟨above, habove⟩ := exists_names_joinPath directory hfile
  obtain ⟨_, parent, name, hpath, hnames⟩ := exists_of_follow (locate_eq_ok_iff.1 h).2
  rw [habove] at hpath
  rw [List.singleton_inj.1 (List.append_inj_right' hpath rfl)]
  exact ⟨parent, hnames⟩

/-- The names that a path leads to are those of something below the top. -/
theorem ne_nil_of_locate (h : tree.locate path = .ok (.named names)) : names ≠ [] := by
  obtain ⟨_, parent, name, -, rfl⟩ := exists_of_follow (locate_eq_ok_iff.1 h).2
  exact List.append_ne_nil_of_right_ne_nil parent (List.cons_ne_nil name [])

/-! ## Reading and writing -/

/-- A file is read where its path leads. -/
theorem readBytes_eq_ok_iff :
    tree.readBytes path = .ok content ↔ endsWithSlash path = false ∧
      ∃ names, tree.locate path = .ok (.named names) ∧
        tree.node? names = some (.file content) := by
  rw [readBytes]
  cases hplace : tree.locate path with
  | error error => simp
  | ok place =>
    cases place with
    | passed => simp
    | named names =>
      cases hnode : tree.node? names with
      | none => simp [hnode]
      | some node =>
        cases node with
        | directory => simp [hnode]
        | file old => cases hslash : endsWithSlash path <;> simp [hnode]

/-- A file is written where its path leads, if there is no directory. -/
theorem writeText_eq_ok_iff :
    tree.writeText path text = .ok next ↔ endsWithSlash path = false ∧
      ∃ names, tree.locate path = .ok (.named names) ∧ tree.node? names ≠ some .directory ∧
        tree.put names (.file text.toUTF8) = next := by
  rw [writeText]
  cases hplace : tree.locate path with
  | error error => simp
  | ok place =>
    cases place with
    | passed => simp
    | named names =>
      cases hnode : tree.node? names with
      | none => cases hslash : endsWithSlash path <;> simp [hnode]
      | some node =>
        cases node with
        | directory => simp [hnode]
        | file old => cases hslash : endsWithSlash path <;> simp [hnode]

/-- What was written to a file is read from it. -/
theorem readBytes_writeText (h : tree.writeText path text = .ok next) :
    next.readBytes path = .ok text.toUTF8 := by
  obtain ⟨hslash, names, hlocate, hnode, rfl⟩ := writeText_eq_ok_iff.1 h
  exact readBytes_eq_ok_iff.2 ⟨hslash, names, locate_put hnode hlocate,
    node?_put_self (ne_nil_of_locate hlocate)⟩

/-- Writing to a file of another name leaves what is read from a file. -/
theorem readBytes_writeText_of_ne {directory file other : String} (hfile : IsFileName file)
    (hother : IsFileName other) (hne : file ≠ other)
    (hread : tree.readBytes (joinPath directory file) = .ok content)
    (hwrite : tree.writeText (joinPath directory other) text = .ok next) :
    next.readBytes (joinPath directory file) = .ok content := by
  obtain ⟨hslash, names, hlocate, hnode⟩ := readBytes_eq_ok_iff.1 hread
  obtain ⟨-, otherNames, hotherLocate, hotherNode, rfl⟩ := writeText_eq_ok_iff.1 hwrite
  -- the names end with those of the files, so they are not the same
  have hnames : names ≠ otherNames := by
    rintro rfl
    obtain ⟨parent, hparent⟩ := exists_locate_joinPath hfile hlocate
    obtain ⟨otherParent, hotherParent⟩ := exists_locate_joinPath hother hotherLocate
    rw [hparent] at hotherParent
    exact hne (List.singleton_inj.1 (List.append_inj_right' hotherParent rfl))
  exact readBytes_eq_ok_iff.2 ⟨hslash, names, locate_put hotherNode hlocate,
    (node?_put_of_ne hnames).trans hnode⟩

/-- **Several files written one after the other,** and nothing else. -/
inductive Writes : FileTree → List (String × String) → FileTree → Prop where
  /-- There is nothing to write. -/
  | nil (tree : FileTree) : Writes tree [] tree
  /-- The first file is written, and then the others. -/
  | cons {tree next after : FileTree} {path text : String} {rest : List (String × String)}
      (hwrite : tree.writeText path text = .ok next) (hrest : Writes next rest after) :
      Writes tree ((path, text) :: rest) after

/-- Writing to files of other names leaves what is read from a file. -/
theorem Writes.readBytes_of_notMem {directory file : String} {files : List (String × String)}
    (h : Writes tree (files.map fun other => (joinPath directory other.1, other.2)) after)
    (hfile : IsFileName file) (hothers : ∀ other ∈ files, IsFileName other.1 ∧ file ≠ other.1)
    (hread : tree.readBytes (joinPath directory file) = .ok content) :
    after.readBytes (joinPath directory file) = .ok content := by
  induction files generalizing tree with
  | nil =>
    cases h
    exact hread
  | cons other files ih =>
    cases h with
    | cons hwrite hrest =>
      obtain ⟨hother, hne⟩ := hothers other List.mem_cons_self
      exact ih hrest (fun other hother => hothers other (List.mem_cons_of_mem _ hother))
        (readBytes_writeText_of_ne hfile hother hne hread hwrite)

/-- **What is read from files in one directory** that were written one after the other is what was
written, as no name occurs twice among them. -/
theorem Writes.readBytes_eq {directory : String} {files : List (String × String)}
    (h : Writes tree (files.map fun other => (joinPath directory other.1, other.2)) after)
    (hfiles : ∀ file ∈ files, IsFileName file.1) (hnodup : (files.map Prod.fst).Nodup) :
    ∀ file ∈ files, after.readBytes (joinPath directory file.1) = .ok file.2.toUTF8 := by
  induction files generalizing tree with
  | nil => simp
  | cons first files ih =>
    rw [List.map_cons, List.nodup_cons] at hnodup
    cases h with
    | cons hwrite hrest =>
      intro file hfile
      rcases List.mem_cons.1 hfile with rfl | hfile
      · refine hrest.readBytes_of_notMem (hfiles file List.mem_cons_self) (fun other hother => ?_)
          (readBytes_writeText hwrite)
        refine ⟨hfiles other (List.mem_cons_of_mem _ hother), fun hsame => hnodup.1 ?_⟩
        rw [hsame]
        exact List.mem_map_of_mem hother
      · exact ih hrest (fun other hother => hfiles other (List.mem_cons_of_mem _ hother)) hnodup.2
          file hfile

end FileTree
end BorrowSketch.Export
