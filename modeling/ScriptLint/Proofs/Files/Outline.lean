import ScriptLint.Proofs.Files.Access
import ScriptLint.Proofs.Named

/-!
# Outlines of file trees

The outline of a tree is the tree without the contents of its files.  Where paths
lead, which folders can be made and which files are listed depends on the outline
only, so that rewriting a file is of no consequence for any of it.
-/

namespace ScriptLint.FileTree

mutual

/-- A tree without the contents of its files. -/
def outline : FileTree → FileTree
  | file _ mode => file [] mode
  | folder mode entries => folder mode (outlines entries)

/-- Entries of a folder without the contents of the files in them. -/
def outlines : List (String × FileTree) → List (String × FileTree)
  | [] => []
  | entry :: rest => outlineEntry entry :: outlines rest

/-- An entry of a folder without the contents of the files in it. -/
def outlineEntry : String × FileTree → String × FileTree
  | (name, tree) => (name, tree.outline)

end

theorem outlines_eq_map (entries : List (String × FileTree)) :
    outlines entries = entries.map fun entry => (entry.1, entry.2.outline) := by
  induction entries with
  | nil => rfl
  | cons entry rest induction =>
      obtain ⟨name, tree⟩ := entry
      rw [outlines, outlineEntry, induction]
      rfl

theorem outline_folder (mode : Nat) (entries : List (String × FileTree)) :
    (folder mode entries).outline =
      folder mode (entries.map fun entry => (entry.1, entry.2.outline)) := by
  rw [outline, outlines_eq_map]

@[simp]
theorem isFolder_outline (tree : FileTree) : tree.outline.isFolder = tree.isFolder := by
  cases tree with
  | file bytes mode => rfl
  | folder mode entries => rw [outline_folder]; rfl

section Finding

variable {tree changed : FileTree}

theorem find_outline (place : List String) (tree : FileTree) :
    find place tree.outline = (find place tree).map outline := by
  induction place generalizing tree with
  | nil => rfl
  | cons name rest induction =>
      cases tree with
      | file bytes mode => rfl
      | folder mode entries =>
          rw [outline_folder, find, find, getNamed?_map]
          split
          · rfl
          · cases getNamed? entries name with
            | none => rfl
            | some below => exact induction below

theorem put_outline (tree : FileTree) (place : List String) (new : FileTree) :
    (put tree place new).outline = put tree.outline place new.outline := by
  induction place generalizing tree with
  | nil => rfl
  | cons name rest induction =>
      cases tree with
      | file bytes mode => rfl
      | folder mode entries =>
          have below : ((getNamed? entries name).map outline).getD emptyFolder =
              ((getNamed? entries name).getD emptyFolder).outline := by
            cases getNamed? entries name with
            | none => rfl
            | some held => rfl
          rw [put, outline_folder, outline_folder, put, getNamed?_map, below, ← induction,
            putNamed_map]

/-- Putting a tree back to its place changes nothing. -/
theorem put_of_find {place : List String} {held : FileTree}
    (there : find place tree = .ok held) : put tree place held = tree := by
  induction place generalizing tree with
  | nil => exact (Except.ok.inj there).symm
  | cons name rest induction =>
      obtain ⟨mode, entries, below, rfl, -, named, onward⟩ := find_cons_eq_ok_iff.mp there
      rw [put, named, Option.getD_some, induction onward, putNamed_of_getNamed? named]

theorem outline_put_file {place : List String} {bytes : List UInt8} {mode : Nat}
    (there : find place tree = .ok (file bytes mode)) (new : List UInt8) :
    (put tree place (file new mode)).outline = tree.outline := by
  rw [put_outline]
  apply put_of_find
  rw [find_outline, there]
  rfl

theorem reachFrom_outline (tree : FileTree) (above names : List String) :
    tree.outline.reachFrom above names = (tree.reachFrom above names).map outline := by
  induction names generalizing above with
  | nil => exact find_outline above.reverse tree
  | cons name rest induction =>
      rw [reachFrom, reachFrom, find_outline]
      split
      · cases tree.find above.reverse with
        | error fault => rfl
        | ok found =>
            cases found with
            | file bytes mode => rfl
            | folder mode entries => exact induction above.tail
      · exact induction (name :: above)

theorem reach_outline (tree : FileTree) (path : Path) :
    tree.outline.reach path = (tree.reach path).map outline := by
  rw [reach, reach]
  split
  · rfl
  · split
    · rfl
    · exact reachFrom_outline tree [] path.names

theorem map_reach_congr (same : changed.outline = tree.outline) (path : Path) :
    (changed.reach path).map outline = (tree.reach path).map outline := by
  rw [← reach_outline, same, reach_outline]

end Finding

section Reading

variable {tree changed : FileTree} {path : Path}

/-- Trees with one outline that hold the same file at the place of a path, if they
hold one there, lead to the same failure, to this file or to folders. -/
theorem reach_cases (same : changed.outline = tree.outline)
    (kept : ∀ bytes mode, tree.find path.resolve.names = .ok (file bytes mode) →
      changed.find path.resolve.names = .ok (file bytes mode)) :
    (∃ fault, tree.reach path = .error fault ∧ changed.reach path = .error fault) ∨
      (∃ bytes mode, tree.reach path = .ok (file bytes mode) ∧
        changed.reach path = .ok (file bytes mode)) ∨
      ∃ mode entries others, tree.reach path = .ok (folder mode entries) ∧
        changed.reach path = .ok (folder mode others) := by
  have alike := map_reach_congr same path
  cases before : tree.reach path with
  | error fault =>
      cases after : changed.reach path with
      | error other =>
          obtain rfl : other = fault := by simpa [before, after, Except.map] using alike
          exact Or.inl ⟨other, rfl, rfl⟩
      | ok found => simp [before, after, Except.map] at alike
  | ok found =>
      cases after : changed.reach path with
      | error other => simp [before, after, Except.map] at alike
      | ok other =>
          have outlines : other.outline = found.outline := by
            simpa [before, after, Except.map] using alike
          cases found with
          | file bytes mode =>
              have there := kept bytes mode (find_of_reach before)
              obtain rfl : other = file bytes mode :=
                Except.ok.inj ((find_of_reach after).symm.trans there)
              exact Or.inr (Or.inl ⟨bytes, mode, rfl, rfl⟩)
          | folder mode entries =>
              cases other with
              | file bytes own => simp [outline] at outlines
              | folder own others =>
                  obtain rfl : own = mode := by
                    simp only [outline, folder.injEq] at outlines
                    exact outlines.1
                  exact Or.inr (Or.inr ⟨own, entries, others, rfl, rfl⟩)

theorem readText_congr (same : changed.outline = tree.outline)
    (kept : ∀ bytes mode, tree.find path.resolve.names = .ok (file bytes mode) →
      changed.find path.resolve.names = .ok (file bytes mode)) :
    changed.readText path = tree.readText path := by
  unfold readText readBytes get
  rcases reach_cases same kept with ⟨fault, before, after⟩ | ⟨bytes, mode, before, after⟩ |
    ⟨mode, entries, others, before, after⟩
  · rw [before, after]
  · rw [before, after]
  · rw [before, after]
    rfl

end Reading

section Making

theorem makeFolder_outline (tree : FileTree) (path : Path) :
    tree.outline.makeFolder path = (tree.makeFolder path).map outline := by
  rw [makeFolder, makeFolder, reach_outline]
  cases tree.reach path with
  | ok found =>
      cases found with
      | file bytes mode => rfl
      | folder mode entries => rfl
  | error fault =>
      cases fault with
      | missing =>
          change Except.ok _ = Except.ok _
          rw [put_outline]
          rfl
      | _ => rfl

theorem afterwards_makeFolder_outline (tree : FileTree) (path : Path) :
    tree.outline.afterwards (tree.outline.makeFolder path) =
      ((tree.afterwards (tree.makeFolder path)).1,
        (tree.afterwards (tree.makeFolder path)).2.outline) := by
  rw [makeFolder_outline]
  cases tree.makeFolder path with
  | error error => rfl
  | ok made => rfl

theorem makeFoldersUp_outline (tree : FileTree) (anchor : String) (up : List String) :
    tree.outline.makeFoldersUp anchor up =
      ((tree.makeFoldersUp anchor up).1, (tree.makeFoldersUp anchor up).2.outline) := by
  induction up with
  | nil => rfl
  | cons name above induction =>
      simp only [makeFoldersUp, reach_outline, induction, afterwards_makeFolder_outline]
      cases tree.reach ⟨anchor, (name :: above).reverse⟩ with
      | ok found => rfl
      | error fault =>
          cases fault with
          | missing =>
              cases tree.makeFoldersUp anchor above with
              | mk error made =>
                  cases error with
                  | some error => rfl
                  | none => exact afterwards_makeFolder_outline made _
          | _ => rfl

theorem makeFolders_fst_congr {tree changed : FileTree}
    (same : changed.outline = tree.outline) (path : Path) :
    (changed.makeFolders path).1 = (tree.makeFolders path).1 := by
  have before := makeFoldersUp_outline tree path.anchor path.names.reverse
  have after := makeFoldersUp_outline changed path.anchor path.names.reverse
  rw [same, before] at after
  exact (congrArg Prod.fst after).symm

end Making

section Listing

mutual

theorem places_outline (enters : String → Bool) :
    (tree : FileTree) → tree.outline.places enters =
      (tree.places enters).map fun place => (place.1, place.2.outline)
  | file _ _ => rfl
  | folder _ entries => by
      rw [outline, places, places]
      exact placesIn_outlines enters entries

theorem placesIn_outlines (enters : String → Bool) :
    (entries : List (String × FileTree)) → placesIn enters (outlines entries) =
      (placesIn enters entries).map fun place => (place.1, place.2.outline)
  | [] => rfl
  | entry :: rest => by
      rw [outlines, placesIn, placesIn, List.map_append, placesAt_outlineEntry enters entry,
        placesIn_outlines enters rest]

theorem placesAt_outlineEntry (enters : String → Bool) :
    (entry : String × FileTree) → placesAt enters (outlineEntry entry) =
      (placesAt enters entry).map fun place => (place.1, place.2.outline)
  | (name, tree) => by
      rw [outlineEntry, placesAt, placesAt, isFolder_outline]
      split
      · rfl
      · rw [places_outline enters tree]
        simp only [List.map_cons, List.map_map]
        rfl

end

end Listing

end ScriptLint.FileTree
