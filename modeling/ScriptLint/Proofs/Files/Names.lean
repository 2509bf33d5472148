import ScriptLint.Proofs.Files.Places
import ScriptLint.Proofs.Files.Replace
import ScriptLint.Proofs.PathText

/-!
# Names in file trees

Files and folders are put at resolved places, so a tree keeps to the names of a kind as
long as the paths that it is asked for do.  The names that a file system gives are such
a kind: they are names of paths other than the way back, without null characters.
-/

namespace ScriptLint.FileTree

/-- All entries of a tree have names of a kind. -/
inductive HasNames (kind : String → Prop) : FileTree → Prop
  | file (bytes : List UInt8) (mode : Nat) : HasNames kind (.file bytes mode)
  | folder (mode : Nat) (entries : List (String × FileTree))
      (named : ∀ entry ∈ entries, kind entry.1)
      (below : ∀ entry ∈ entries, HasNames kind entry.2) :
      HasNames kind (.folder mode entries)

namespace HasNames

variable {kind : String → Prop} {tree found new : FileTree}

theorem imp {other : String → Prop} (names : tree.HasNames kind)
    (weaker : ∀ name, kind name → other name) : tree.HasNames other := by
  induction names with
  | file bytes mode => exact .file bytes mode
  | folder mode entries named _ below =>
      exact .folder mode entries (fun entry member => weaker _ (named entry member)) below

theorem of_find {place : List String} (names : tree.HasNames kind)
    (there : tree.find place = .ok found) :
    (∀ name ∈ place, kind name) ∧ found.HasNames kind := by
  induction place generalizing tree with
  | nil =>
      obtain rfl : tree = found := by simpa [find] using there
      exact ⟨by simp, names⟩
  | cons name rest induction =>
      obtain ⟨mode, entries, inside, rfl, -, held, onward⟩ := find_cons_eq_ok_iff.mp there
      have member := mem_of_getNamed? held
      cases names with
      | folder _ _ named below =>
          obtain ⟨later, foundNames⟩ := induction (below _ member) onward
          exact ⟨List.forall_mem_cons.mpr ⟨named _ member, later⟩, foundNames⟩

theorem put {place : List String} (names : tree.HasNames kind)
    (placeNames : ∀ name ∈ place, kind name) (newNames : new.HasNames kind) :
    (tree.put place new).HasNames kind := by
  induction place generalizing tree with
  | nil => simpa [FileTree.put] using newNames
  | cons name rest induction =>
      obtain ⟨here, onward⟩ := List.forall_mem_cons.mp placeNames
      cases names with
      | file bytes mode => exact .file bytes mode
      | folder mode entries named below =>
          have inside : ((getNamed? entries name).getD emptyFolder).HasNames kind := by
            cases held : getNamed? entries name with
            | none => exact .folder _ [] (by simp) (by simp)
            | some found => exact below _ (mem_of_getNamed? held)
          have changed := induction inside onward
          rw [FileTree.put]
          refine .folder mode _ ?_ ?_
          · intro entry member
            rcases of_mem_putNamed member with rfl | old
            · exact here
            · exact named entry old
          · intro entry member
            rcases of_mem_putNamed member with rfl | old
            · exact changed
            · exact below entry old

theorem erase (names : tree.HasNames kind) (place : List String) :
    (tree.erase place).HasNames kind := by
  induction place generalizing tree with
  | nil => simpa [FileTree.erase] using names
  | cons name rest induction =>
      cases names with
      | file bytes mode => simpa [FileTree.erase] using HasNames.file bytes mode
      | folder mode entries named below =>
          cases rest with
          | nil =>
              rw [FileTree.erase]
              refine .folder mode _ ?_ ?_
              · intro entry member
                exact named entry (List.mem_of_mem_filter member)
              · intro entry member
                exact below entry (List.mem_of_mem_filter member)
          | cons next rest =>
              rw [FileTree.erase]
              split
              · exact .folder mode entries named below
              · rename_i inside held
                have member := mem_of_getNamed? held
                have changed := induction (below _ member)
                refine .folder mode _ ?_ ?_
                · intro entry listed
                  rcases of_mem_putNamed listed with rfl | old
                  · exact named (name, inside) member
                  · exact named entry old
                · intro entry listed
                  rcases of_mem_putNamed listed with rfl | old
                  · exact changed
                  · exact below entry old

theorem of_leads {enters : String → Bool} {place : List String}
    (names : tree.HasNames kind) (leads : Leads enters tree place found) :
    ∀ name ∈ place, kind name := by
  induction leads with
  | entry member _ =>
      cases names with
      | folder _ _ named _ => simpa using named _ member
  | onward member _ _ induction =>
      cases names with
      | folder _ _ named below =>
          exact List.forall_mem_cons.mpr ⟨named _ member, induction (below _ member)⟩

/-- Names of a path are of a kind unless they are ways back or hold null characters. -/
def Suits (kind : String → Prop) (names : List String) : Prop :=
  ∀ name ∈ names, name ≠ ".." → '\x00' ∉ name.toList → kind name

theorem Suits.resolve {path : Path} (suits : Suits kind path.names)
    (free : path.holdsNull = false) : ∀ name ∈ path.resolve.names, kind name := by
  intro name member
  obtain ⟨listed, ordinary⟩ := Path.of_mem_resolveNames member
  exact suits name listed ordinary (Path.holdsNull_eq_false_iff.mp free name listed)

theorem afterwards_makeFolder (names : tree.HasNames kind) {path : Path}
    (suits : Suits kind path.names) :
    (tree.afterwards (tree.makeFolder path)).2.HasNames kind := by
  unfold makeFolder
  split
  · exact names
  · exact names
  · rename_i missing
    have free := ((reach_eq_iff (by simp) (by simp)).mp missing).1
    exact names.put (suits.resolve free) (.folder _ [] (by simp) (by simp))
  · exact names

theorem makeFoldersUp (names : tree.HasNames kind) (anchor : String) {up : List String}
    (suits : Suits kind up) : (tree.makeFoldersUp anchor up).2.HasNames kind := by
  induction up generalizing tree with
  | nil => exact names
  | cons name above induction =>
      have suitsAbove : Suits kind above :=
        fun other member => suits other (List.mem_cons_of_mem _ member)
      have suitsHere : Suits kind (name :: above).reverse :=
        fun other member => suits other (List.mem_reverse.mp member)
      have madeAbove := induction names suitsAbove
      simp only [FileTree.makeFoldersUp]
      split
      · split
        · rename_i error made failed
          rwa [failed] at madeAbove
        · rename_i made succeeded
          rw [succeeded] at madeAbove
          exact madeAbove.afterwards_makeFolder suitsHere
      · exact names.afterwards_makeFolder suitsHere

/-- Replacing a file makes folders and puts files at resolved places only. -/
theorem replaceFile (names : tree.HasNames kind) {path : Path}
    (suits : Suits kind path.names)
    (fresh : path.holdsNull = false → ∀ taken,
      kind (freshName ("." ++ path.name ++ ".") taken))
    (bytes : List UInt8) : (tree.replaceFile path bytes).2.HasNames kind := by
  have suitsParent : Suits kind path.parent.names.reverse := by
    intro name member
    exact suits name (List.dropLast_subset _ (List.mem_reverse.mp member))
  have made := names.makeFoldersUp path.parent.anchor suitsParent
  unfold FileTree.replaceFile makeFolders
  split
  · rename_i error left failed
    rwa [failed] at made
  · rename_i left succeeded
    rw [succeeded] at made
    dsimp only
    split
    · exact made
    · rename_i written stored
      obtain ⟨mode, known, wrote⟩ := of_modeAt_bind_makeFile stored
      obtain ⟨free, -⟩ := of_modeAt_eq_ok known
      obtain ⟨-, rfl⟩ := of_makeFile_eq_ok wrote
      have temporaryNames : ∀ name ∈ (left.temporaryPath path).resolve.names, kind name := by
        intro name member
        obtain ⟨listed, -⟩ := Path.of_mem_resolveNames member
        rcases List.mem_append.mp listed with inFolder | here
        · obtain ⟨inParent, ordinary⟩ := Path.of_mem_resolveNames inFolder
          have inPath := List.dropLast_subset _ inParent
          exact suits name inPath ordinary (Path.holdsNull_eq_false_iff.mp free name inPath)
        · obtain rfl := List.mem_singleton.mp here
          exact fresh free _
      have writtenNames := made.put temporaryNames (.file bytes mode)
      have erased := writtenNames.erase (left.temporaryPath path).resolve.names
      split
      · exact erased
      · rename_i moved success
        obtain ⟨-, -, held, reached, rfl⟩ := of_moveFile_eq_ok success
        exact erased.put (suits.resolve free) (writtenNames.of_find (find_of_reach reached)).2

end HasNames

/-- A name that a file system gives. -/
structure IsFileName (name : String) : Prop where
  isName : Path.isName name = true
  notBack : name ≠ ".."
  noNull : '\x00' ∉ name.toList

instance (name : String) : Decidable (IsFileName name) :=
  decidable_of_iff (Path.isName name = true ∧ name ≠ ".." ∧ '\x00' ∉ name.toList)
    ⟨fun ⟨isName, notBack, noNull⟩ => ⟨isName, notBack, noNull⟩,
      fun named => ⟨named.isName, named.notBack, named.noNull⟩⟩

/-- A tree as a file system holds it. -/
def IsNamed (tree : FileTree) : Prop :=
  tree.HasNames IsFileName

theorem IsNamed.singleton {name : String} {tree : FileTree} (mode : Nat)
    (isName : IsFileName name) (inside : tree.IsNamed) :
    IsNamed (.folder mode [(name, tree)]) := by
  refine .folder _ _ (by simpa using isName) ?_
  rintro entry member
  obtain rfl := List.mem_singleton.mp member
  exact inside

theorem isFileName_freshName {path : Path} (proper : path.IsProper)
    (free : path.holdsNull = false) (taken : List String) :
    IsFileName (freshName ("." ++ path.name ++ ".") taken) := by
  have slashFree : '/' ∉ path.name.toList ∧ '\x00' ∉ path.name.toList := by
    rcases name_mem_or_eq path with listed | empty
    · exact ⟨(Path.isName_eq_true_iff.mp (proper _ listed)).2.2,
        Path.holdsNull_eq_false_iff.mp free _ listed⟩
    · simp [empty]
  refine ⟨Path.isName_eq_true_iff.mpr ⟨?_, ?_, ?_⟩, freshName_ne_dots _ _, ?_⟩
  · exact freshName_ne_of_short _ taken (by decide)
  · exact freshName_ne_of_short _ taken (by decide)
  · exact not_mem_freshName taken (Or.inl rfl) (by simp [slashFree.1])
  · exact not_mem_freshName taken (Or.inr rfl) (by simp [slashFree.2])

theorem IsNamed.replaceFile {tree : FileTree} (named : tree.IsNamed) {path : Path}
    (proper : path.IsProper) (bytes : List UInt8) :
    (tree.replaceFile path bytes).2.IsNamed := by
  refine HasNames.replaceFile named ?_ (isFileName_freshName proper) bytes
  intro name member notBack noNull
  exact ⟨proper name member, notBack, noNull⟩

end ScriptLint.FileTree
