import ScriptLint.Files.Replace
import ScriptLint.Proofs.Files.Access

/-!
# What replacing a file keeps

Replacing a file makes folders, writes a temporary file under a name that is not
taken and moves it.  Whatever comes of it, everything apart from the replaced file
stays as it was.
-/

namespace ScriptLint

namespace FileTree

section Names

theorem length_temporaryEnding (count : Nat) : (temporaryEnding count).length = 8 := by
  unfold temporaryEnding
  split
  · rfl
  · rw [List.length_map]
    rfl

theorem ne_of_mem_temporaryEnding {count : Nat} {char : Char}
    (member : char ∈ temporaryEnding count) : char ≠ '/' ∧ char ≠ '\x00' := by
  have digits : ∀ digit < 10, Nat.digitChar digit ≠ '/' ∧ Nat.digitChar digit ≠ '\x00' := by
    decide
  unfold temporaryEnding at member
  split at member
  · have letters : ∀ char ∈ ['T', 'E', 'M', 'P', 'N', 'A', 'M', 'E'],
        char ≠ '/' ∧ char ≠ '\x00' := by simp
    exact letters char member
  · obtain ⟨unit, -, rfl⟩ := List.mem_map.mp member
    exact digits _ (Nat.mod_lt _ (by decide))

theorem exists_freshName_eq (stem : String) (taken : List String) :
    ∃ count, freshName stem taken = stem ++ String.ofList (temporaryEnding count) := by
  unfold freshName
  dsimp only
  cases chosen : ((List.range (Nat.min (taken.length + 1) endingCount)).map fun count =>
      stem ++ String.ofList (temporaryEnding count)).find? (!taken.contains ·) with
  | none => exact ⟨0, rfl⟩
  | some name =>
      obtain ⟨count, -, named⟩ := List.mem_map.mp (List.mem_of_find?_eq_some chosen)
      exact ⟨count, named.symm⟩

theorem length_freshName (stem : String) (taken : List String) :
    (freshName stem taken).toList.length = stem.toList.length + 8 := by
  obtain ⟨count, named⟩ := exists_freshName_eq stem taken
  rw [named, String.toList_append, List.length_append, String.toList_ofList,
    length_temporaryEnding]

theorem not_mem_freshName {stem : String} {char : Char} (taken : List String)
    (special : char = '/' ∨ char = '\x00') (free : char ∉ stem.toList) :
    char ∉ (freshName stem taken).toList := by
  obtain ⟨count, named⟩ := exists_freshName_eq stem taken
  rw [named, String.toList_append, String.toList_ofList, List.mem_append]
  rintro (inStem | inEnding)
  · exact free inStem
  · obtain ⟨noSlash, noNull⟩ := ne_of_mem_temporaryEnding inEnding
    exact special.elim noSlash noNull

theorem freshName_ne_of_short {name : String} (stem : String) (taken : List String)
    (short : name.toList.length ≤ 2) : freshName stem taken ≠ name := by
  intro same
  have long := length_freshName stem taken
  rw [same] at long
  omega

theorem freshName_ne_dots (stem : String) (taken : List String) :
    freshName stem taken ≠ ".." :=
  freshName_ne_of_short stem taken (by decide)

end Names

section Temporary

variable {tree : FileTree} {path : Path}

theorem name_mem_or_eq (path : Path) : path.name ∈ path.names ∨ path.name = "" := by
  unfold Path.name
  cases last : path.names.getLast? with
  | none => exact Or.inr rfl
  | some name => exact Or.inl (List.mem_of_getLast? last)

theorem holdsNull_temporaryPath (tree : FileTree) (noNull : path.holdsNull = false) :
    (tree.temporaryPath path).holdsNull = false := by
  rw [Path.holdsNull_eq_false_iff] at noNull ⊢
  intro name member
  rcases List.mem_append.mp member with inFolder | here
  · exact noNull name (List.dropLast_subset _ (Path.of_mem_resolveNames inFolder).1)
  · obtain rfl := List.mem_singleton.mp here
    have nameFree : '\x00' ∉ path.name.toList := by
      rcases name_mem_or_eq path with listed | empty
      · exact noNull _ listed
      · simp [empty]
    exact not_mem_freshName _ (Or.inr rfl) (by simp [nameFree])

theorem resolve_temporaryPath (tree : FileTree) (path : Path) :
    (tree.temporaryPath path).resolve = tree.temporaryPath path :=
  Path.resolve_child (Path.resolve_resolve _) (freshName_ne_dots _ _)

/-- A path leads to nothing, and not because it is too long. -/
def Lacks (tree : FileTree) (path : Path) : Prop :=
  ∃ fault, tree.reach path = .error fault ∧ fault ≠ .tooLong

theorem names_temporaryPath_ne_nil (tree : FileTree) (path : Path) :
    (tree.temporaryPath path).resolve.names ≠ [] := by
  rw [temporaryPath, Path.names_resolve_child_resolve _ (freshName_ne_dots _ _)]
  exact List.append_ne_nil_of_right_ne_nil _ (List.cons_ne_nil _ [])

/-- There is nothing at the place of a temporary file that can be made. -/
theorem absent_temporaryPath (noNull : path.holdsNull = false)
    (free : tree.Lacks (tree.temporaryPath path)) :
    ∀ found, tree.find (tree.temporaryPath path).resolve.names ≠ .ok found := by
  intro found there
  obtain ⟨fault, failed, fits⟩ := free
  have temporaryFree := holdsNull_temporaryPath tree noNull
  have short : ¬ pathLimit < (tree.temporaryPath path).toString.utf8ByteSize := by
    intro tooLong
    rw [reach, if_neg (by simp [temporaryFree]), if_pos tooLong] at failed
    exact fits (Except.error.inj failed).symm
  rw [resolve_temporaryPath] at there
  have reached := (reach_eq_ok_iff_find (resolve_temporaryPath tree path)).mpr
    ⟨temporaryFree, short, there⟩
  simp [failed] at reached

theorem free_temporaryPath {mode : Nat} {entries : List (String × FileTree)}
    (noNull : path.holdsNull = false) (free : tree.Lacks (tree.temporaryPath path))
    (parent : tree.find path.parent.resolve.names = .ok (folder mode entries)) :
    ∃ name, (tree.temporaryPath path).resolve.names = path.parent.resolve.names ++ [name] ∧
      ¬ nameLimit < name.utf8ByteSize ∧ getNamed? entries name = none := by
  have absent := absent_temporaryPath noNull free
  obtain ⟨name, place⟩ : ∃ name, (tree.temporaryPath path).resolve.names =
      path.parent.resolve.names ++ [name] :=
    ⟨_, Path.names_resolve_child_resolve _ (freshName_ne_dots _ _)⟩
  have short : ¬ nameLimit < name.utf8ByteSize := by
    intro tooLong
    obtain ⟨fault, failed, fits⟩ := free
    have onward := reachFrom_resolve tree (tree.temporaryPath path)
    rw [place, find_append [name] parent, find, if_pos tooLong, ← place,
      resolve_temporaryPath] at onward
    rw [reach, if_neg (by simp [holdsNull_temporaryPath tree noNull]), onward, ite_self] at failed
    exact fits (Except.error.inj failed).symm
  refine ⟨name, place, short, ?_⟩
  cases held : getNamed? entries name with
  | none => rfl
  | some below =>
      refine absurd ?_ (absent below)
      rw [place, find_append [name] parent]
      exact find_cons_folder_eq_ok_iff.mpr ⟨short, below, held, rfl⟩

end Temporary

section Replacing

variable {tree written moved below : FileTree} {start path : Path}

theorem of_modeAt_eq_ok {mode : Nat} (known : tree.modeAt path = .ok mode) :
    path.holdsNull = false ∧ ¬ pathLimit < path.toString.utf8ByteSize := by
  unfold modeAt at known
  split at known
  · rename_i found reached
    exact ⟨(reach_eq_ok_iff.mp reached).1, (reach_eq_ok_iff.mp reached).2.1⟩
  · rename_i missing
    obtain ⟨noNull, fits, -⟩ := (reach_eq_iff (by simp) (by simp)).mp missing
    exact ⟨noNull, fits⟩
  · simp at known

theorem of_makeFile_eq_ok {bytes : List UInt8} {mode : Nat}
    (success : tree.makeFile path bytes mode = .ok written) :
    tree.Lacks path ∧ written = tree.put path.resolve.names (file bytes mode) := by
  unfold makeFile at success
  split at success
  · simp at success
  · rename_i fault notLong failed
    exact ⟨⟨fault, failed, notLong⟩, (Except.ok.inj success).symm⟩
  · simp at success

theorem of_moveFile_eq_ok (success : tree.moveFile start path = .ok moved) :
    endsInName path = true ∧
      (∀ mode entries, tree.reach path ≠ .ok (folder mode entries)) ∧
      ∃ held, tree.reach start = .ok held ∧
        moved = (tree.erase start.resolve.names).put path.resolve.names held := by
  unfold moveFile at success
  split at success
  · simp at success
  · rename_i held reached
    split at success
    · simp at success
    · rename_i named
      split at success
      · simp at success
      · rename_i noFolder
        exact ⟨by simpa using named, noFolder, held, reached, (Except.ok.inj success).symm⟩

theorem names_of_endsInName (named : endsInName path = true) :
    ∃ name, name ≠ ".." ∧ path.names = path.parent.names ++ [name] ∧
      path.resolve.names = path.parent.resolve.names ++ [name] := by
  unfold endsInName at named
  rcases List.eq_nil_or_concat path.names with none | ⟨above, name, whole⟩
  · simp [none] at named
  · rw [List.concat_eq_append] at whole
    have ordinary : name ≠ ".." := by simpa [whole] using named
    refine ⟨name, ordinary, by simp [Path.parent, whole], ?_⟩
    simp [Path.resolve, Path.resolveNames, Path.parent, whole, Path.pushName, ordinary]

theorem reach_of_endsInName (noNull : path.holdsNull = false)
    (fits : ¬ pathLimit < path.toString.utf8ByteSize) (named : endsInName path = true)
    (parent : tree.reachFrom [] path.parent.names = .ok below) :
    tree.reach path = tree.find path.resolve.names := by
  obtain ⟨name, ordinary, whole, place⟩ := names_of_endsInName named
  rw [reach, if_neg (by simp [noNull]), if_neg fits, whole,
    reachFrom_concat parent ordinary, place]
  rfl

theorem parent_of_modeAt {mode : Nat} (known : tree.modeAt path = .ok mode)
    (named : endsInName path = true)
    (parent : tree.reachFrom [] path.parent.names = .ok below) :
    ∃ name folderMode entries,
      path.resolve.names = path.parent.resolve.names ++ [name] ∧
      tree.find path.parent.resolve.names = .ok (folder folderMode entries) ∧
      ¬ nameLimit < name.utf8ByteSize := by
  obtain ⟨noNull, fits⟩ := of_modeAt_eq_ok known
  obtain ⟨name, -, -, place⟩ := names_of_endsInName named
  have atParent : tree.find path.parent.resolve.names = .ok below := find_of_reachFrom parent
  unfold modeAt at known
  rw [reach_of_endsInName noNull fits named parent, place, find_append [name] atParent] at known
  cases below with
  | file bytes own => simp [find] at known
  | folder folderMode entries =>
      refine ⟨name, folderMode, entries, place, atParent, ?_⟩
      intro tooLong
      simp [find, tooLong] at known

/-- Erasing what was put at a new place in a folder gives the tree back. -/
theorem erase_put_child {above : List String} {mode : Nat}
    {entries : List (String × FileTree)} {name : String} (new : FileTree)
    (there : find above tree = .ok (folder mode entries))
    (absent : getNamed? entries name = none) :
    (tree.put (above ++ [name]) new).erase (above ++ [name]) = tree := by
  induction above generalizing tree with
  | nil =>
      obtain rfl : tree = folder mode entries := by simpa [find] using there
      simp [put, erase, eraseNamed_putNamed new absent]
  | cons first rest induction =>
      obtain ⟨own, others, below, rfl, -, held, onward⟩ := find_cons_eq_ok_iff.mp there
      have same := induction onward
      obtain ⟨next, last, whole⟩ := List.exists_cons_of_ne_nil
        (List.append_ne_nil_of_right_ne_nil rest (List.cons_ne_nil name []))
      rw [List.cons_append, put, held, Option.getD_some]
      rw [whole] at same ⊢
      simp only [erase, getNamed?_putNamed, if_true, same, putNamed_putNamed,
        putNamed_of_getNamed? held]

theorem erase_put_of_file {names : List String} (nonempty : names ≠ []) (new : FileTree)
    (bytes : List UInt8) (mode : Nat) :
    ((file bytes mode).put names new).erase names = file bytes mode := by
  cases names with
  | nil => exact absurd rfl nonempty
  | cons first rest => rw [put, erase]

/-- Of a temporary file in a folder, nothing is left once it is erased. -/
theorem erase_put_temporaryPath {mode : Nat} {entries : List (String × FileTree)}
    (new : FileTree) (noNull : path.holdsNull = false)
    (free : tree.Lacks (tree.temporaryPath path))
    (parent : tree.find path.parent.resolve.names = .ok (folder mode entries)) :
    (tree.put (tree.temporaryPath path).resolve.names new).erase
      (tree.temporaryPath path).resolve.names = tree := by
  obtain ⟨name, place, -, absent⟩ := free_temporaryPath noNull free parent
  rw [place]
  exact erase_put_child new parent absent

end Replacing

theorem of_modeAt_bind_makeFile {tree written : FileTree} {path temporary : Path}
    {bytes : List UInt8}
    (stored : (tree.modeAt path >>= tree.makeFile temporary bytes) = .ok written) :
    ∃ mode, tree.modeAt path = .ok mode ∧
      tree.makeFile temporary bytes mode = .ok written := by
  cases known : tree.modeAt path with
  | error problem => simp [known, bind, Except.bind] at stored
  | ok mode => exact ⟨mode, rfl, by simpa [known, bind, Except.bind] using stored⟩

/-- A file was replaced: its folders were made, and it was put into the last of them, where
there was no folder of its name.  Of the temporary file nothing is left. -/
structure Replaced (tree : FileTree) (path : Path) (bytes : List UInt8) (made after : FileTree)
    (mode : Nat) (name : String) : Prop where
  folders : tree.makeFolders path.parent = (none, made)
  known : made.modeAt path = .ok mode
  named : endsInName path = true
  place : path.resolve.names = path.parent.resolve.names ++ [name]
  parent : ∃ folderMode entries,
    made.find path.parent.resolve.names = .ok (folder folderMode entries)
  fits : ¬ nameLimit < name.utf8ByteSize
  noFolder : ∀ mode entries, made.find path.resolve.names ≠ .ok (folder mode entries)
  written : after = made.put path.resolve.names (file bytes mode)

theorem of_replaceFile {tree after : FileTree} {path : Path} {bytes : List UInt8}
    (success : tree.replaceFile path bytes = (none, after)) :
    ∃ made mode name, Replaced tree path bytes made after mode name := by
  unfold replaceFile at success
  cases ended : tree.makeFolders path.parent with
  | mk error made =>
      rw [ended] at success
      cases error with
      | some error => simp at success
      | none =>
          obtain ⟨below, parent⟩ := reachFrom_of_makeFoldersUp ended
          rw [List.reverse_reverse] at parent
          dsimp only at success
          split at success
          · simp at success
          · rename_i written stored
            obtain ⟨mode, known, wrote⟩ := of_modeAt_bind_makeFile stored
            obtain ⟨noNull, short⟩ := of_modeAt_eq_ok known
            obtain ⟨temporaryFree, rfl⟩ := of_makeFile_eq_ok wrote
            split at success
            · simp at success
            · rename_i moved whole
              obtain ⟨named, noFolder, held, reached, rfl⟩ := of_moveFile_eq_ok whole
              obtain rfl := (Prod.mk.inj success).2
              obtain ⟨name, folderMode, entries, place, atParent, fits⟩ :=
                parent_of_modeAt known named parent
              have absent := absent_temporaryPath noNull temporaryFree
              obtain rfl := eq_of_find_put (find_of_reach reached)
              refine ⟨made, mode, name, ended, known, named, place, ⟨_, _, atParent⟩, fits, ?_,
                by rw [erase_put_temporaryPath _ noNull temporaryFree atParent]⟩
              -- A folder there would still be there when the temporary file is moved.
              intro ownMode own folderThere
              have keeps := keepsAll_put (file bytes mode) absent
              obtain ⟨_, parentStays, -⟩ := keeps.reachFrom parent
              obtain ⟨_, atPath, same⟩ := keeps _ _ not_false folderThere
              cases same with
              | folder _ _ others =>
                  apply noFolder ownMode others
                  rw [reach_of_endsInName noNull short named parentStays, atPath]

theorem Replaced.find {tree made after : FileTree} {path : Path} {bytes : List UInt8}
    {mode : Nat} {name : String} (replaced : Replaced tree path bytes made after mode name) :
    after.find path.resolve.names = .ok (file bytes mode) := by
  obtain ⟨folderMode, entries, atParent⟩ := replaced.parent
  rw [replaced.written, replaced.place]
  exact find_put_child _ atParent replaced.fits

/-- A file that could not be replaced leaves no trace but the folders made for it. -/
theorem of_replaceFile_failed {tree after : FileTree} {path : Path} {bytes : List UInt8}
    {error : FileError} (failed : tree.replaceFile path bytes = (some error, after)) :
    after = (tree.makeFolders path.parent).2 := by
  unfold replaceFile at failed
  cases ended : tree.makeFolders path.parent with
  | mk problem made =>
      rw [ended] at failed
      cases problem with
      | some problem => exact (Prod.mk.inj failed).2.symm
      | none =>
          dsimp only at failed
          split at failed
          · exact (Prod.mk.inj failed).2.symm
          · rename_i written stored
            obtain ⟨mode, known, wrote⟩ := of_modeAt_bind_makeFile stored
            obtain ⟨noNull, -⟩ := of_modeAt_eq_ok known
            obtain ⟨temporaryFree, rfl⟩ := of_makeFile_eq_ok wrote
            split at failed
            · obtain rfl := (Prod.mk.inj failed).2
              by_cases top : path.parent.names = []
              · -- The top may be a file, which is left alone in all steps.
                have atTop : made.find path.parent.resolve.names = .ok made := by
                  rw [Path.resolve, top]
                  rfl
                cases made with
                | file held own =>
                    exact erase_put_of_file (names_temporaryPath_ne_nil _ path) _ held own
                | folder own entries => exact erase_put_temporaryPath _ noNull temporaryFree atTop
              · obtain ⟨own, entries, reached⟩ := (of_makeFolders ended).2 rfl top
                exact erase_put_temporaryPath _ noNull temporaryFree (find_of_reach reached)
            · simp at failed

theorem keeps_replaceFile (tree : FileTree) (path : Path) (bytes : List UInt8) :
    Keeps (· = path.resolve.names) tree (tree.replaceFile path bytes).2 := by
  cases ended : tree.replaceFile path bytes with
  | mk error after =>
      cases error with
      | some error =>
          rw [of_replaceFile_failed ended]
          exact (of_makeFolders rfl).1.keeps _
      | none =>
          obtain ⟨made, mode, name, replaced⟩ := of_replaceFile ended
          rw [replaced.written]
          exact ((of_makeFolders replaced.folders).1.keeps _).trans (keeps_put _ replaced.noFolder)

theorem find_of_replaceFile {tree after : FileTree} {path : Path} {bytes : List UInt8}
    (success : tree.replaceFile path bytes = (none, after)) :
    ∃ mode, after.find path.resolve.names = .ok (file bytes mode) := by
  obtain ⟨made, mode, name, replaced⟩ := of_replaceFile success
  exact ⟨mode, replaced.find⟩

end FileTree

end ScriptLint
