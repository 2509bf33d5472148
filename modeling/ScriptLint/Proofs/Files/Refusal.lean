import ScriptLint.Proofs.Files.Replace

/-!
# Refused paths

A request is refused exactly if it comes to a path that holds a null character.
-/

namespace ScriptLint.FileTree

variable {tree : FileTree} {path : Path}

theorem find_ne_null (names : List String) (tree : FileTree) :
    tree.find names ≠ .error .nullCharacter := by
  fun_induction find names tree with
  | case1 tree => simp
  | case2 name rest bytes mode => simp
  | case3 name rest mode entries tooLong => simp
  | case4 name rest mode entries short absent => simp
  | case5 name rest mode entries short below held induction => exact induction

theorem reachFrom_ne_null (tree : FileTree) (above names : List String) :
    tree.reachFrom above names ≠ .error .nullCharacter := by
  induction names generalizing above with
  | nil => exact find_ne_null above.reverse tree
  | cons name rest induction =>
      rw [reachFrom]
      split
      · split
        · rename_i fault failed
          intro refused
          exact find_ne_null above.reverse tree (failed.trans refused)
        · simp
        · exact induction above.tail
      · exact induction (name :: above)

theorem reach_eq_null_iff :
    tree.reach path = .error .nullCharacter ↔ path.holdsNull = true := by
  unfold reach
  split
  · rename_i null
    simp [null]
  · rename_i free
    split
    · simp [free]
    · simp [free, reachFrom_ne_null]

/-- A failure to follow a path is a refusal exactly if the path holds a null
character. -/
theorem isRefusal_of_reach {fault : FileFault} (failed : tree.reach path = .error fault)
    (text : String) (target : Option String) :
    FileError.isRefusal ⟨fault, text, target⟩ = path.holdsNull := by
  rw [Bool.eq_iff_iff, ← reach_eq_null_iff, failed]
  simp [FileError.isRefusal]

theorem isRefusal_of_readText {error : ReadError}
    (failed : tree.readText path = .error error) : error.isRefusal = path.holdsNull := by
  cases reached : tree.reach path with
  | error fault =>
      simp only [readText, readBytes, get, reached, Except.mapError,
        Except.error.injEq] at failed
      subst failed
      exact isRefusal_of_reach reached _ _
  | ok found =>
      rw [(reach_eq_ok_iff.mp reached).1]
      cases found with
      | folder mode entries =>
          simp only [readText, readBytes, get, reached, Except.mapError,
            Except.error.injEq] at failed
          subst failed
          rfl
      | file bytes mode =>
          simp only [readText, readBytes, get, reached, Except.mapError] at failed
          split at failed
          · obtain rfl := Except.error.inj failed
            rfl
          · simp at failed

theorem isRefusal_of_makeFolder {error : FileError}
    (failed : tree.makeFolder path = .error error) :
    error.isRefusal = path.holdsNull := by
  unfold makeFolder at failed
  split at failed
  · simp at failed
  · rename_i bytes mode reached
    obtain rfl := Except.error.inj failed
    exact (reach_eq_ok_iff.mp reached).1.symm
  · simp at failed
  · rename_i fault notMissing reached
    obtain rfl := Except.error.inj failed
    exact isRefusal_of_reach reached _ _

theorem isRefusal_of_afterwards {error : FileError} {made : FileTree}
    (ended : tree.afterwards (tree.makeFolder path) = (some error, made)) :
    error.isRefusal = path.holdsNull := by
  cases outcome : tree.makeFolder path with
  | error problem =>
      rw [outcome, afterwards, Prod.mk.injEq, Option.some.injEq] at ended
      obtain ⟨rfl, -⟩ := ended
      exact isRefusal_of_makeFolder outcome
  | ok changed => simp [outcome, afterwards] at ended

theorem isRefusal_of_makeFoldersUp {anchor : String} {up : List String}
    {error : FileError} {made : FileTree}
    (failed : tree.makeFoldersUp anchor up = (some error, made)) :
    error.isRefusal = Path.holdsNull ⟨anchor, up.reverse⟩ := by
  induction up generalizing tree error made with
  | nil => simp [makeFoldersUp] at failed
  | cons name above induction =>
      simp only [makeFoldersUp] at failed
      split at failed
      · rename_i missing
        split at failed
        · rename_i problem half failedAbove
          obtain ⟨sameError, -⟩ := Prod.mk.inj failed
          obtain rfl := Option.some.inj sameError
          -- The folders above are only made if the whole path is not refused.
          have free : Path.holdsNull ⟨anchor, (name :: above).reverse⟩ = false :=
            (isRefusal_of_reach missing "" none).symm
          rw [induction failedAbove, free]
          rw [Path.holdsNull_eq_false_iff] at free ⊢
          intro other member
          apply free other
          rw [List.reverse_cons]
          exact List.mem_append_left _ member
        · exact isRefusal_of_afterwards failed
      · exact isRefusal_of_afterwards failed

theorem isRefusal_of_modeAt {error : FileError}
    (failed : tree.modeAt path = .error error) : error.isRefusal = path.holdsNull := by
  unfold modeAt at failed
  split at failed
  · simp at failed
  · simp at failed
  · rename_i fault notMissing reached
    obtain rfl := Except.error.inj failed
    exact isRefusal_of_reach reached _ _

theorem modeAt_of_holdsNull (tree : FileTree) (null : path.holdsNull = true) :
    ∃ error, tree.modeAt path = .error error := by
  rw [modeAt, reach_eq_null_iff.mpr null]
  exact ⟨_, rfl⟩

theorem isRefusal_of_makeFile {bytes : List UInt8} {mode : Nat} {error : FileError}
    (failed : tree.makeFile path bytes mode = .error error) :
    error.isRefusal = false := by
  unfold makeFile at failed
  split at failed
  · obtain rfl := Except.error.inj failed
    rfl
  · simp at failed
  · obtain rfl := Except.error.inj failed
    rfl

theorem isRefusal_of_moveFile {start : Path} {error : FileError}
    (failed : tree.moveFile start path = .error error) (free : start.holdsNull = false) :
    error.isRefusal = false := by
  unfold moveFile at failed
  split at failed
  · rename_i fault reached
    obtain rfl := Except.error.inj failed
    exact (isRefusal_of_reach reached _ _).trans free
  · split at failed
    · obtain rfl := Except.error.inj failed
      rfl
    · split at failed
      · obtain rfl := Except.error.inj failed
        rfl
      · simp at failed

theorem holdsNull_parent (free : path.holdsNull = false) :
    path.parent.holdsNull = false := by
  rw [Path.holdsNull_eq_false_iff] at free ⊢
  intro name member
  exact free name (List.dropLast_subset _ member)

theorem isRefusal_of_makeFolders {error : FileError} {made : FileTree}
    (failed : tree.makeFolders path = (some error, made)) :
    error.isRefusal = path.holdsNull := by
  simpa using isRefusal_of_makeFoldersUp failed

/-- A path without null characters is not refused in any step of the replacement. -/
theorem isRefusal_of_replaceFile {bytes : List UInt8} {error : FileError}
    (failed : (tree.replaceFile path bytes).1 = some error)
    (free : path.holdsNull = false) : error.isRefusal = false := by
  rw [replaceFile] at failed
  split at failed
  · rename_i problem made unmade
    obtain rfl := Option.some.inj failed
    exact (isRefusal_of_makeFolders unmade).trans (holdsNull_parent free)
  · rename_i made succeeded
    dsimp only at failed
    split at failed
    · rename_i problem unwritten
      obtain rfl := Option.some.inj failed
      cases known : made.modeAt path with
      | error own =>
          obtain rfl : own = problem := by
            simpa [known, bind, Except.bind] using unwritten
          exact (isRefusal_of_modeAt known).trans free
      | ok mode =>
          apply isRefusal_of_makeFile
          simpa [known, bind, Except.bind] using unwritten
    · split at failed
      · rename_i problem unmoved
        obtain rfl := Option.some.inj failed
        exact isRefusal_of_moveFile unmoved (holdsNull_temporaryPath made free)
      · simp at failed

/-- Replacing a file is refused if its path holds a null character, unless its folder
cannot be made for another reason before. -/
theorem replaceFile_refused_iff (tree : FileTree) (path : Path) (bytes : List UInt8) :
    (∃ error, (tree.replaceFile path bytes).1 = some error ∧ error.isRefusal = true) ↔
      path.holdsNull = true ∧
        (path.parent.holdsNull = true ∨ (tree.makeFolders path.parent).1 = none) := by
  cases null : path.holdsNull with
  | false =>
      refine iff_of_false ?_ (by simp)
      rintro ⟨error, failed, refusal⟩
      simp [isRefusal_of_replaceFile failed null] at refusal
  | true =>
      rw [replaceFile]
      split
      · rename_i error made failed
        simp [failed, isRefusal_of_makeFolders failed]
      · rename_i made succeeded
        obtain ⟨error, unknown⟩ := modeAt_of_holdsNull made null
        refine iff_of_true ⟨error, ?_, (isRefusal_of_modeAt unknown).trans null⟩
          ⟨rfl, Or.inr (by rw [succeeded])⟩
        simp [unknown, bind, Except.bind]

end ScriptLint.FileTree
