import ScriptLint.Proofs.Files.Contents
import ScriptLint.Proofs.Text.Utf8

/-!
# Writing a text as a whole

A text that has an encoding replaces a file as a whole or not at all.  A text with a
surrogate has none, which shows only when the temporary file is there.  This file is then
left behind, empty, and everything else is as it was.
-/

namespace ScriptLint

namespace FileTree

variable {tree : FileTree} {path : Path} {text : List Utf8.CodePoint} {error : Utf8.EncodeError}
  {outcome : Option WriteError × FileTree}

/-- A file is replaced as a whole or not at all: with the bytes of a text if the outcome is a
success, and with all files as they were if it is a failure.  Whatever else appears is a
folder that the path to the file passes. -/
structure AllOrNothing (tree : FileTree) (path : Path) (text : List Utf8.CodePoint)
    (outcome : Option WriteError × FileTree) : Prop where
  written : outcome.1 = none → ∃ chars mode, text = chars.map .char ∧
    outcome.2.find path.resolve.names = .ok (file (Utf8.encode chars) mode)
  unwritten : outcome.1 ≠ none → ∀ place bytes mode,
    outcome.2.find place = .ok (file bytes mode) ↔ tree.find place = .ok (file bytes mode)
  others : ∀ place bytes mode, place ≠ path.resolve.names →
    (outcome.2.find place = .ok (file bytes mode) ↔ tree.find place = .ok (file bytes mode))
  kept : Keeps (· = path.resolve.names) tree outcome.2
  clean : ∀ place found, outcome.2.find place = .ok found →
    (∃ before, tree.find place = .ok before) ∨
      outcome.1 = none ∧ place = path.resolve.names ∨
        path.parent.Passes place ∧ found.isFolder = true

/-- A failure that only made folders is nothing. -/
theorem allOrNothing_of_folders (failed : outcome.1 ≠ none)
    (made : outcome.2 = (tree.makeFolders path.parent).2) :
    AllOrNothing tree path text outcome := by
  have folders := makesFolders_makeFolders tree path.parent
  have keeps : KeepsAll tree (tree.makeFolders path.parent).2 := (of_makeFolders rfl).1
  have same : ∀ place bytes mode, outcome.2.find place = .ok (file bytes mode) ↔
      tree.find place = .ok (file bytes mode) := by
    intro place bytes mode
    rw [made]
    exact ⟨folders.find_file, keeps.file not_false⟩
  refine ⟨fun succeeded => absurd succeeded failed, fun _ => same, fun place bytes mode _ =>
    same place bytes mode, ?_, ?_⟩
  · rw [made]
    exact keeps.keeps _
  · intro place found there
    rw [made] at there
    rcases folders.find_cases there with ⟨before, wasThere, -⟩ | isNew
    · exact Or.inl ⟨before, wasThere⟩
    · exact Or.inr (Or.inr isNew)

theorem Replaced.find_cases {bytes : List UInt8} {made after found : FileTree} {mode : Nat}
    {name : String} {place : List String} (replaced : Replaced tree path bytes made after mode name)
    (there : after.find place = .ok found) :
    (∃ before, tree.find place = .ok before) ∨ place = path.resolve.names ∨
      path.parent.Passes place ∧ found.isFolder = true := by
  have folders := makesFolders_makeFolders tree path.parent
  obtain ⟨parentMode, entries, atParent⟩ := replaced.parent
  rw [replaced.folders] at folders
  rw [replaced.written] at there
  by_cases here : place = path.resolve.names
  · exact Or.inr (Or.inl here)
  · rw [replaced.place] at there here
    have bare : ∀ first rest found, (file bytes mode).find (first :: rest) ≠ .ok found :=
      fun _ _ _ => by simp [FileTree.find]
    obtain ⟨middle, inMade, same⟩ :=
      keeps_of_put atParent replaced.fits bare place found here there
    rcases folders.find_cases inMade with ⟨before, wasThere, -⟩ | ⟨passes, isFolder⟩
    · exact Or.inl ⟨before, wasThere⟩
    · refine Or.inr (Or.inr ⟨passes, ?_⟩)
      cases same with
      | file => exact isFolder
      | folder => rfl

/-- A text of characters is written like its bytes. -/
theorem replaceText_chars (tree : FileTree) (path : Path) (chars : List Char) :
    tree.replaceText path (chars.map .char) =
      ((tree.replaceFile path (Utf8.encode chars)).1.map .file,
        (tree.replaceFile path (Utf8.encode chars)).2) := by
  have encoded : Utf8.encodeStrict (chars.map .char) = .ok (Utf8.encode chars) :=
    Utf8.encodeStrict_eq_ok_iff.mpr ⟨chars, rfl, rfl⟩
  rw [replaceText, encoded]

theorem allOrNothing_chars (tree : FileTree) (path : Path) (chars : List Char) :
    AllOrNothing tree path (chars.map .char) (tree.replaceText path (chars.map .char)) := by
  rw [replaceText_chars]
  cases ended : tree.replaceFile path (Utf8.encode chars) with
  | mk problem after =>
      cases problem with
      | some problem =>
          exact allOrNothing_of_folders (by simp) (of_replaceFile_failed ended)
      | none =>
          obtain ⟨made, mode, name, replaced⟩ := of_replaceFile ended
          refine ⟨fun _ => ⟨chars, mode, rfl, replaced.find⟩, by simp, ?_, ?_, ?_⟩
          · intro place bytes own elsewhere
            have same : (tree.replaceFile path (Utf8.encode chars)).2.find place =
                .ok (file bytes own) ↔ tree.find place = .ok (file bytes own) :=
              find_file_replaceFile_iff elsewhere
            rwa [ended] at same
          · have keeps := keeps_replaceFile tree path (Utf8.encode chars)
            rwa [ended] at keeps
          · intro place found there
            rcases replaced.find_cases there with before | here | isNew
            · exact Or.inl before
            · exact Or.inr (Or.inl ⟨rfl, here⟩)
            · exact Or.inr (Or.inr isNew)

section Leaving

/-- A temporary file for a path can be made: the folders of the path can, its permissions
are known, and there is a name that is neither taken nor too long. -/
structure OpensTemporary (tree : FileTree) (path : Path) : Prop where
  folders : (tree.makeFolders path.parent).1 = none
  known : ∃ mode, (tree.makeFolders path.parent).2.modeAt path = .ok mode
  free : (tree.makeFolders path.parent).2.Lacks
    ((tree.makeFolders path.parent).2.temporaryPath path)

theorem OpensTemporary.noNull (opens : tree.OpensTemporary path) : path.holdsNull = false := by
  obtain ⟨mode, known⟩ := opens.known
  exact (of_modeAt_eq_ok known).1

theorem makeFile_of_lacks {place : Path} (free : tree.Lacks place) (bytes : List UInt8)
    (mode : Nat) :
    tree.makeFile place bytes mode = .ok (tree.put place.resolve.names (file bytes mode)) := by
  obtain ⟨fault, failed, fits⟩ := free
  unfold makeFile
  rw [failed]
  cases fault with
  | tooLong => exact absurd rfl fits
  | _ => rfl

theorem makeFile_of_error {place : Path} {bytes : List UInt8} {mode : Nat} {problem : FileError}
    (failed : tree.makeFile place bytes mode = .error problem) (others : List UInt8)
    (other : Nat) : tree.makeFile place others other = .error problem := by
  unfold makeFile at failed ⊢
  split at failed
  · exact failed
  · simp at failed
  · exact failed

/-- Either the temporary file is left, or the attempt ends with a failure of the file system
before there is one. -/
theorem leaveTemporary_cases (tree : FileTree) (path : Path) (error : Utf8.EncodeError) :
    tree.OpensTemporary path ∧
        tree.leaveTemporary path error = (some (.encoding error),
          (tree.makeFolders path.parent).2.put
            ((tree.makeFolders path.parent).2.temporaryPath path).resolve.names
            (file [] temporaryMode)) ∨
      ¬tree.OpensTemporary path ∧ ∃ problem,
        tree.leaveTemporary path error =
            (some (.file problem), (tree.makeFolders path.parent).2) ∧
          ∀ bytes, (tree.replaceFile path bytes).1 = some problem := by
  rw [leaveTemporary]
  cases ended : tree.makeFolders path.parent with
  | mk stopped made =>
      cases stopped with
      | some problem =>
          refine Or.inr ⟨fun opens => ?_, problem, rfl, fun bytes => by rw [replaceFile, ended]⟩
          simpa [ended] using opens.folders
      | none =>
          dsimp only
          cases known : made.modeAt path with
          | error problem =>
              refine Or.inr ⟨fun opens => ?_, problem, rfl, fun bytes => ?_⟩
              · simpa [ended, known] using opens.known
              · rw [replaceFile, ended]
                simp [known, bind, Except.bind]
          | ok mode =>
              cases stored : made.makeFile (made.temporaryPath path) [] temporaryMode with
              | error problem =>
                  refine Or.inr ⟨fun opens => ?_, problem, by simp [bind, Except.bind],
                    fun bytes => ?_⟩
                  · have free := opens.free
                    rw [ended] at free
                    simp [makeFile_of_lacks free] at stored
                  · rw [replaceFile, ended]
                    simp [known, bind, Except.bind, makeFile_of_error stored]
              | ok left =>
                  obtain ⟨free, rfl⟩ := of_makeFile_eq_ok stored
                  refine Or.inl ⟨⟨by rw [ended], ⟨mode, by rw [ended]; exact known⟩,
                    by rw [ended]; exact free⟩, by simp [bind, Except.bind]⟩

theorem exists_parent_folder (top : tree.isFolder = true)
    (made : (tree.makeFolders path.parent).1 = none) :
    ∃ mode entries, (tree.makeFolders path.parent).2.find path.parent.resolve.names =
      .ok (folder mode entries) := by
  by_cases atTop : path.parent.names = []
  · have same : (tree.makeFolders path.parent).2 = tree := by
      simp [makeFolders, atTop, makeFoldersUp]
    rw [same, Path.resolve, atTop]
    cases tree with
    | file bytes mode => simp [isFolder] at top
    | folder mode entries => exact ⟨mode, entries, rfl⟩
  · obtain ⟨mode, entries, reached⟩ := (of_makeFolders (Prod.ext made rfl)).2 rfl atTop
    exact ⟨mode, entries, find_of_reach reached⟩

/-- A new file is left beside a path: it is empty, and it is the only one that was not there
before, while everything that was there still is. -/
structure LeavesTemporary (tree : FileTree) (path : Path) (name : String) (after : FileTree) :
    Prop where
  absent : ∀ found, tree.find (path.parent.resolve.names ++ [name]) ≠ .ok found
  left : after.find (path.parent.resolve.names ++ [name]) = .ok (file [] temporaryMode)
  kept : KeepsAll tree after
  only : ∀ place bytes mode, after.find place = .ok (file bytes mode) →
    tree.find place = .ok (file bytes mode) ∨ place = path.parent.resolve.names ++ [name]

theorem OpensTemporary.leavesTemporary (opens : tree.OpensTemporary path)
    (top : tree.isFolder = true) :
    ∃ name, LeavesTemporary tree path name ((tree.makeFolders path.parent).2.put
      ((tree.makeFolders path.parent).2.temporaryPath path).resolve.names
      (file [] temporaryMode)) := by
  have folders := makesFolders_makeFolders tree path.parent
  have keeps : KeepsAll tree (tree.makeFolders path.parent).2 := (of_makeFolders rfl).1
  obtain ⟨mode, entries, parent⟩ := exists_parent_folder top opens.folders
  have absent := absent_temporaryPath opens.noNull opens.free
  obtain ⟨name, place, fits, -⟩ := free_temporaryPath opens.noNull opens.free parent
  refine ⟨name, ?_, ?_, ?_, ?_⟩
  · intro found there
    obtain ⟨other, stays, -⟩ := keeps _ found not_false there
    rw [← place] at stays
    exact absent other stays
  · rw [place]
    exact find_put_child _ parent fits
  · exact keeps.trans (keepsAll_put _ absent)
  · intro other bytes own there
    rcases of_find_put_file there with before | ⟨rest, rfl, inNew⟩
    · exact Or.inl (folders.find_file before)
    · cases rest with
      | nil => exact Or.inr (by rw [List.append_nil, place])
      | cons first rest => simp [find] at inNew

theorem LeavesTemporary.not_allOrNothing {name : String}
    (leaves : LeavesTemporary tree path name outcome.2) (failed : outcome.1 ≠ none) :
    ¬AllOrNothing tree path text outcome := by
  intro whole
  exact leaves.absent _ ((whole.unwritten failed _ _ _).mp leaves.left)

end Leaving

/-- Replacing a file by any text is all or nothing unless it fails for want of an encoding.
It does so exactly if the text has none and a temporary file can be made, which is then left
behind.  It fails with a refusal, and not for what the file system says, exactly if the path
holds a null character and its folder does as well or can be made. -/
theorem replaceText_all_or_nothing_iff (top : tree.isFolder = true) (path : Path)
    (text : List Utf8.CodePoint) :
    (AllOrNothing tree path text (tree.replaceText path text) ↔
      ∀ error, (tree.replaceText path text).1 ≠ some (.encoding error)) ∧
    (∀ error, (tree.replaceText path text).1 = some (.encoding error) ↔
      Utf8.encodeStrict text = .error error ∧ tree.OpensTemporary path) ∧
    (∀ error, (tree.replaceText path text).1 = some (.encoding error) →
      ∃ name, LeavesTemporary tree path name (tree.replaceText path text).2) ∧
    ((∃ error, (tree.replaceText path text).1 = some (.file error) ∧ error.isRefusal = true) ↔
      path.holdsNull = true ∧
        (path.parent.holdsNull = true ∨ (tree.makeFolders path.parent).1 = none)) := by
  cases encoded : Utf8.encodeStrict text with
  | ok bytes =>
      obtain ⟨chars, rfl, rfl⟩ := Utf8.encodeStrict_eq_ok_iff.mp encoded
      have whole := allOrNothing_chars tree path chars
      rw [replaceText_chars] at whole ⊢
      refine ⟨iff_of_true whole (by simp), by simp, by simp, ?_⟩
      rw [← replaceFile_refused_iff tree path (Utf8.encode chars)]
      simp
  | error error =>
      have whole : tree.replaceText path text = tree.leaveTemporary path error := by
        rw [replaceText, encoded]
      rw [whole]
      rcases leaveTemporary_cases tree path error with ⟨opens, ended⟩ | ⟨shut, problem, ended, same⟩
      · obtain ⟨name, leaves⟩ := opens.leavesTemporary top
        rw [ended]
        refine ⟨iff_of_false (leaves.not_allOrNothing (by simp)) (by simp), ?_, fun _ _ =>
          ⟨name, leaves⟩, iff_of_false (by simp) (by simp [opens.noNull])⟩
        intro other
        simp [opens]
      · rw [ended]
        refine ⟨iff_of_true (allOrNothing_of_folders (by simp) rfl) (by simp), ?_, by simp, ?_⟩
        · intro other
          simp [shut]
        · rw [← replaceFile_refused_iff tree path [], same]
          simp

/-- A report with what was written to it before. -/
def reportTree : FileTree :=
  folder folderMode [("tmp", folder folderMode [("lint-report",
    folder folderMode [("eslint-report.txt", file [0x61] 0o640)])])]

def reportPlace : Path :=
  ⟨"/", ["tmp", "lint-report", "eslint-report.txt"]⟩

def surrogateText : List Utf8.CodePoint :=
  [.char 'a', .surrogate 0x4ff]

theorem replaceText_surrogateText :
    (reportTree.replaceText reportPlace surrogateText).1 =
      some (.encoding ⟨1, [0x4ff]⟩) := by
  decide +kernel

theorem replaceText_all_or_nothing_iff_reportTree :
    (∃ mode, (reportTree.replaceText reportPlace [.char 'b']).2.find reportPlace.resolve.names =
      .ok (file (Utf8.encode ['b']) mode)) ∧
    ¬AllOrNothing reportTree reportPlace surrogateText
        (reportTree.replaceText reportPlace surrogateText) ∧
    ∃ name, LeavesTemporary reportTree reportPlace name
      (reportTree.replaceText reportPlace surrogateText).2 := by
  have top : reportTree.isFolder = true := rfl
  have succeeds : (reportTree.replaceText reportPlace [.char 'b']).1 = none := by decide +kernel
  obtain ⟨whole, -⟩ := replaceText_all_or_nothing_iff top reportPlace [.char 'b']
  obtain ⟨part, -, leaves, -⟩ := replaceText_all_or_nothing_iff top reportPlace surrogateText
  refine ⟨?_, ?_, leaves _ replaceText_surrogateText⟩
  · obtain ⟨chars, mode, same, found⟩ := (whole.mpr (by simp [succeeds])).written succeeds
    obtain ⟨char, rest, rfl, isChar, isRest⟩ := List.map_eq_cons_iff.mp same.symm
    obtain rfl := Utf8.CodePoint.char.inj isChar
    obtain rfl := List.map_eq_nil_iff.mp isRest
    exact ⟨mode, found⟩
  · intro nothing
    exact part.mp nothing _ replaceText_surrogateText

/-- A path whose last name holds a null character. -/
def nullPath : Path :=
  ⟨"/", ["tmp", "lintsync", "lint-report", "a\x00b"]⟩

/-- A path with a null character in its name is refused, after its folder was made.  A text
with a surrogate leaves a temporary file behind. -/
theorem replaceText_fails_otherwise :
    (∃ error after,
      (folder folderMode [("tmp", folder folderMode [("lintsync", emptyFolder)])]).replaceText
          nullPath [] = (some (.file error), after) ∧
        error.isRefusal = true ∧ error.message = "embedded null byte" ∧
        after.find ["tmp", "lintsync", "lint-report"] = .ok emptyFolder) ∧
    ∃ error name,
      (reportTree.replaceText reportPlace surrogateText).1 = some (.encoding error) ∧
        error.message =
          "'utf-8' codec can't encode character '\\udcff' in position 1: surrogates not allowed" ∧
        LeavesTemporary reportTree reportPlace name
          (reportTree.replaceText reportPlace surrogateText).2 := by
  refine ⟨⟨_, _, rfl, rfl, rfl, rfl⟩, ⟨1, [0x4ff]⟩, ?_⟩
  have failed := replaceText_surrogateText
  have whole : reportTree.replaceText reportPlace surrogateText =
      reportTree.leaveTemporary reportPlace ⟨1, [0x4ff]⟩ := rfl
  rw [whole] at failed ⊢
  rcases leaveTemporary_cases reportTree reportPlace ⟨1, [0x4ff]⟩ with
    ⟨opens, ended⟩ | ⟨-, problem, ended, -⟩
  · obtain ⟨name, leaves⟩ := opens.leavesTemporary rfl
    rw [ended]
    exact ⟨name, rfl, by decide +kernel, leaves⟩
  · simp [ended] at failed

end FileTree

end ScriptLint
