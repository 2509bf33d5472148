import ScriptLint.Proofs.Files.Folders
import ScriptLint.Proofs.Files.Outline
import ScriptLint.Proofs.Files.Refusal
import ScriptLint.Proofs.Files.Replace

/-!
# Files before and after a change

Making folders makes no file, and of a temporary file that was moved or erased nothing is
left.  So replacing a file changes, makes and removes no other file, and a file that cannot
be replaced is as it was.
-/

namespace ScriptLint

namespace FileTree

variable {names place : List String} {tree changed made new : FileTree} {path : Path}
  {bytes : List UInt8} {mode : Nat}

section Changing

theorem find_emptyFolder_ne_file : find place emptyFolder ≠ .ok (file bytes mode) := by
  cases place with
  | nil => simp [find, emptyFolder]
  | cons name rest => exact find_cons_emptyFolder name rest _

/-- A file that is found after something was put into a tree was there before or is part
of what was put. -/
theorem of_find_put_file (there : find place (put tree names new) = .ok (file bytes mode)) :
    find place tree = .ok (file bytes mode) ∨
      ∃ rest, place = names ++ rest ∧ find rest new = .ok (file bytes mode) := by
  induction names generalizing tree place with
  | nil =>
      rw [put] at there
      exact Or.inr ⟨place, rfl, there⟩
  | cons name rest induction =>
      cases tree with
      | file own ownMode => exact Or.inl there
      | folder own entries =>
          cases place with
          | nil => simp [put, find] at there
          | cons first others =>
              obtain ⟨fits, below, held, onward⟩ := find_cons_folder_eq_ok_iff.mp there
              rw [getNamed?_putNamed] at held
              by_cases same : name = first
              · subst same
                rw [if_pos rfl] at held
                obtain rfl := Option.some.inj held
                rcases induction onward with before | ⟨last, rfl, inNew⟩
                · -- A folder that was made on the way holds no file.
                  cases present : getNamed? entries name with
                  | none =>
                      rw [present] at before
                      exact absurd before find_emptyFolder_ne_file
                  | some inside =>
                      rw [present] at before
                      exact Or.inl (find_cons_folder_eq_ok_iff.mpr
                        ⟨fits, inside, present, before⟩)
                · exact Or.inr ⟨last, rfl, inNew⟩
              · rw [if_neg same] at held
                exact Or.inl (find_cons_folder_eq_ok_iff.mpr ⟨fits, below, held, onward⟩)

theorem find_file_put_iff {content : List UInt8} {contentMode : Nat}
    (noFolder : ∀ mode entries, find names tree ≠ .ok (folder mode entries))
    (elsewhere : place ≠ names) :
    find place (put tree names (file content contentMode)) = .ok (file bytes mode) ↔
      find place tree = .ok (file bytes mode) := by
  constructor
  · intro there
    rcases of_find_put_file there with before | ⟨rest, rfl, inNew⟩
    · exact before
    · cases rest with
      | nil => exact absurd (List.append_nil _) elsewhere
      | cons name rest => simp [find] at inNew
  · intro before
    exact (keeps_put _ noFolder).file elsewhere before

end Changing

section Replacing

theorem MakesFolders.find_file {allowed : List String → Prop}
    (makes : MakesFolders allowed tree made) (there : find place made = .ok (file bytes mode)) :
    find place tree = .ok (file bytes mode) := by
  rcases makes.find_cases there with ⟨before, wasThere, same⟩ | ⟨-, isFolder⟩
  · cases same with
    | file => exact wasThere
  · simp [FileTree.isFolder] at isFolder

theorem of_find_replaceFile {content : List UInt8}
    (there : find place (tree.replaceFile path content).2 = .ok (file bytes mode)) :
    find place tree = .ok (file bytes mode) ∨ place = path.resolve.names := by
  have folders := makesFolders_makeFolders tree path.parent
  cases ended : tree.replaceFile path content with
  | mk error after =>
      rw [ended] at there
      cases error with
      | some error =>
          rw [of_replaceFile_failed ended] at there
          exact Or.inl (folders.find_file there)
      | none =>
          obtain ⟨made, own, name, replaced⟩ := of_replaceFile ended
          rw [replaced.folders] at folders
          rw [replaced.written] at there
          rcases of_find_put_file there with before | ⟨rest, rfl, inNew⟩
          · exact Or.inl (folders.find_file before)
          · cases rest with
            | nil => exact Or.inr (List.append_nil _)
            | cons name rest => simp [find] at inNew

/-- Replacing a file leaves all other files as they are. -/
theorem find_file_replaceFile_iff {content : List UInt8}
    (elsewhere : place ≠ path.resolve.names) :
    find place (tree.replaceFile path content).2 = .ok (file bytes mode) ↔
      find place tree = .ok (file bytes mode) := by
  constructor
  · intro there
    exact (of_find_replaceFile there).resolve_right elsewhere
  · intro before
    exact (keeps_replaceFile tree path content).file elsewhere before

end Replacing

section Again

theorem replaceFile_of_made (folders : tree.makeFolders path.parent = (none, made))
    (bytes : List UInt8) : made.replaceFile path bytes = tree.replaceFile path bytes := by
  obtain ⟨again, same, succeeds⟩ := makeFolders_again tree path.parent
  rw [folders] at same succeeds
  obtain rfl := succeeds.mpr rfl
  rw [replaceFile, replaceFile, folders, same]

theorem Keeps.reachFrom_folder {apart : List String → Prop} {above : List String}
    {entries : List (String × FileTree)} (keeps : Keeps apart tree changed)
    (noFolder : ∀ place mode entries, apart place → tree.find place ≠ .ok (folder mode entries))
    (reached : tree.reachFrom above names = .ok (folder mode entries)) :
    ∃ others, changed.reachFrom above names = .ok (folder mode others) := by
  have stays : ∀ place mode entries, tree.find place = .ok (folder mode entries) →
      ∃ others, changed.find place = .ok (folder mode others) := by
    intro place mode entries there
    obtain ⟨other, found, same⟩ :=
      keeps place _ (fun excepted => noFolder place mode entries excepted there) there
    cases same with
    | folder _ _ others => exact ⟨others, found⟩
  fun_induction FileTree.reachFrom tree above names with
  | case1 above => exact stays _ _ _ reached
  | case2 above names fault failed => simp at reached
  | case3 above names held own atFile => simp at reached
  | case4 above names own held atFolder induction =>
      obtain ⟨others, found⟩ := stays _ _ _ atFolder
      rw [FileTree.reachFrom, if_pos rfl, found]
      exact induction reached
  | case5 above name names ordinary induction =>
      rw [FileTree.reachFrom, if_neg ordinary]
      exact induction reached

section Replaced

variable {after : FileTree} {name : String}
  (replaced : Replaced tree path bytes made after mode name)

include replaced

/-- A file that was replaced lies in the folders that were made for it. -/
theorem Replaced.makeFolders : after.makeFolders path.parent = (none, after) := by
  by_cases top : path.parent.names = []
  · simp [FileTree.makeFolders, top, makeFoldersUp]
  · obtain ⟨own, entries, reached⟩ := (of_makeFolders replaced.folders).2 rfl top
    obtain ⟨noNull, short, onward⟩ := reach_eq_ok_iff.mp reached
    have keeps : Keeps (· = path.resolve.names) made after := by
      rw [replaced.written]
      exact keeps_put _ replaced.noFolder
    obtain ⟨others, there⟩ := keeps.reachFrom_folder
      (fun place own entries here => here ▸ replaced.noFolder own entries) onward
    apply makeFoldersUp_of_folder
    rw [List.reverse_reverse]
    exact reach_eq_ok_iff.mpr ⟨noNull, short, there⟩

/-- A file that was replaced is found with the permissions that it was given. -/
theorem Replaced.modeAt {other : Nat} (known : after.modeAt path = .ok other) :
    other = mode := by
  obtain ⟨noNull, short⟩ := of_modeAt_eq_ok known
  obtain ⟨below, parent⟩ := reachFrom_of_makeFoldersUp replaced.makeFolders
  rw [List.reverse_reverse] at parent
  rw [FileTree.modeAt, reach_of_endsInName noNull short replaced.named parent,
    replaced.find] at known
  exact (Except.ok.inj known).symm

end Replaced

/-- Replacing a file with the same bytes once more changes nothing. -/
theorem replaceFile_again (tree : FileTree) (path : Path) (bytes : List UInt8) :
    ((tree.replaceFile path bytes).2.replaceFile path bytes).2 =
      (tree.replaceFile path bytes).2 := by
  cases ended : tree.replaceFile path bytes with
  | mk error after =>
      dsimp only
      cases error with
      | some error =>
          obtain rfl := of_replaceFile_failed ended
          obtain ⟨again, same, succeeds⟩ := makeFolders_again tree path.parent
          cases again with
          | none =>
              have folders : tree.makeFolders path.parent =
                  (none, (tree.makeFolders path.parent).2) := Prod.ext (succeeds.mp rfl) rfl
              rw [replaceFile_of_made folders, ended]
          | some again => rw [replaceFile, same]
      | none =>
          obtain ⟨made, mode, name, replaced⟩ := of_replaceFile ended
          cases endedAgain : after.replaceFile path bytes with
          | mk again last =>
              cases again with
              | some again => rw [of_replaceFile_failed endedAgain, replaced.makeFolders]
              | none =>
                  obtain ⟨madeAgain, own, _, second⟩ := of_replaceFile endedAgain
                  have folders := second.folders.symm.trans replaced.makeFolders
                  obtain rfl : madeAgain = after := (Prod.mk.inj folders).2
                  obtain rfl := replaced.modeAt second.known
                  rw [second.written]
                  exact put_of_find replaced.find

end Again

end FileTree

end ScriptLint
