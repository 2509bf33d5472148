import Mathlib.Data.List.Induction
import ScriptLint.Proofs.Files.Contents
import ScriptLint.Proofs.Ignore

/-!
# Paths beside a replaced file

A path with double dots comes through more folders than its place lies in, so a folder that
is made may let it lead where it did not lead before.  A path that goes straight on from the
new folders leads to the same file after another one was replaced.
-/

namespace ScriptLint

section Passing

variable {names upper : List String}

theorem Path.resolveNames_concat (names : List String) (name : String) :
    Path.resolveNames (names ++ [name]) =
      if name = ".." then (Path.resolveNames names).dropLast
      else Path.resolveNames names ++ [name] := by
  simp only [Path.resolveNames, List.foldl_append, List.foldl_cons, List.foldl_nil, Path.pushName]
  split
  · rw [List.dropLast_reverse]
  · rw [List.reverse_cons]

/-- What lies above a place that names come to is passed by them. -/
theorem Path.exists_prefix_of_prefix (leads : upper <+: Path.resolveNames names) :
    ∃ part, part <+: names ∧ upper = Path.resolveNames part := by
  induction names using List.reverseRecOn with
  | nil =>
      obtain rfl := List.prefix_nil.mp leads
      exact ⟨[], List.prefix_refl [], rfl⟩
  | append_singleton init last induction =>
      have extend : upper <+: Path.resolveNames init →
          ∃ part, part <+: init ++ [last] ∧ upper = Path.resolveNames part := by
        intro inside
        obtain ⟨part, start, same⟩ := induction inside
        exact ⟨part, start.trans (List.prefix_append init [last]), same⟩
      rw [Path.resolveNames_concat] at leads
      split at leads
      · exact extend (leads.trans (List.dropLast_prefix _))
      · rename_i ordinary
        rcases List.prefix_concat_iff.mp leads with whole | inside
        · refine ⟨init ++ [last], List.prefix_refl _, ?_⟩
          rw [Path.resolveNames_concat, if_neg ordinary, whole]
        · exact extend inside

theorem Path.resolveNames_append (names : List String) {rest : List String}
    (ordinary : ∀ name ∈ rest, name ≠ "..") :
    Path.resolveNames (names ++ rest) = Path.resolveNames names ++ rest := by
  rw [Path.resolveNames, List.foldl_append, Path.foldl_pushName_of_ordinary ordinary,
    List.reverse_append, List.reverse_reverse]
  rfl

end Passing

namespace FileTree

/-- Two answers are of one kind for a path that goes on: both are folders or neither is, and
both are too long or neither is. -/
structure SameWay (left right : Except FileFault FileTree) : Prop where
  folder : (∃ mode entries, left = .ok (folder mode entries)) ↔
    ∃ mode entries, right = .ok (.folder mode entries)
  tooLong : left = .error .tooLong ↔ right = .error .tooLong

/-- Two answers are of one kind for a path that ends: both are the same file or neither is
a file, and both are too long or neither is. -/
structure SameText (left right : Except FileFault FileTree) : Prop where
  file : ∀ bytes mode, left = .ok (file bytes mode) ↔ right = .ok (.file bytes mode)
  tooLong : left = .error .tooLong ↔ right = .error .tooLong

theorem SameText.refl (answer : Except FileFault FileTree) : SameText answer answer :=
  ⟨fun _ _ => Iff.rfl, Iff.rfl⟩

theorem SameText.trans {first second third : Except FileFault FileTree}
    (left : SameText first second) (right : SameText second third) : SameText first third :=
  ⟨fun bytes mode => (left.file bytes mode).trans (right.file bytes mode),
    left.tooLong.trans right.tooLong⟩

variable {tree changed made : FileTree} {path : Path} {place above : List String} {name : String}

section Reaching

theorem reachFrom_back_of_noFolder (rest : List String)
    (noFolder : ¬∃ mode entries, tree.find above.reverse = .ok (folder mode entries)) :
    ∃ fault, tree.reachFrom above (".." :: rest) = .error fault ∧
      (fault = .tooLong ↔ tree.find above.reverse = .error .tooLong) := by
  rw [reachFrom, if_pos rfl]
  cases answer : tree.find above.reverse with
  | error fault => exact ⟨fault, rfl, by simp⟩
  | ok found =>
      cases found with
      | file bytes mode => exact ⟨.notFolder, rfl, by simp⟩
      | folder mode entries => exact absurd ⟨mode, entries, answer⟩ noFolder

/-- Names lead to the same file if the answers before each way back and at the end are of one
kind. -/
theorem sameText_reachFrom {names : List String}
    (ways : ∀ part, part ++ [".."] <+: names →
      SameWay (tree.find (part.foldl Path.pushName above).reverse)
        (changed.find (part.foldl Path.pushName above).reverse))
    (last : SameText (tree.find (names.foldl Path.pushName above).reverse)
      (changed.find (names.foldl Path.pushName above).reverse)) :
    SameText (tree.reachFrom above names) (changed.reachFrom above names) := by
  induction names generalizing above with
  | nil => exact last
  | cons name rest induction =>
      have onward : SameText (tree.reachFrom (Path.pushName above name) rest)
          (changed.reachFrom (Path.pushName above name) rest) := by
        apply induction _ last
        intro part start
        exact ways (name :: part) (by simpa using start)
      by_cases back : name = ".."
      · subst back
        have here : SameWay (tree.find above.reverse) (changed.find above.reverse) :=
          ways [] (by simp)
        by_cases isFolder : ∃ mode entries, tree.find above.reverse = .ok (folder mode entries)
        · obtain ⟨mode, entries, there⟩ := isFolder
          obtain ⟨own, others, found⟩ := here.folder.mp ⟨mode, entries, there⟩
          rw [reachFrom, reachFrom, if_pos rfl, if_pos rfl, there, found]
          simpa [Path.pushName] using onward
        · obtain ⟨fault, failed, long⟩ := reachFrom_back_of_noFolder rest isFolder
          obtain ⟨other, failedToo, longToo⟩ := reachFrom_back_of_noFolder rest
            (fun isFolderToo => isFolder (here.folder.mpr isFolderToo))
          rw [failed, failedToo]
          refine ⟨by simp, ?_⟩
          rw [Except.error.injEq, Except.error.injEq, long, longToo, here.tooLong]
      · rw [reachFrom, reachFrom, if_neg back, if_neg back]
        simpa [Path.pushName, back] using onward

theorem sameText_reach
    (ways : ∀ part, part ++ [".."] <+: path.names →
      SameWay (tree.find (Path.resolveNames part)) (changed.find (Path.resolveNames part)))
    (last : SameText (tree.find path.resolve.names) (changed.find path.resolve.names)) :
    SameText (tree.reach path) (changed.reach path) := by
  rw [reach, reach]
  split
  · exact .refl _
  · split
    · exact .refl _
    · exact sameText_reachFrom ways last

theorem readTextIfFile_of_noFile
    (noFile : ∀ bytes mode, tree.reach path ≠ .ok (file bytes mode))
    (fits : tree.reach path ≠ .error .tooLong) : tree.readTextIfFile path = .ok none := by
  rw [readTextIfFile_eq]
  split
  · rename_i bytes mode reached
    exact absurd reached (noFile bytes mode)
  · rename_i tooLong
    exact absurd tooLong fits
  · rfl

/-- A text is read by what its path leads to. -/
theorem readTextIfFile_of_sameText (same : SameText (tree.reach path) (changed.reach path)) :
    changed.readTextIfFile path = tree.readTextIfFile path := by
  by_cases isFile : ∃ bytes mode, tree.reach path = .ok (file bytes mode)
  · obtain ⟨bytes, mode, before⟩ := isFile
    have after := (same.file bytes mode).mp before
    rw [readTextIfFile_eq, readTextIfFile_eq, readText, readText, readBytes, readBytes, get, get,
      before, after]
  · by_cases tooLong : tree.reach path = .error .tooLong
    · rw [readTextIfFile_eq, readTextIfFile_eq, tooLong, same.tooLong.mp tooLong]
    · have noFile : ∀ bytes mode, tree.reach path ≠ .ok (file bytes mode) :=
        fun bytes mode there => isFile ⟨bytes, mode, there⟩
      rw [readTextIfFile_of_noFile noFile tooLong]
      apply readTextIfFile_of_noFile
      · intro bytes mode there
        exact noFile bytes mode ((same.file bytes mode).mpr there)
      · intro long
        exact tooLong (same.tooLong.mpr long)

end Reaching

section Putting

variable {mode : Nat} {entries : List (String × FileTree)}

/-- What does not lie at the place of a new tree or below is found as before, or is a folder
above it. -/
theorem find_put_cases (there : find above tree = .ok (folder mode entries)) (new : FileTree)
    (aside : ¬ above ++ [name] <+: place) :
    find place (put tree (above ++ [name]) new) = find place tree ∨
      ∃ own held others, find place tree = .ok (folder own held) ∧
        find place (put tree (above ++ [name]) new) = .ok (folder own others) := by
  by_cases leads : place <+: above ++ [name]
  · have inside : place <+: above := by
      rcases List.prefix_concat_iff.mp leads with whole | inside
      · exact absurd (whole ▸ List.prefix_refl _) aside
      · exact inside
    have isFolder : ∃ own held, find place tree = .ok (folder own held) := by
      by_cases here : place = above
      · exact ⟨mode, entries, here ▸ there⟩
      · exact exists_folder_of_prefix there inside here
    obtain ⟨own, held, before⟩ := isFolder
    obtain ⟨other, after, same⟩ := find_put_apart new before aside
    cases same with
    | folder _ _ others => exact Or.inr ⟨own, held, others, before, after⟩
  · exact Or.inl (find_put_aside new there aside leads)

theorem sameWay_put (there : find above tree = .ok (folder mode entries)) (new : FileTree)
    (aside : ¬ above ++ [name] <+: place) :
    SameWay (find place tree) (find place (put tree (above ++ [name]) new)) := by
  rcases find_put_cases there new aside with same | ⟨own, held, others, before, after⟩
  · rw [same]
    exact ⟨Iff.rfl, Iff.rfl⟩
  · rw [before, after]
    exact ⟨by simp, by simp⟩

theorem sameText_put (there : find above tree = .ok (folder mode entries)) (new : FileTree)
    (aside : ¬ above ++ [name] <+: place) :
    SameText (find place tree) (find place (put tree (above ++ [name]) new)) := by
  rcases find_put_cases there new aside with same | ⟨own, held, others, before, after⟩
  · rw [same]
    exact .refl _
  · rw [before, after]
    exact ⟨by simp, by simp⟩

/-- Names that lead on, without a way back and each short enough. -/
def LeadOn (names : List String) : Prop :=
  ∀ name ∈ names, name ≠ ".." ∧ ¬ nameLimit < name.utf8ByteSize

theorem sameText_put_emptyFolder (there : find above tree = .ok (folder mode entries))
    (fits : ¬ nameLimit < name.utf8ByteSize) (absent : getNamed? entries name = none)
    {rest : List String} (straight : LeadOn rest) :
    SameText (find (above ++ [name] ++ rest) tree)
      (find (above ++ [name] ++ rest) (put tree (above ++ [name]) emptyFolder)) := by
  rw [find_append rest (find_put_child _ there fits), List.append_assoc, find_append _ there,
    List.singleton_append, find, if_neg fits, absent]
  cases rest with
  | nil => exact ⟨by simp [find, emptyFolder], by simp [find]⟩
  | cons next rest =>
      rw [emptyFolder, find, if_neg (straight next List.mem_cons_self).2]
      exact .refl _

theorem noWay_of_noFolder (there : find above tree = .ok (folder mode entries))
    (fits : ¬ nameLimit < name.utf8ByteSize)
    (noFolder : ∀ mode entries, find (above ++ [name]) tree ≠ .ok (folder mode entries))
    (below : above ++ [name] <+: place) :
    (¬∃ mode entries, find place tree = .ok (folder mode entries)) ∧
      find place tree ≠ .error .tooLong := by
  obtain ⟨rest, rfl⟩ := below
  rw [List.append_assoc, find_append _ there, List.singleton_append, find, if_neg fits]
  cases held : getNamed? entries name with
  | none => simp
  | some found =>
      cases found with
      | file bytes own =>
          cases rest with
          | nil => simp [find]
          | cons next rest => simp [find]
      | folder own others =>
          refine absurd ?_ (noFolder own others)
          rw [find_append [name] there]
          exact find_cons_folder_eq_ok_iff.mpr ⟨fits, _, held, rfl⟩

theorem sameWay_put_file (bytes : List UInt8) (own : Nat)
    (there : find above tree = .ok (folder mode entries))
    (fits : ¬ nameLimit < name.utf8ByteSize)
    (noFolder : ∀ mode entries, find (above ++ [name]) tree ≠ .ok (folder mode entries))
    (place : List String) :
    SameWay (find place tree) (find place (put tree (above ++ [name]) (file bytes own))) := by
  by_cases below : above ++ [name] <+: place
  · have apart : ¬ above ++ [name] <+: above := by
      intro leads
      have longer := leads.length_le
      rw [List.length_append, List.length_singleton] at longer
      omega
    obtain ⟨other, thereToo, same⟩ := find_put_apart (file bytes own) there apart
    cases same with
    | folder _ _ others =>
        have noFolderToo : ∀ mode entries,
            find (above ++ [name]) (put tree (above ++ [name]) (file bytes own)) ≠
              .ok (folder mode entries) := by
          intro mode entries
          rw [find_put_child _ there fits]
          simp
        obtain ⟨before, short⟩ := noWay_of_noFolder there fits noFolder below
        obtain ⟨after, shortToo⟩ := noWay_of_noFolder thereToo fits noFolderToo below
        exact ⟨iff_of_false before after, iff_of_false short shortToo⟩
  · exact sameWay_put there _ below

end Putting

section Replacing

variable {report : Path} {bytes : List UInt8}

theorem MakesFolders.sameText_reach {allowed : List String → Prop}
    (makes : MakesFolders allowed tree made)
    (straight : ∀ part rest, path.names = part ++ rest → allowed (Path.resolveNames part) →
      LeadOn rest) :
    SameText (tree.reach path) (made.reach path) := by
  induction makes with
  | done tree => exact .refl _
  | @make tree made above name mode entries there fits absent suits _ induction =>
      refine .trans (FileTree.sameText_reach (fun part start => ?_) ?_) induction
      · -- A way back after the new folder was passed is none that leads straight on.
        refine sameWay_put there emptyFolder fun leads => ?_
        obtain ⟨shorter, ⟨between, rfl⟩, same⟩ := Path.exists_prefix_of_prefix leads
        obtain ⟨rest, whole⟩ := start
        rw [List.append_assoc, List.append_assoc] at whole
        exact (straight shorter _ whole.symm (same ▸ suits) ".." (by simp)).1 rfl
      · by_cases leads : above ++ [name] <+: path.resolve.names
        · obtain ⟨part, ⟨rest, whole⟩, same⟩ := Path.exists_prefix_of_prefix leads
          have leadOn := straight part rest whole.symm (same ▸ suits)
          have place : path.resolve.names = above ++ [name] ++ rest := by
            rw [same, ← Path.resolveNames_append part fun name member => (leadOn name member).1,
              whole]
            rfl
          rw [place]
          exact sameText_put_emptyFolder there fits absent leadOn
        · exact sameText_put there emptyFolder leads

theorem Replaced.sameText_reach {after : FileTree} {mode : Nat}
    (replaced : Replaced tree report bytes made after mode name)
    (elsewhere : path.resolve.names ≠ report.resolve.names) :
    SameText (made.reach path) (after.reach path) := by
  obtain ⟨folderMode, entries, there⟩ := replaced.parent
  have noFolder := replaced.noFolder
  rw [replaced.place] at elsewhere noFolder
  rw [replaced.written, replaced.place]
  have ways := sameWay_put_file bytes mode there replaced.fits noFolder
  refine FileTree.sameText_reach (fun part _ => ways _) ⟨fun content own => ?_, ?_⟩
  · exact (find_file_put_iff noFolder elsewhere).symm
  · exact (ways path.resolve.names).tooLong

/-- From every place that another path comes through and that is not there, a path leads
straight on. -/
def LeadsStraight (tree : FileTree) (path other : Path) : Prop :=
  ∀ part rest, path.names = part ++ rest → other.Passes (Path.resolveNames part) →
    (∃ found, tree.find (Path.resolveNames part) = .ok found) ∨ LeadOn rest

/-- A text is read as before after another file was replaced, if its path leads straight on
from the folders that were made. -/
theorem readTextIfFile_replaceFile (straight : tree.LeadsStraight path report.parent)
    (elsewhere : path.resolve.names ≠ report.resolve.names) :
    (tree.replaceFile report bytes).2.readTextIfFile path = tree.readTextIfFile path := by
  have makes := (makesFolders_makeFolders tree report.parent).absent
  have sameMade : SameText (tree.reach path) ((tree.makeFolders report.parent).2.reach path) := by
    apply makes.sameText_reach
    rintro part rest whole ⟨passed, new⟩
    refine (straight part rest whole passed).resolve_left ?_
    rintro ⟨found, there⟩
    exact new found there
  apply readTextIfFile_of_sameText
  cases ended : tree.replaceFile report bytes with
  | mk error after =>
      cases error with
      | some error => rwa [of_replaceFile_failed ended]
      | none =>
          obtain ⟨made, mode, name, replaced⟩ := of_replaceFile ended
          rw [replaced.folders] at sameMade
          exact sameMade.trans (replaced.sameText_reach elsewhere)

end Replacing

end FileTree

end ScriptLint
