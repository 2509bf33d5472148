import ScriptLint.Ignore.Load
import ScriptLint.Proofs.Files.Outline
import ScriptLint.Proofs.Files.Refusal

/-!
# Loading ignore rules

Without an ignore file there is one pattern.  An ignore file that can be read is
refused exactly if one of its lines is.
-/

namespace ScriptLint

/-- The pattern that every ignore file starts with: all that lies below folders of
installed packages. -/
def IgnorePattern.packages : IgnorePattern :=
  ⟨false, .parts (.leading :: "node_modules".toList.map .char ++ [.below true])⟩

theorem IgnorePattern.ofLine_packages :
    ofLine "node_modules/".toList = .ok (some packages) := by
  have name : segmentParts "node_modules".toList =
      .ok ("node_modules".toList.map .char) := by
    simp [segmentParts, Except.map]
  have parts : partsOf true [['*', '*'], "node_modules".toList, ['*', '*']] =
      .ok (.leading :: "node_modules".toList.map .char ++ [.below true]) := by
    have named : "node_modules".toList ≠ ['*', '*'] := by decide
    have notStar : "node_modules".toList ≠ ['*'] := by decide
    simp only [partsOf, partsAfter, anySegments, if_true, if_neg named, wholeSegment,
      if_neg notStar, name]
    rfl
  have shape : shapeOf true [['*', '*'], "node_modules".toList, ['*', '*']] =
      .ok packages.shape := by
    change (partsOf true [['*', '*'], "node_modules".toList, ['*', '*']]).map _ = _
    rw [parts]
    rfl
  have cut : ofLine "node_modules/".toList =
      ofSegments "node_modules/".toList false ["node_modules".toList, []] := rfl
  have segments : mergeStars (openLast (anchorSegments ["node_modules".toList, []])) =
      [['*', '*'], "node_modules".toList, ['*', '*']] := rfl
  have folder : ["node_modules".toList, []].getLast?.any List.isEmpty = true := rfl
  rw [cut, ofSegments, if_neg (by decide), folder, segments, shape]
  rfl

theorem IgnorePattern.ofLines_defaultLines :
    ofLines IgnoreRules.defaultLines = .ok [packages] := by
  rw [IgnoreRules.defaultLines, ofLines, ofLine_packages]
  rfl

theorem IgnoreRules.ofText_none (root : Path) :
    ofText root none = .ok ⟨root, [.packages]⟩ := by
  unfold ofText
  dsimp only
  rw [Option.map_none, Option.getD_none, List.append_nil,
    IgnorePattern.ofLines_defaultLines]
  rfl

theorem IgnorePattern.ofLines_fails_iff {lines : List (List Char)} :
    (∃ error, ofLines lines = .error error) ↔
      ∃ line ∈ lines, ∃ error, ofLine line = .error error := by
  induction lines with
  | nil => simp [ofLines]
  | cons line rest induction =>
      rw [ofLines, List.exists_mem_cons_iff, ← induction]
      cases ofLine line with
      | error error => simp [bind, Except.bind]
      | ok pattern =>
          cases ofLines rest with
          | error error => simp [bind, Except.bind]
          | ok patterns => simp [bind, Except.bind]

theorem IgnoreRules.ofText_some_fails_iff (root : Path) {text : List Char} :
    (∃ error, ofText root (some text) = .error error) ↔
      ∃ line ∈ Text.boundaryLines text, ∃ error,
        IgnorePattern.ofLine line = .error error := by
  have default : ¬∃ line ∈ defaultLines, ∃ error,
      IgnorePattern.ofLine line = .error error := by
    rw [← IgnorePattern.ofLines_fails_iff, IgnorePattern.ofLines_defaultLines]
    simp
  have lines : (∃ error, ofText root (some text) = .error error) ↔
      ∃ error, IgnorePattern.ofLines (defaultLines ++ Text.boundaryLines text) =
        .error error := by
    unfold ofText
    dsimp only
    rw [Option.map_some, Option.getD_some]
    cases IgnorePattern.ofLines (defaultLines ++ Text.boundaryLines text) with
    | error error => simp [Except.map]
    | ok patterns => simp [Except.map]
  rw [lines, IgnorePattern.ofLines_fails_iff]
  constructor
  · rintro ⟨line, member, refused⟩
    rcases List.mem_append.mp member with isDefault | own
    · exact absurd ⟨line, isDefault, refused⟩ default
    · exact ⟨line, own, refused⟩
  · rintro ⟨line, own, refused⟩
    exact ⟨line, List.mem_append_right _ own, refused⟩

namespace FileTree

variable {files : FileTree} {path : Path}

theorem readTextIfFile_eq (files : FileTree) (path : Path) :
    files.readTextIfFile path =
      match files.reach path with
      | .ok (file _ _) => (files.readText path).map some
      | .error .tooLong => .error (.file ⟨.tooLong, path.toString, none⟩)
      | _ => .ok none := by
  unfold readTextIfFile hasFile get?
  cases files.reach path with
  | ok found =>
      cases found with
      | file bytes mode => rfl
      | folder mode entries => rfl
  | error fault => cases fault <;> rfl

theorem readTextIfFile_congr {changed : FileTree} (same : changed.outline = files.outline)
    (kept : ∀ bytes mode, files.find path.resolve.names = .ok (file bytes mode) →
      changed.find path.resolve.names = .ok (file bytes mode)) :
    changed.readTextIfFile path = files.readTextIfFile path := by
  rw [readTextIfFile_eq, readTextIfFile_eq, readText_congr same kept]
  rcases reach_cases same kept with ⟨fault, before, after⟩ | ⟨bytes, mode, before, after⟩ |
    ⟨mode, entries, others, before, after⟩
  · rw [before, after]
  · rw [before, after]
  · rw [before, after]

theorem readTextIfFile_eq_some_iff {text : List Char} :
    files.readTextIfFile path = .ok (some text) ↔ files.readText path = .ok text := by
  rw [readTextIfFile_eq]
  constructor
  · intro found
    split at found
    · cases read : files.readText path with
      | error error => simp [read, Except.map] at found
      | ok own => simpa [read, Except.map] using found
    · simp at found
    · simp at found
  · intro read
    obtain ⟨bytes, mode, raw, reached, -, -⟩ := readText_eq_ok_iff.mp read
    rw [reached]
    dsimp only
    rw [read]
    rfl

theorem isRefusal_of_readTextIfFile {error : ReadError}
    (failed : files.readTextIfFile path = .error error) : error.isRefusal = false := by
  rw [readTextIfFile_eq] at failed
  split at failed
  · rename_i bytes mode reached
    cases read : files.readText path with
    | ok text => simp [read, Except.map] at failed
    | error own =>
        obtain rfl : own = error := by simpa [read, Except.map] using failed
        exact (isRefusal_of_readText read).trans (reach_eq_ok_iff.mp reached).1
  · obtain rfl := Except.error.inj failed
    rfl
  · simp at failed

end FileTree

namespace IgnoreRules

variable {files : FileTree} {root : Path} {name : String}

theorem load_of_absent
    (absent : files.readTextIfFile (root.join (Path.ofString name)) = .ok none) :
    load files root name = .ok ⟨root, [.packages]⟩ := by
  rw [load, absent]
  dsimp only
  rw [ofText_none]
  rfl

theorem load_refused_iff :
    (∃ error, load files root name = .error (.pattern error)) ↔
      ∃ text, files.readText (root.join (Path.ofString name)) = .ok text ∧
        ∃ line ∈ Text.boundaryLines text, ∃ error,
          IgnorePattern.ofLine line = .error error := by
  simp only [← FileTree.readTextIfFile_eq_some_iff, load]
  cases files.readTextIfFile (root.join (Path.ofString name)) with
  | error error => simp
  | ok text =>
      cases text with
      | none => simp [ofText_none, Except.mapError]
      | some text =>
          simp only [Except.ok.injEq, Option.some.injEq, exists_eq_left',
            ← ofText_some_fails_iff root]
          cases ofText root (some text) with
          | error error => simp [Except.mapError]
          | ok rules => simp [Except.mapError]

theorem isRefusal_of_load {error : ReadError}
    (failed : load files root name = .error (.read error)) : error.isRefusal = false := by
  unfold load at failed
  split at failed
  · rename_i own unread
    obtain rfl : own = error := by simpa using failed
    exact FileTree.isRefusal_of_readTextIfFile unread
  · rename_i text _
    cases read : ofText root text with
    | error own => simp [read, Except.mapError] at failed
    | ok rules => simp [read, Except.mapError] at failed

end IgnoreRules

end ScriptLint
