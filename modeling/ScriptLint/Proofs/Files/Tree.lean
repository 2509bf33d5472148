import Mathlib.Data.List.Basic
import ScriptLint.Files.Tree
import ScriptLint.Proofs.Named

/-!
# Places of file trees

What putting a tree at one place means for all other places.  A change
keeps a tree apart from some places if all other files have the same bytes and
permissions afterwards and all folders are still there.
-/

namespace ScriptLint.FileTree

theorem find_append {first : List String} {tree below : FileTree} (rest : List String)
    (there : find first tree = .ok below) :
    find (first ++ rest) tree = find rest below := by
  induction first generalizing tree with
  | nil =>
      obtain rfl : tree = below := by simpa [find] using there
      rfl
  | cons name first induction =>
      obtain ⟨mode, entries, middle, rfl, fits, held, onward⟩ :=
        find_cons_eq_ok_iff.mp there
      rw [List.cons_append, find, if_neg fits, held]
      exact induction onward

theorem find_append_eq_ok_iff {first rest : List String} {tree found : FileTree} :
    find (first ++ rest) tree = .ok found ↔
      ∃ below, find first tree = .ok below ∧ find rest below = .ok found := by
  constructor
  · intro there
    induction first generalizing tree with
    | nil => exact ⟨tree, rfl, there⟩
    | cons name first induction =>
        obtain ⟨mode, entries, middle, rfl, fits, held, onward⟩ :=
          find_cons_eq_ok_iff.mp there
        obtain ⟨below, atFirst, atRest⟩ := induction onward
        exact ⟨below, find_cons_eq_ok_iff.mpr
          ⟨mode, entries, middle, rfl, fits, held, atFirst⟩, atRest⟩
  · rintro ⟨below, atFirst, atRest⟩
    rw [find_append rest atFirst, atRest]

theorem exists_find_of_prefix {above place : List String} {tree found : FileTree}
    (there : find place tree = .ok found) (leads : above <+: place) :
    ∃ reached, find above tree = .ok reached := by
  obtain ⟨rest, rfl⟩ := leads
  obtain ⟨reached, atAbove, -⟩ := find_append_eq_ok_iff.mp there
  exact ⟨reached, atAbove⟩

theorem exists_folder_of_prefix {above place : List String} {tree found : FileTree}
    (there : find place tree = .ok found) (leads : above <+: place)
    (differ : above ≠ place) :
    ∃ mode entries, find above tree = .ok (folder mode entries) := by
  obtain ⟨rest, rfl⟩ := leads
  obtain ⟨reached, atAbove, onward⟩ := find_append_eq_ok_iff.mp there
  cases rest with
  | nil => simp at differ
  | cons name rest =>
      obtain ⟨mode, entries, -, rfl, -⟩ := find_cons_eq_ok_iff.mp onward
      exact ⟨mode, entries, atAbove⟩

theorem isFolder_of_find {place : List String} {tree : FileTree} {mode : Nat}
    {entries : List (String × FileTree)} (there : find place tree = .ok (folder mode entries)) :
    tree.isFolder = true := by
  cases place with
  | nil =>
      obtain rfl : tree = folder mode entries := by simpa [find] using there
      rfl
  | cons first rest =>
      obtain ⟨own, others, -, rfl, -⟩ := find_cons_eq_ok_iff.mp there
      rfl

section Putting

/-- A tree that replaces another is found in its place. -/
theorem find_put_self {names : List String} {tree old : FileTree} (new : FileTree)
    (there : find names tree = .ok old) : find names (put tree names new) = .ok new := by
  induction names generalizing tree with
  | nil => rfl
  | cons name rest induction =>
      obtain ⟨mode, entries, below, rfl, fits, held, onward⟩ :=
        find_cons_eq_ok_iff.mp there
      refine find_cons_eq_ok_iff.mpr ⟨mode, _, put below rest new, rfl, fits, ?_,
        induction onward⟩
      simp [getNamed?_putNamed, held]

theorem eq_of_find_put {names : List String} {tree new found : FileTree}
    (there : find names (put tree names new) = .ok found) : found = new := by
  induction names generalizing tree with
  | nil => exact (Except.ok.inj there).symm
  | cons name rest induction =>
      obtain ⟨mode, entries, below, whole, -, held, onward⟩ := find_cons_eq_ok_iff.mp there
      cases tree with
      | file bytes own => simp [put] at whole
      | folder own others =>
          obtain ⟨rfl, rfl⟩ := FileTree.folder.inj whole
          rw [getNamed?_putNamed, if_pos rfl] at held
          obtain rfl := Option.some.inj held
          exact induction onward

/-- A change of a tree below a place is a change of the tree that is there. -/
theorem put_append {above : List String} {tree held : FileTree} (rest : List String)
    (new : FileTree) (there : find above tree = .ok held) :
    put tree (above ++ rest) new = put tree above (put held rest new) := by
  induction above generalizing tree with
  | nil =>
      obtain rfl : tree = held := by simpa [find] using there
      simp [put]
  | cons name above induction =>
      obtain ⟨mode, entries, below, rfl, -, belowHeld, onward⟩ :=
        find_cons_eq_ok_iff.mp there
      simp only [List.cons_append, put, belowHeld, Option.getD_some, induction onward]

theorem isFolder_put {place : List String} (tree new : FileTree) (nonempty : place ≠ []) :
    (put tree place new).isFolder = tree.isFolder := by
  cases place with
  | nil => exact absurd rfl nonempty
  | cons first rest =>
      cases tree with
      | file bytes mode => rfl
      | folder mode entries => rfl

theorem find_put_child {above : List String} {tree : FileTree} {mode : Nat}
    {entries : List (String × FileTree)} {name : String} (new : FileTree)
    (there : find above tree = .ok (folder mode entries))
    (fits : ¬ nameLimit < name.utf8ByteSize) :
    find (above ++ [name]) (put tree (above ++ [name]) new) = .ok new := by
  rw [put_append [name] new there]
  refine find_append_eq_ok_iff.mpr ⟨_, find_put_self _ there, ?_⟩
  exact find_cons_eq_ok_iff.mpr ⟨mode, _, new, rfl, fits,
    by simp [getNamed?_putNamed, put], rfl⟩

/-- What lies neither above nor below the place where a tree is put is found as before. -/
theorem find_put_aside {above place : List String} {last : String} {tree held : FileTree}
    (new : FileTree) (there : find above tree = .ok held)
    (notBelow : ¬ above ++ [last] <+: place) (notAbove : ¬ place <+: above ++ [last]) :
    find place (put tree (above ++ [last]) new) = find place tree := by
  cases place with
  | nil => exact absurd List.nil_prefix notAbove
  | cons first rest =>
      induction above generalizing first rest tree with
      | nil =>
          have differ : last ≠ first := by
            rintro rfl
            exact notBelow (by simp)
          cases tree with
          | file bytes mode => rfl
          | folder mode entries =>
              simp only [List.nil_append, put, find, getNamed?_putNamed, if_neg differ]
      | cons name above induction =>
          obtain ⟨mode, entries, below, rfl, -, belowHeld, onward⟩ :=
            find_cons_eq_ok_iff.mp there
          simp only [List.cons_append, put, find, getNamed?_putNamed]
          by_cases same : name = first
          · subst same
            simp only [List.cons_append, List.cons_prefix_cons, true_and] at notBelow notAbove
            cases rest with
            | nil => exact absurd List.nil_prefix notAbove
            | cons next rest =>
                rw [if_pos rfl, belowHeld, Option.getD_some]
                simp only [induction onward next rest notBelow notAbove]
          · rw [if_neg same]

end Putting

section Keeping

/-- The same file, or folders with the same permissions, whatever they hold. -/
inductive SameTop : FileTree → FileTree → Prop
  | file (bytes : List UInt8) (mode : Nat) :
      SameTop (.file bytes mode) (.file bytes mode)
  | folder (mode : Nat) (entries others : List (String × FileTree)) :
      SameTop (.folder mode entries) (.folder mode others)

theorem SameTop.refl (tree : FileTree) : SameTop tree tree := by
  cases tree with
  | file bytes mode => exact .file bytes mode
  | folder mode entries => exact .folder mode entries entries

theorem SameTop.symm {tree other : FileTree} (same : SameTop tree other) :
    SameTop other tree := by
  cases same with
  | file bytes mode => exact .file bytes mode
  | folder mode entries others => exact .folder mode others entries

theorem SameTop.trans {first second third : FileTree} (left : SameTop first second)
    (right : SameTop second third) : SameTop first third := by
  cases left with
  | file bytes mode => exact right
  | folder mode entries others =>
      cases right with
      | folder _ _ further => exact .folder mode entries further

/-- Putting a tree changes nothing but folders above it, apart from its own place
and what lies below. -/
theorem find_put_apart {names place : List String} {tree found : FileTree}
    (new : FileTree) (there : find place tree = .ok found) (apart : ¬ names <+: place) :
    ∃ other, find place (put tree names new) = .ok other ∧ SameTop found other := by
  induction names generalizing place tree with
  | nil => exact absurd List.nil_prefix apart
  | cons name rest induction =>
      cases place with
      | nil =>
          obtain rfl : tree = found := by simpa [find] using there
          cases tree with
          | file bytes mode => exact ⟨_, rfl, .file bytes mode⟩
          | folder mode entries => exact ⟨_, rfl, .folder mode entries _⟩
      | cons first others =>
          obtain ⟨mode, entries, below, rfl, fits, held, onward⟩ :=
            find_cons_eq_ok_iff.mp there
          by_cases same : name = first
          · subst same
            have apartBelow : ¬ rest <+: others := by
              simpa [List.cons_prefix_cons] using apart
            obtain ⟨other, atPlace, sameTop⟩ := induction onward apartBelow
            refine ⟨other, find_cons_eq_ok_iff.mpr ⟨mode, _, put below rest new, rfl, fits,
              ?_, atPlace⟩, sameTop⟩
            simp [getNamed?_putNamed, held]
          · refine ⟨found, find_cons_eq_ok_iff.mpr ⟨mode, _, below, rfl, fits, ?_, onward⟩,
              .refl found⟩
            simp [getNamed?_putNamed, same, held]

/-- Apart from some places, everything that is there stays there. -/
def Keeps (apart : List String → Prop) (tree changed : FileTree) : Prop :=
  ∀ place found, ¬ apart place → find place tree = .ok found →
    ∃ other, find place changed = .ok other ∧ SameTop found other

/-- Everything that is there stays there. -/
def KeepsAll : FileTree → FileTree → Prop :=
  Keeps fun _ => False

namespace Keeps

variable {apart : List String → Prop} {first second third : FileTree}

theorem refl (tree : FileTree) : Keeps apart tree tree :=
  fun _ found _ there => ⟨found, there, .refl found⟩

theorem trans (left : Keeps apart first second) (right : Keeps apart second third) :
    Keeps apart first third := by
  intro place found allowed there
  obtain ⟨middle, atSecond, sameLeft⟩ := left place found allowed there
  obtain ⟨other, atThird, sameRight⟩ := right place middle allowed atSecond
  exact ⟨other, atThird, sameLeft.trans sameRight⟩

theorem mono {wider : List String → Prop} (keeps : Keeps apart first second)
    (included : ∀ place, apart place → wider place) : Keeps wider first second :=
  fun place found allowed there =>
    keeps place found (fun excepted => allowed (included place excepted)) there

theorem file (keeps : Keeps apart first second) {place : List String}
    {bytes : List UInt8} {mode : Nat} (allowed : ¬ apart place)
    (there : find place first = .ok (.file bytes mode)) :
    find place second = .ok (.file bytes mode) := by
  obtain ⟨other, atPlace, same⟩ := keeps place _ allowed there
  cases same with
  | file => exact atPlace

end Keeps

theorem KeepsAll.keeps {tree changed : FileTree} (apart : List String → Prop)
    (keeps : KeepsAll tree changed) : Keeps apart tree changed :=
  Keeps.mono keeps fun _ => False.elim

theorem keepsAll_put {names : List String} {tree : FileTree} (new : FileTree)
    (absent : ∀ found, find names tree ≠ .ok found) :
    KeepsAll tree (put tree names new) := by
  intro place found _ there
  apply find_put_apart new there
  intro leads
  obtain ⟨reached, atNames⟩ := exists_find_of_prefix there leads
  exact absent reached atNames

/-- Putting a tree where there is no folder keeps everything apart from this
place. -/
theorem keeps_put {names : List String} {tree : FileTree} (new : FileTree)
    (noFolder : ∀ mode entries, find names tree ≠ .ok (folder mode entries)) :
    Keeps (· = names) tree (put tree names new) := by
  intro place found elsewhere there
  apply find_put_apart new there
  intro leads
  obtain ⟨mode, entries, atNames⟩ := exists_folder_of_prefix there leads (Ne.symm elsewhere)
  exact noFolder mode entries atNames

/-- Putting a file or an empty folder into a folder makes nothing else appear. -/
theorem keeps_of_put {above : List String} {last : String} {tree new : FileTree} {mode : Nat}
    {entries : List (String × FileTree)} (there : find above tree = .ok (folder mode entries))
    (fits : ¬ nameLimit < last.utf8ByteSize)
    (bare : ∀ name rest found, find (name :: rest) new ≠ .ok found) :
    Keeps (· = above ++ [last]) (put tree (above ++ [last]) new) tree := by
  intro place found elsewhere atPlace
  by_cases below : above ++ [last] <+: place
  · obtain ⟨rest, rfl⟩ := below
    rw [find_append rest (find_put_child new there fits)] at atPlace
    cases rest with
    | nil => simp at elsewhere
    | cons name rest => exact absurd atPlace (bare name rest found)
  · by_cases leads : place <+: above ++ [last]
    · -- A place above the new one is that of a folder, before and after.
      have toParent : place <+: above := by
        rcases List.prefix_concat_iff.mp leads with whole | inside
        · exact absurd whole elsewhere
        · exact inside
      obtain ⟨held, before⟩ := exists_find_of_prefix there toParent
      obtain ⟨other, after, same⟩ := find_put_apart new before below
      obtain rfl := Except.ok.inj (after.symm.trans atPlace)
      exact ⟨held, before, same.symm⟩
    · rw [find_put_aside new there below leads] at atPlace
      exact ⟨found, atPlace, .refl found⟩

end Keeping

end ScriptLint.FileTree
