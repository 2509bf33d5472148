import ScriptLint.Proofs.Files.Names

/-!
# Trees without misleading names

An entry that is named like the way back could never be reached.  No request makes
one: files and folders are put at resolved places.
-/

namespace ScriptLint

namespace FileTree

mutual

/-- Whether no entry of a tree is named by double dots. -/
def isOrdinary : FileTree → Bool
  | file _ _ => true
  | folder _ entries => areOrdinary entries

/-- Whether no entry of a folder, nor one below, is named by double dots. -/
def areOrdinary : List (String × FileTree) → Bool
  | [] => true
  | entry :: rest => isOrdinaryEntry entry && areOrdinary rest

/-- Whether neither an entry nor one below is named by double dots. -/
def isOrdinaryEntry : String × FileTree → Bool
  | (name, tree) => name ≠ ".." && tree.isOrdinary

end

mutual

theorem isOrdinary_iff :
    (tree : FileTree) → (tree.isOrdinary = true ↔ tree.HasNames (· ≠ ".."))
  | file bytes mode => iff_of_true rfl (.file bytes mode)
  | folder mode entries => by
      rw [isOrdinary, areOrdinary_iff entries]
      constructor
      · intro ordinary
        exact .folder mode entries (fun entry member => (ordinary entry member).1)
          (fun entry member => (ordinary entry member).2)
      · intro names entry member
        cases names with
        | folder _ _ named below => exact ⟨named entry member, below entry member⟩

theorem areOrdinary_iff :
    (entries : List (String × FileTree)) → (areOrdinary entries = true ↔
      ∀ entry ∈ entries, entry.1 ≠ ".." ∧ entry.2.HasNames (· ≠ ".."))
  | [] => by simp [areOrdinary]
  | entry :: rest => by
      rw [areOrdinary, Bool.and_eq_true, isOrdinaryEntry_iff entry, areOrdinary_iff rest,
        List.forall_mem_cons]

theorem isOrdinaryEntry_iff :
    (entry : String × FileTree) → (isOrdinaryEntry entry = true ↔
      entry.1 ≠ ".." ∧ entry.2.HasNames (· ≠ ".."))
  | (name, tree) => by
      rw [isOrdinaryEntry, Bool.and_eq_true, isOrdinary_iff tree, decide_eq_true_eq]

end

/-- No name that a file system gives is the way back. -/
theorem IsNamed.isOrdinary {tree : FileTree} (named : tree.IsNamed) :
    tree.isOrdinary = true :=
  (isOrdinary_iff tree).mpr (named.imp fun _ fileName => fileName.notBack)

end FileTree

end ScriptLint
