import ScriptLint.Proofs.Files.Tree

/-!
# Listed places

Listing the places of a tree goes into every folder that may be entered.  `Leads`
describes the same places step by step, as they are found by following names.
-/

namespace ScriptLint.FileTree

variable {enters : String → Bool} {names : List String} {found : FileTree}

/-- Names lead from a folder to what lies below it, through folders that may be
entered. -/
inductive Leads (enters : String → Bool) : FileTree → List String → FileTree → Prop
  | entry {mode : Nat} {entries : List (String × FileTree)} {name : String}
      {tree : FileTree} :
      (name, tree) ∈ entries → (tree.isFolder = true → enters name = true) →
        Leads enters (folder mode entries) [name] tree
  | onward {mode : Nat} {entries : List (String × FileTree)} {name : String}
      {tree : FileTree} {names : List String} {found : FileTree} :
      (name, tree) ∈ entries → (tree.isFolder = true → enters name = true) →
        Leads enters tree names found →
          Leads enters (folder mode entries) (name :: names) found

private def LeadsFrom (enters : String → Bool) (entry : String × FileTree)
    (names : List String) (found : FileTree) : Prop :=
  (entry.2.isFolder = true → enters entry.1 = true) ∧
    (names = [entry.1] ∧ found = entry.2 ∨
      ∃ rest, names = entry.1 :: rest ∧ Leads enters entry.2 rest found)

private theorem leads_folder_iff {mode : Nat} {entries : List (String × FileTree)} :
    Leads enters (folder mode entries) names found ↔
      ∃ entry ∈ entries, LeadsFrom enters entry names found := by
  constructor
  · intro leads
    cases leads with
    | entry member entered => exact ⟨_, member, entered, Or.inl ⟨rfl, rfl⟩⟩
    | onward member entered leads => exact ⟨_, member, entered, Or.inr ⟨_, rfl, leads⟩⟩
  · rintro ⟨⟨name, tree⟩, member, entered, ⟨rfl, rfl⟩ | ⟨rest, rfl, onward⟩⟩
    · exact .entry member entered
    · exact .onward member entered onward

mutual

theorem mem_places_iff {enters : String → Bool} {names : List String} {found : FileTree} :
    (tree : FileTree) → ((names, found) ∈ tree.places enters ↔ Leads enters tree names found)
  | file bytes mode => by
      constructor
      · intro member
        simp [places] at member
      · intro leads
        cases leads
  | folder mode entries => by
      rw [places, mem_placesIn_iff entries, leads_folder_iff]

private theorem mem_placesIn_iff {enters : String → Bool} {names : List String}
    {found : FileTree} :
    (entries : List (String × FileTree)) → ((names, found) ∈ placesIn enters entries ↔
      ∃ entry ∈ entries, LeadsFrom enters entry names found)
  | [] => by simp [placesIn]
  | entry :: rest => by
      rw [placesIn, List.mem_append, mem_placesAt_iff entry, mem_placesIn_iff rest,
        List.exists_mem_cons_iff]

private theorem mem_placesAt_iff {enters : String → Bool} {names : List String}
    {found : FileTree} :
    (entry : String × FileTree) →
      ((names, found) ∈ placesAt enters entry ↔ LeadsFrom enters entry names found)
  | (name, tree) => by
      rw [placesAt, LeadsFrom]
      split
      · rename_i skipped
        obtain ⟨isFolder, shut⟩ := Bool.and_eq_true_iff.mp skipped
        have excluded : enters name = false := by simpa using shut
        simp [isFolder, excluded]
      · rename_i entered
        have allowed : tree.isFolder = true → enters name = true := by
          intro isFolder
          simpa [isFolder] using entered
        have onward : (∃ place ∈ tree.places enters,
            (name :: place.1, place.2) = (names, found)) ↔
              ∃ rest, names = name :: rest ∧ Leads enters tree rest found := by
          constructor
          · rintro ⟨⟨rest, inner⟩, member, same⟩
            obtain ⟨rfl, rfl⟩ := Prod.mk.inj same
            exact ⟨rest, rfl, (mem_places_iff tree).mp member⟩
          · rintro ⟨rest, rfl, leads⟩
            exact ⟨(rest, found), (mem_places_iff tree).mpr leads, rfl⟩
        rw [List.mem_cons, List.mem_map, Prod.mk.injEq]
        exact (or_congr Iff.rfl onward).trans (and_iff_right allowed).symm

end

namespace Leads

theorem entered {tree : FileTree} (leads : Leads enters tree names found) :
    names ≠ [] ∧ ∀ name ∈ names.dropLast, enters name = true := by
  induction leads with
  | entry member allowed => simp
  | @onward mode entries name tree names found member allowed leads induction =>
      obtain ⟨nonempty, later⟩ := induction
      have isFolder : tree.isFolder = true := by
        cases leads with
        | entry => rfl
        | onward => rfl
      refine ⟨by simp, ?_⟩
      rw [List.dropLast_cons_of_ne_nil nonempty]
      exact List.forall_mem_cons.mpr ⟨allowed isFolder, later⟩

end Leads

/-- A file that is found is listed if all folders on the way may be entered. -/
theorem leads_of_find {tree : FileTree} {bytes : List UInt8} {mode : Nat}
    (there : tree.find names = .ok (file bytes mode)) (nonempty : names ≠ [])
    (allowed : ∀ name ∈ names.dropLast, enters name = true) :
    Leads enters tree names (file bytes mode) := by
  induction names generalizing tree with
  | nil => exact absurd rfl nonempty
  | cons name rest induction =>
      obtain ⟨folderMode, entries, inside, rfl, -, held, onward⟩ :=
        find_cons_eq_ok_iff.mp there
      have member := mem_of_getNamed? held
      cases rest with
      | nil =>
          obtain rfl : inside = file bytes mode := by simpa [find] using onward
          exact .entry member (by simp [isFolder])
      | cons next rest =>
          rw [List.dropLast_cons_of_ne_nil (List.cons_ne_nil _ _)] at allowed
          obtain ⟨here, later⟩ := List.forall_mem_cons.mp allowed
          exact .onward member (fun _ => here)
            (induction onward (List.cons_ne_nil _ _) later)

/-- A tree as file systems have them: the names in a folder are distinct and not too
long. -/
inductive IsTidy : FileTree → Prop
  | file (bytes : List UInt8) (mode : Nat) : IsTidy (file bytes mode)
  | folder (mode : Nat) (entries : List (String × FileTree))
      (distinct : (entries.map (·.1)).Nodup)
      (fits : ∀ entry ∈ entries, ¬ nameLimit < entry.1.utf8ByteSize)
      (below : ∀ entry ∈ entries, IsTidy entry.2) :
      IsTidy (folder mode entries)

theorem IsTidy.find_of_leads {tree : FileTree} (tidy : tree.IsTidy)
    (leads : Leads enters tree names found) : tree.find names = .ok found := by
  induction leads with
  | entry member _ =>
      cases tidy with
      | folder _ _ distinct fits _ =>
          exact find_cons_folder_eq_ok_iff.mpr
            ⟨fits _ member, _, getNamed?_of_mem distinct member, rfl⟩
  | onward member _ _ induction =>
      cases tidy with
      | folder _ _ distinct fits below =>
          exact find_cons_folder_eq_ok_iff.mpr
            ⟨fits _ member, _, getNamed?_of_mem distinct member, induction (below _ member)⟩

theorem IsTidy.of_find {tree : FileTree} (tidy : tree.IsTidy)
    (there : tree.find names = .ok found) : found.IsTidy := by
  induction names generalizing tree with
  | nil =>
      obtain rfl : tree = found := by simpa [find] using there
      exact tidy
  | cons name rest induction =>
      obtain ⟨mode, entries, inside, rfl, -, held, onward⟩ := find_cons_eq_ok_iff.mp there
      cases tidy with
      | folder _ _ _ _ below => exact induction (below _ (mem_of_getNamed? held)) onward

end ScriptLint.FileTree
