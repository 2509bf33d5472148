import ScriptLint.Proofs.Files.Access

/-!
# Making folders step by step

Making a folder and those above it is a series of steps, each of which puts an empty
folder at a place that the path passes.  What such a series does to a tree is said about
one step and follows for all of them.
-/

namespace ScriptLint

/-- A path passes the places of the names that it starts with. -/
def Path.Passes (path : Path) (place : List String) : Prop :=
  ∃ names, names <+: path.names ∧ place = Path.resolveNames names

theorem Path.passes_resolve (path : Path) : path.Passes path.resolve.names :=
  ⟨path.names, List.prefix_refl _, rfl⟩

theorem Path.Passes.of_prefix {path : Path} {place : List String} (longer : Path)
    (leads : path.names <+: longer.names) (passes : path.Passes place) : longer.Passes place := by
  obtain ⟨names, start, rfl⟩ := passes
  exact ⟨names, start.trans leads, rfl⟩

theorem Path.Passes.of_resolved {path : Path} {place : List String}
    (resolved : path.resolve = path) (passes : path.Passes place) : place <+: path.names := by
  obtain ⟨names, start, rfl⟩ := passes
  rwa [Path.resolveNames_of_ordinary]
  intro name member
  have inPath := start.subset member
  rw [← resolved] at inPath
  exact (Path.of_mem_resolveNames inPath).2

namespace FileTree

variable {tree half made : FileTree} {path : Path} {place : List String}
  {allowed : List String → Prop}

/-- Empty folders are put into folders one after the other, at places where this is allowed
and where there is nothing. -/
inductive MakesFolders (allowed : List String → Prop) : FileTree → FileTree → Prop
  | done (tree : FileTree) : MakesFolders allowed tree tree
  | make {tree made : FileTree} {above : List String} {name : String} {mode : Nat}
      {entries : List (String × FileTree)}
      (there : tree.find above = .ok (folder mode entries))
      (fits : ¬ nameLimit < name.utf8ByteSize) (absent : getNamed? entries name = none)
      (suits : allowed (above ++ [name]))
      (onward : MakesFolders allowed (tree.put (above ++ [name]) emptyFolder) made) :
      MakesFolders allowed tree made

theorem find_cons_emptyFolder (name : String) (rest : List String) (found : FileTree) :
    find (name :: rest) emptyFolder ≠ .ok found := by
  intro there
  obtain ⟨-, below, held, -⟩ := find_cons_folder_eq_ok_iff.mp there
  simp [getNamed?] at held

theorem find_of_absent {above : List String} {name : String} {mode : Nat}
    {entries : List (String × FileTree)} (there : tree.find above = .ok (folder mode entries))
    (absent : getNamed? entries name = none) (found : FileTree) :
    tree.find (above ++ [name]) ≠ .ok found := by
  intro atPlace
  rw [find_append [name] there] at atPlace
  obtain ⟨-, below, held, -⟩ := find_cons_folder_eq_ok_iff.mp atPlace
  simp [absent] at held

namespace MakesFolders

theorem trans (first : MakesFolders allowed tree half) (second : MakesFolders allowed half made) :
    MakesFolders allowed tree made := by
  induction first with
  | done tree => exact second
  | make there fits absent suits _ induction =>
      exact .make there fits absent suits (induction second)

theorem mono {wider : List String → Prop} (makes : MakesFolders allowed tree made)
    (included : ∀ place, allowed place → wider place) : MakesFolders wider tree made := by
  induction makes with
  | done tree => exact .done tree
  | make there fits absent suits _ induction =>
      exact .make there fits absent (included _ suits) induction

theorem find_cases {found : FileTree} (makes : MakesFolders allowed tree made)
    (there : made.find place = .ok found) :
    (∃ before, tree.find place = .ok before ∧ SameTop before found) ∨
      allowed place ∧ found.isFolder = true := by
  induction makes with
  | done tree => exact Or.inl ⟨found, there, .refl found⟩
  | @make tree made above name mode entries parent fits absent suits _ induction =>
      rcases induction there with ⟨middle, atPlace, same⟩ | isNew
      · by_cases here : place = above ++ [name]
        · subst here
          obtain rfl := eq_of_find_put atPlace
          cases same with
          | folder => exact Or.inr ⟨suits, rfl⟩
        · obtain ⟨before, wasThere, sameBefore⟩ :=
            keeps_of_put parent fits (find_cons_emptyFolder) place middle here atPlace
          exact Or.inl ⟨before, wasThere, sameBefore.symm.trans same⟩
      · exact Or.inr isNew

theorem absent (makes : MakesFolders allowed tree made) :
    MakesFolders (fun place => allowed place ∧ ∀ found, tree.find place ≠ .ok found) tree made := by
  induction makes with
  | done tree => exact .done tree
  | @make tree made above name mode entries there fits absent suits _ induction =>
      have nothing := find_of_absent there absent
      refine .make there fits absent ⟨suits, nothing⟩ (induction.mono ?_)
      rintro place ⟨allowedThere, new⟩
      refine ⟨allowedThere, fun found atPlace => ?_⟩
      obtain ⟨other, stays, -⟩ := keepsAll_put emptyFolder nothing place found not_false atPlace
      exact new other stays

end MakesFolders

section Making

theorem makesFolders_makeFolder
    (parent : tree.reach path = .error .missing →
      ∃ below, tree.reachFrom [] path.names.dropLast = .ok below) :
    MakesFolders path.Passes tree (tree.afterwards (tree.makeFolder path)).2 := by
  unfold makeFolder
  split
  · exact .done tree
  · exact .done tree
  · rename_i missing
    obtain ⟨below, atParent⟩ := parent missing
    obtain ⟨name, mode, entries, -, -, place, there, fits, absent⟩ :=
      child_of_reach_missing missing atParent
    have passes := path.passes_resolve
    rw [place] at passes
    rw [afterwards, place]
    exact .make there fits absent passes (.done _)
  · exact .done tree

theorem makesFolders_makeFoldersUp (tree : FileTree) (anchor : String) (up : List String) :
    MakesFolders (Path.Passes ⟨anchor, up.reverse⟩) tree (tree.makeFoldersUp anchor up).2 := by
  induction up with
  | nil => exact .done tree
  | cons name above induction =>
      have wider := induction.mono fun place =>
        Path.Passes.of_prefix ⟨anchor, (name :: above).reverse⟩ (by simp)
      simp only [makeFoldersUp]
      split
      · split
        · rename_i error half failed
          rwa [failed] at wider
        · rename_i half succeeded
          rw [succeeded] at wider
          refine wider.trans (makesFolders_makeFolder fun _ => ?_)
          rw [List.reverse_cons, List.dropLast_concat]
          exact reachFrom_of_makeFoldersUp succeeded
      · rename_i notMissing
        exact makesFolders_makeFolder fun missing => absurd missing notMissing

theorem makesFolders_makeFolders (tree : FileTree) (path : Path) :
    MakesFolders path.Passes tree (tree.makeFolders path).2 := by
  simpa [makeFolders] using makesFolders_makeFoldersUp tree path.anchor path.names.reverse

end Making

section Again

theorem reachFrom_parent_of_reachFrom {above names : List String} {name : String}
    {found : FileTree} (reached : tree.reachFrom above (names ++ [name]) = .ok found) :
    ∃ mode entries, tree.reachFrom above names = .ok (folder mode entries) := by
  induction names generalizing above with
  | nil =>
      rw [List.nil_append, reachFrom] at reached
      split at reached
      · split at reached
        · simp at reached
        · simp at reached
        · rename_i mode entries there
          exact ⟨mode, entries, there⟩
      · rw [reachFrom, List.reverse_cons] at reached
        exact exists_folder_of_prefix reached (List.prefix_append _ _) (by simp)
  | cons first rest induction =>
      rw [List.cons_append, reachFrom] at reached
      rw [reachFrom]
      split at reached
      · rename_i back
        rw [if_pos back]
        split at reached
        · simp at reached
        · simp at reached
        · exact induction reached
      · rename_i ordinary
        rw [if_neg ordinary]
        exact induction reached

theorem reach_parent_of_reach {anchor name : String} {names : List String} {found : FileTree}
    (nonempty : names ≠ []) (reached : tree.reach ⟨anchor, names ++ [name]⟩ = .ok found) :
    ∃ mode entries, tree.reach ⟨anchor, names⟩ = .ok (folder mode entries) := by
  obtain ⟨noNull, fits, onward⟩ := reach_eq_ok_iff.mp reached
  obtain ⟨mode, entries, there⟩ := reachFrom_parent_of_reachFrom onward
  have shorter : (Path.toString ⟨anchor, names⟩).utf8ByteSize ≤
      (Path.toString ⟨anchor, names ++ [name]⟩).utf8ByteSize :=
    Path.utf8ByteSize_le_child (Or.inr nonempty) name
  refine ⟨mode, entries, reach_eq_ok_iff.mpr ⟨?_, ?_, there⟩⟩
  · rw [Path.holdsNull_eq_false_iff] at noNull ⊢
    intro other member
    exact noNull other (List.mem_append_left _ member)
  · intro tooLong
    exact fits (Nat.lt_of_lt_of_le tooLong shorter)

theorem of_makeFolder_failed {error : FileError}
    (failed : tree.afterwards (tree.makeFolder path) = (some error, made)) :
    made = tree ∧ tree.reach path ≠ .error .missing := by
  unfold makeFolder at failed
  split at failed
  · simp [afterwards] at failed
  · rename_i reached
    exact ⟨(Prod.mk.inj failed).2.symm, by simp [reached]⟩
  · simp [afterwards] at failed
  · rename_i fault notMissing reached
    refine ⟨(Prod.mk.inj failed).2.symm, fun missing => ?_⟩
    exact notMissing (Except.error.inj (reached.symm.trans missing))

theorem makeFoldersUp_of_failed {anchor : String} {up : List String} {error : FileError}
    (failed : tree.makeFoldersUp anchor up = (some error, made)) :
    ∃ again, made.makeFoldersUp anchor up = (some again, made) := by
  induction up generalizing tree error made with
  | nil => simp [makeFoldersUp] at failed
  | cons name above induction =>
      simp only [makeFoldersUp] at failed ⊢
      split at failed
      · split at failed
        · rename_i problem half failedAbove
          obtain ⟨-, rfl⟩ := Prod.mk.inj failed
          obtain ⟨again, same⟩ := induction failedAbove
          rw [same]
          split
          · exact ⟨again, rfl⟩
          · rename_i notMissing
            cases reached : half.reach ⟨anchor, (name :: above).reverse⟩ with
            | ok found =>
                -- Then the folder above would be there.
                have nonempty : above.reverse ≠ [] := by
                  intro none
                  simp [List.reverse_eq_nil_iff.mp none, makeFoldersUp] at same
                rw [List.reverse_cons] at reached
                obtain ⟨mode, entries, atAbove⟩ := reach_parent_of_reach nonempty reached
                simp [makeFoldersUp_of_folder atAbove] at same
            | error fault =>
                have fails : half.makeFolder ⟨anchor, (name :: above).reverse⟩ =
                    .error ⟨fault, Path.toString ⟨anchor, (name :: above).reverse⟩, none⟩ := by
                  rw [makeFolder, reached]
                  cases fault with
                  | missing => exact absurd reached notMissing
                  | _ => rfl
                rw [fails]
                exact ⟨_, rfl⟩
        · obtain ⟨rfl, notMissing⟩ := of_makeFolder_failed failed
          split
          · rename_i missing
            exact absurd missing notMissing
          · exact ⟨error, failed⟩
      · obtain ⟨rfl, notMissing⟩ := of_makeFolder_failed failed
        split
        · rename_i missing
          exact absurd missing notMissing
        · exact ⟨error, failed⟩

/-- Making folders once more changes nothing and succeeds if it did before. -/
theorem makeFolders_again (tree : FileTree) (path : Path) :
    ∃ again, (tree.makeFolders path).2.makeFolders path = (again, (tree.makeFolders path).2) ∧
      (again = none ↔ (tree.makeFolders path).1 = none) := by
  cases ended : tree.makeFolders path with
  | mk error made =>
      cases error with
      | some error =>
          obtain ⟨again, same⟩ := makeFoldersUp_of_failed ended
          exact ⟨some again, same, by simp⟩
      | none =>
          refine ⟨none, ?_, by simp⟩
          by_cases top : path.names = []
          · simp [makeFolders, top, makeFoldersUp]
          · obtain ⟨mode, entries, reached⟩ := (of_makeFolders ended).2 rfl top
            exact makeFoldersUp_of_folder (by rw [List.reverse_reverse]; exact reached)

end Again

end FileTree

end ScriptLint
