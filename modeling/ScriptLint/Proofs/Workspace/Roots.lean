import ScriptLint.Proofs.Files.Refusal
import ScriptLint.Proofs.Path
import ScriptLint.Workspace.Basic

/-!
# Root folders

A workspace takes its roots over resolved, and refuses those with a null character.
-/

namespace ScriptLint

private theorem mapM_resolved_cases (paths : List Path) :
    (∃ path ∈ paths, path.holdsNull = true) ∧
        (∃ error, paths.mapM Path.resolved = .error error ∧ error.isRefusal = true) ∨
      (¬∃ path ∈ paths, path.holdsNull = true) ∧
        paths.mapM Path.resolved = .ok (paths.map Path.resolve) := by
  induction paths with
  | nil => exact Or.inr ⟨by simp, rfl⟩
  | cons path rest induction =>
      simp only [List.exists_mem_cons_iff, List.mapM_cons, Path.resolved]
      cases null : path.holdsNull with
      | true => exact Or.inl ⟨Or.inl rfl, _, rfl, rfl⟩
      | false =>
          rcases induction with ⟨later, error, failed, refusal⟩ | ⟨free, resolved⟩
          · refine Or.inl ⟨Or.inr later, error, ?_, refusal⟩
            simp [failed, bind, Except.bind]
          · refine Or.inr ⟨by simpa using free, ?_⟩
            simp [resolved, bind, Except.bind, pure, Except.pure]

/-- Root folders are taken over resolved unless one of them is refused. -/
theorem Workspace.ofRoots_cases (roots : List Path) (settings : Settings) :
    (∃ root ∈ roots, root.holdsNull = true) ∧
        (∃ error, ofRoots roots settings = .error error ∧ error.isRefusal = true) ∨
      (¬∃ root ∈ roots, root.holdsNull = true) ∧
        ofRoots roots settings = .ok ⟨roots.map Path.resolve, settings⟩ := by
  unfold ofRoots
  rcases mapM_resolved_cases roots with ⟨null, error, failed, refusal⟩ | ⟨free, resolved⟩
  · rw [failed]
    exact Or.inl ⟨null, error, rfl, refusal⟩
  · rw [resolved]
    exact Or.inr ⟨free, rfl⟩

theorem Path.resolve_of_mem_map {paths : List Path} :
    ∀ path ∈ paths.map Path.resolve, path.resolve = path := by
  intro path member
  obtain ⟨given, -, rfl⟩ := List.mem_map.mp member
  exact Path.resolve_resolve given

theorem Workspace.eq_of_ofRoots {roots : List Path} {settings : Settings}
    {workspace : Workspace} (opened : ofRoots roots settings = .ok workspace) :
    workspace = ⟨roots.map Path.resolve, settings⟩ := by
  rcases ofRoots_cases roots settings with ⟨-, error, failed, -⟩ | ⟨-, resolved⟩
  · simp [failed] at opened
  · exact Except.ok.inj (opened.symm.trans resolved)

theorem Workspace.rooted_of_ofRoots {roots : List Path} {settings : Settings}
    {workspace : Workspace} (opened : ofRoots roots settings = .ok workspace) :
    ∀ root ∈ workspace.roots, root.resolve = root := by
  rw [eq_of_ofRoots opened]
  exact Path.resolve_of_mem_map

end ScriptLint
