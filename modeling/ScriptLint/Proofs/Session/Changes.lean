import ScriptLint.Proofs.Session.Operation

/-!
# What operations change

An operation writes fixed texts and reports, one after the other, and may give the
session other roots.  What these writes keep is kept by every operation.
-/

namespace ScriptLint

namespace Session

variable {session : Session} {before middle after : FileTree}

/-- Fixes and reports were written in some order. -/
inductive Changes (session : Session) : FileTree → FileTree → Prop
  | none (files : FileTree) : Changes session files files
  | fix {path : Path} {before middle after : FileTree} :
      session.FixesAt path before middle → Changes session middle after →
        Changes session before after
  | report {before middle after : FileTree} :
      session.WritesReport before middle → Changes session middle after →
        Changes session before after

namespace Changes

theorem trans (first : session.Changes before middle) (second : session.Changes middle after) :
    session.Changes before after := by
  induction first with
  | none files => exact second
  | fix fixes _ induction => exact .fix fixes (induction second)
  | report writes _ induction => exact .report writes (induction second)

theorem of_follows {later : Session} (follows : later.Follows session)
    (changes : later.Changes before after) : session.Changes before after := by
  induction changes with
  | none files => exact .none files
  | fix fixes _ induction => exact .fix (follows.fixesAt fixes) induction
  | report writes _ induction =>
      obtain ⟨path, bytes, kept, replaced⟩ := writes
      exact .report ⟨path, bytes, follows.workspace ▸ kept, replaced⟩ induction

theorem of_analyses {path : Path} {updatesReport : Bool}
    (analyses : session.Analyses path updatesReport before after) :
    session.Changes before after := by
  obtain ⟨middle, fixing, writing⟩ := analyses
  have written : session.Changes middle after := by
    rcases writing with rfl | ⟨-, writes⟩
    · exact .none _
    · exact .report writes (.none after)
  rcases fixing with rfl | fixes
  · exact written
  · exact .fix fixes written

theorem of_scans {paths : List Path} (scans : session.Scans paths before after) :
    session.Changes before after := by
  induction scans with
  | stop paths files => exact .none files
  | pass _ induction => exact induction
  | fix fixes _ induction => exact .fix fixes induction

end Changes

theorem scan_changes (quiet : session.interruptions = []) :
    session.Changes session.files session.scan.2.files := by
  unfold scan
  split
  · exact .none _
  · exact .of_scans (scanFiles_effect quiet _).2

theorem saveReport_changes (session : Session) (diagnostics : List Diagnostic) :
    session.Changes session.files (session.saveReport diagnostics).2.files := by
  unfold saveReport
  split
  · exact .none _
  · rename_i path kept
    obtain ⟨-, -, replaced⟩ := writeReport_effect session savingWords path diagnostics
    exact .report ⟨path, _, kept, replaced⟩ (.none _)

theorem activate_changes (quiet : session.interruptions = []) :
    session.Changes session.files session.activate.2.files := by
  have scanned := scan_changes quiet
  have follows := scan_follows quiet
  unfold activate
  split
  · rename_i failure after ended
    rwa [ended] at scanned
  · rename_i diagnostics after ended
    rw [ended] at scanned follows
    have saved := scanned.trans (.of_follows follows (saveReport_changes after diagnostics))
    split
    · rename_i failure last done
      rwa [done] at saved
    · rename_i report last done
      rwa [done] at saved

theorem files_prune (session : Session) : session.prune.files = session.files := by
  unfold prune
  split
  · rfl
  · rfl

def withFolders (session : Session) : Option (List Path) → Session
  | none => session
  | some roots => session.withRoots roots

theorem changeFolders_cases (session : Session) (roots : Option (List Path)) :
    (∃ given, roots = some given ∧ ∃ root ∈ given, root.holdsNull = true) ∧
        (session.changeFolders roots).2 = session ∨
      (∀ given, roots = some given → ∀ root ∈ given, root.holdsNull = false) ∧
        session.changeFolders roots = (session.withFolders roots).prune.activate := by
  cases roots with
  | none => exact Or.inr ⟨by simp, rfl⟩
  | some given =>
      rw [changeFolders, Workspace.withRoots]
      rcases Workspace.ofRoots_cases given session.workspace.settings with
        ⟨null, error, failed, -⟩ | ⟨free, resolved⟩
      · rw [failed]
        exact Or.inl ⟨⟨given, rfl, null⟩, rfl⟩
      · rw [resolved]
        refine Or.inr ⟨?_, rfl⟩
        rintro _ ⟨⟩ root member
        exact Bool.eq_false_iff.mpr fun null => free ⟨root, member, null⟩

/-- What an operation leaves of a session: nothing is planned to interrupt it, its roots
are those it had or those that were given, and the files were changed by fixes and
reports only. -/
structure Leaves (session : Session) (operation : Operation) (later : Session) : Prop where
  undisturbed : later.interruptions = []
  roots : later.workspace.roots = session.workspace.roots ∨
    ∃ given, operation = .foldersChanged (some given) ∧
      later.workspace.roots = given.map Path.resolve
  changes : later.Changes session.files later.files

theorem leaves_of_follows {operation : Operation} {later : Session}
    (quiet : session.interruptions = []) (follows : later.Follows session)
    (changes : session.Changes session.files later.files) :
    session.Leaves operation later :=
  ⟨follows.undisturbed quiet, Or.inl (congrArg Workspace.roots follows.workspace),
    changes.of_follows follows.symm⟩

theorem analyzeFile_leaves (quiet : session.interruptions = []) (operation : Operation)
    (path : Path) : session.Leaves operation (session.analyzeFile path).2 := by
  obtain ⟨follows, analyses⟩ := analyzeFile_effect quiet path
  exact leaves_of_follows quiet follows (.of_analyses analyses)

theorem prune_activate_leaves (quiet : session.interruptions = []) (operation : Operation) :
    session.Leaves operation session.prune.activate.2 := by
  have pruned := prune_follows session
  have quietNow := pruned.undisturbed quiet
  have changes := (activate_changes quietNow).of_follows pruned
  rw [files_prune] at changes
  exact leaves_of_follows quiet ((activate_follows quietNow).trans pruned) changes

theorem changeFolders_leaves (quiet : session.interruptions = [])
    (roots : Option (List Path)) :
    session.Leaves (.foldersChanged roots) (session.changeFolders roots).2 := by
  rcases changeFolders_cases session roots with ⟨-, same⟩ | ⟨-, whole⟩
  · rw [same]
    exact leaves_of_follows quiet (.refl session) (.none _)
  · rw [whole]
    cases roots with
    | none => exact prune_activate_leaves quiet _
    | some given =>
        have quietNow : (session.withRoots given).interruptions = [] := quiet
        have follows := (activate_follows ((prune_follows _).undisturbed quietNow)).trans
          (prune_follows (session.withRoots given))
        obtain ⟨undisturbed, -, changes⟩ :=
          prune_activate_leaves quietNow (.foldersChanged (some given))
        exact ⟨undisturbed,
          Or.inr ⟨given, rfl, congrArg Workspace.roots follows.workspace⟩, changes⟩

theorem perform_leaves (quiet : session.interruptions = []) (operation : Operation) :
    session.Leaves operation (session.perform operation).2 := by
  cases operation with
  | activate =>
      exact leaves_of_follows quiet (activate_follows quiet) (activate_changes quiet)
  | opened path => exact analyzeFile_leaves quiet _ path
  | saved path => exact analyzeFile_leaves quiet _ path
  | foldersChanged roots => exact changeFolders_leaves quiet roots
  | deactivate => exact ⟨quiet, Or.inl rfl, .none _⟩

end Session

end ScriptLint
