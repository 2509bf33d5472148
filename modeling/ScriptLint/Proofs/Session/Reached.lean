import ScriptLint.Proofs.Files.Names
import ScriptLint.Proofs.Session.Changes
import ScriptLint.Proofs.Workspace.Enumeration

/-!
# Reached sessions

A session that is started over a file system stays one over a file system: whatever it
is asked for and whatever others do to the files, every entry has a name that a file
system gives.
-/

namespace ScriptLint

theorem Path.isProper_of_mem_map {paths : List Path} (proper : ∀ path ∈ paths, path.IsProper) :
    ∀ path ∈ paths.map Path.resolve, path.IsProper := by
  intro path member name inPath
  obtain ⟨given, listed, rfl⟩ := List.mem_map.mp member
  exact proper given listed name (Path.of_mem_resolveNames inPath).1

/-- The roots that an operation gives are paths that can be read. -/
def Operation.IsProper (operation : Operation) : Prop :=
  ∀ given, operation = .foldersChanged (some given) → ∀ root ∈ given, root.IsProper

/-- The path of the report is read from the settings below the first root. -/
theorem Workspace.isProper_reportPath? {workspace : Workspace} {report : Path}
    (proper : ∀ root ∈ workspace.roots, root.IsProper)
    (kept : workspace.reportPath? = some report) : report.IsProper := by
  have join : ∀ {folder : Path} (text : String), folder.IsProper →
      (folder.join (Path.ofString text)).IsProper := by
    intro folder text properFolder name member
    unfold Path.join at member
    split at member
    · rcases List.mem_append.mp member with inFolder | inText
      · exact properFolder name inFolder
      · exact Path.isProper_ofString text name inText
    · exact Path.isProper_ofString text name member
  unfold reportPath? reportFolder? primary? at kept
  cases first : workspace.roots.head? with
  | none => simp [first] at kept
  | some root =>
      simp only [first, Option.map_some, Option.some.injEq] at kept
      rw [← kept]
      exact join _ (join _ (proper root (List.mem_of_mem_head? first)))

namespace Session

variable {session : Session}

/-- A session over a file system that nothing interrupts. -/
structure Regular (session : Session) : Prop where
  undisturbed : session.interruptions = []
  rooted : ∀ root ∈ session.workspace.roots, root.resolve = root
  proper : ∀ root ∈ session.workspace.roots, root.IsProper
  named : session.files.IsNamed

theorem Regular.resolved {paths : List Path} (regular : session.Regular)
    (listed : session.workspace.files session.files = .ok paths) :
    ∀ path ∈ paths, path.resolve = path :=
  fun _ member =>
    Workspace.resolve_of_mem_files regular.named.isOrdinary regular.rooted listed member

theorem FixesAt.isNamed {path : Path} {before after : FileTree}
    (fixes : session.FixesAt path before after) (named : before.IsNamed) : after.IsNamed := by
  obtain ⟨bytes, mode, raw, result, fixed, there, -, -, -, rfl⟩ := fixes
  exact named.put (named.of_find there).1 (.file _ mode)

theorem Changes.isNamed {before after : FileTree} (changes : session.Changes before after)
    (proper : ∀ root ∈ session.workspace.roots, root.IsProper) (named : before.IsNamed) :
    after.IsNamed := by
  induction changes with
  | none files => exact named
  | fix fixes _ induction => exact induction (fixes.isNamed named)
  | report writes _ induction =>
      obtain ⟨report, bytes, kept, rfl⟩ := writes
      exact induction (named.replaceFile (Workspace.isProper_reportPath? proper kept) bytes)

theorem Regular.of_follows {later : Session} (regular : session.Regular)
    (follows : later.Follows session) (named : later.files.IsNamed) : later.Regular :=
  ⟨follows.undisturbed regular.undisturbed, follows.workspace ▸ regular.rooted,
    follows.workspace ▸ regular.proper, named⟩

theorem Regular.updateReport (regular : session.Regular) : session.updateReport.2.Regular := by
  obtain ⟨follows, -, written⟩ := updateReport_effect regular.undisturbed
  refine regular.of_follows follows ?_
  rcases written with same | writes
  · rw [same]
    exact regular.named
  · exact (Changes.report writes (.none _)).isNamed regular.proper regular.named

theorem Regular.perform (regular : session.Regular) {operation : Operation}
    (proper : operation.IsProper) : (session.perform operation).2.Regular := by
  obtain ⟨undisturbed, roots, changes⟩ := perform_leaves regular.undisturbed operation
  have properRoots : ∀ root ∈ (session.perform operation).2.workspace.roots,
      root.IsProper := by
    rcases roots with same | ⟨given, asked, taken⟩
    · rw [same]
      exact regular.proper
    · rw [taken]
      exact Path.isProper_of_mem_map (proper given asked)
  refine ⟨undisturbed, ?_, properRoots, changes.isNamed properRoots regular.named⟩
  rcases roots with same | ⟨given, -, taken⟩
  · rw [same]
    exact regular.rooted
  · rw [taken]
    exact Path.resolve_of_mem_map

/-- The states of a session over a file system: it is started, carries out operations and
updates its report, and others change the files in between. -/
inductive Reached : Session → Prop
  | start (parse : Parser) (config : RuleConfig) {roots : List Path} {settings : Settings}
      {workspace : Workspace} {files : FileTree} :
      Workspace.ofRoots roots settings = .ok workspace →
      (∀ root ∈ roots, root.IsProper) → files.IsNamed →
        Reached (.start parse config workspace files)
  | edit {session : Session} {files : FileTree} :
      Reached session → files.IsNamed → Reached { session with files }
  | perform {session : Session} {operation : Operation} :
      Reached session → operation.IsProper →
        Reached (session.perform operation).2
  | update {session : Session} : Reached session → Reached session.updateReport.2

theorem Reached.regular (reached : session.Reached) : session.Regular := by
  induction reached with
  | start parse config opened proper named =>
      refine ⟨rfl, Workspace.rooted_of_ofRoots opened, ?_, named⟩
      rw [Workspace.eq_of_ofRoots opened]
      exact Path.isProper_of_mem_map proper
  | edit _ named regular =>
      exact ⟨regular.undisturbed, regular.rooted, regular.proper, named⟩
  | perform _ proper regular => exact regular.perform proper
  | update _ regular => exact regular.updateReport

end Session

end ScriptLint
