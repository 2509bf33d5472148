import ScriptLint.Proofs.Files.Contents
import ScriptLint.Proofs.Session.Changes

/-!
# Sessions that were deactivated

A deactivated session is never active again.  Its operations find nothing, keep what is
stored apart from entries they drop when the folders change, and touch no file but the
report.
-/

namespace ScriptLint

namespace Session

variable {session later : Session}

section Files

def ReportsAt (session : Session) (place : List String) : Prop :=
  ∃ report, session.workspace.reportPath? = some report ∧ place = report.resolve.names

/-- A later session has the same files with the same contents, apart from its report. -/
def KeepsFiles (session later : Session) : Prop :=
  ∀ place bytes mode, ¬ later.ReportsAt place →
    (later.files.find place = .ok (.file bytes mode) ↔
      session.files.find place = .ok (.file bytes mode))

theorem keepsFiles_of_eq (same : later.files = session.files) : session.KeepsFiles later := by
  intro place bytes mode _
  rw [same]

theorem WritesReport.keepsFiles (written : session.WritesReport session.files later.files)
    (follows : later.Follows session) : session.KeepsFiles later := by
  obtain ⟨report, bytes, kept, replaced⟩ := written
  intro place own mode elsewhere
  rw [replaced]
  apply FileTree.find_file_replaceFile_iff
  intro here
  exact elsewhere ⟨report, by rw [follows.workspace, kept], here⟩

theorem saveReport_keepsFiles (session : Session) (diagnostics : List Diagnostic) :
    session.KeepsFiles (session.saveReport diagnostics).2 := by
  unfold saveReport
  split
  · exact keepsFiles_of_eq rfl
  · rename_i report kept
    obtain ⟨follows, -, replaced⟩ :=
      writeReport_effect session savingWords report diagnostics
    exact WritesReport.keepsFiles ⟨report, _, kept, replaced⟩ follows

theorem store_saveReport (session : Session) (diagnostics : List Diagnostic) :
    (session.saveReport diagnostics).2.store = session.store := by
  unfold saveReport
  split
  · rfl
  · exact (writeReport_effect session savingWords _ diagnostics).2.1

end Files

section Steps

/-- What an operation does in a session that is not active: it finds nothing, drops stored
diagnostics only where the folders change, and keeps the files. -/
structure Idles (session : Session) (operation : Operation)
    (outcome : Except Failure (List Diagnostic)) (later : Session) : Prop where
  cancelled : later.cancelled = true
  finds : ∀ diagnostics, outcome = .ok diagnostics → diagnostics = []
  store : later.store = session.store ∨ ∃ roots, operation = .foldersChanged roots ∧
    later.store = (session.withFolders roots).prune.store
  files : session.KeepsFiles later

theorem entries_prune_sublist (session : Session) :
    session.prune.store.entries.Sublist session.store.entries := by
  unfold prune
  split
  · exact List.Sublist.refl _
  · exact List.filter_sublist

theorem store_withFolders (session : Session) (roots : Option (List Path)) :
    (session.withFolders roots).store = session.store := by
  cases roots with
  | none => rfl
  | some given => rfl

theorem Idles.entries_sublist {operation : Operation}
    {outcome : Except Failure (List Diagnostic)}
    (idles : session.Idles operation outcome later) :
    later.store.entries.Sublist session.store.entries := by
  rcases idles.store with same | ⟨roots, -, pruned⟩
  · rw [same]
  · rw [pruned, ← store_withFolders session roots]
    exact entries_prune_sublist _

theorem scanFiles_of_cancelled (stopped : session.cancelled = true) (paths : List Path) :
    session.scanFiles paths = (.ok [], session) := by
  cases paths with
  | nil => rfl
  | cons path rest => rw [scanFiles, if_pos stopped]

theorem scan_of_cancelled (stopped : session.cancelled = true) :
    ∃ later, session.scan = (.ok [], later) ∧ later.Rests session := by
  unfold scan
  split
  · exact ⟨_, rfl, rests_notify session _ _⟩
  · exact ⟨session, scanFiles_of_cancelled stopped _, .refl session⟩

/-- A session that is not active saves an empty report when it is started. -/
theorem activate_of_cancelled (stopped : session.cancelled = true) :
    (∀ diagnostics, session.activate.1 = .ok diagnostics → diagnostics = []) ∧
      session.activate.2.Follows session ∧
      session.activate.2.store = session.store ∧
      session.KeepsFiles session.activate.2 := by
  obtain ⟨after, scanned, rests⟩ := scan_of_cancelled stopped
  have follows := (saveReport_follows after []).trans rests.toFollows
  have store := (store_saveReport after []).trans rests.store
  have files : session.KeepsFiles (after.saveReport []).2 := by
    intro place bytes mode elsewhere
    rw [saveReport_keepsFiles after [] place bytes mode elsewhere, rests.files]
  unfold activate
  rw [scanned]
  dsimp only
  cases saved : after.saveReport [] with
  | mk outcome last =>
      rw [saved] at follows store files
      cases outcome with
      | error failure => exact ⟨by simp, follows, store, files⟩
      | ok report => exact ⟨by simp, follows, store, files⟩

theorem analyzeFile_idles (stopped : session.cancelled = true) (operation : Operation)
    (path : Path) :
    session.Idles operation (session.analyzeFile path).1 (session.analyzeFile path).2 := by
  rw [analyzeFile, if_pos stopped]
  exact ⟨stopped, by simp, Or.inl rfl, keepsFiles_of_eq rfl⟩

theorem prune_activate_idles (stopped : session.cancelled = true) (roots : Option (List Path)) :
    session.Idles (.foldersChanged roots) (session.withFolders roots).prune.activate.1
      (session.withFolders roots).prune.activate.2 := by
  have moved : (session.withFolders roots).cancelled = true ∧
      (session.withFolders roots).files = session.files := by
    cases roots with
    | none => exact ⟨stopped, rfl⟩
    | some given => exact ⟨stopped, rfl⟩
  have pruned := (prune_follows (session.withFolders roots)).cancelled.trans moved.1
  obtain ⟨finds, follows, store, files⟩ := activate_of_cancelled pruned
  refine ⟨follows.cancelled.trans pruned, finds, Or.inr ⟨roots, rfl, store⟩, ?_⟩
  intro place bytes mode elsewhere
  rw [files place bytes mode elsewhere, files_prune, moved.2]

theorem changeFolders_idles (stopped : session.cancelled = true) (roots : Option (List Path)) :
    session.Idles (.foldersChanged roots) (session.changeFolders roots).1
      (session.changeFolders roots).2 := by
  have scans := prune_activate_idles stopped roots
  cases roots with
  | none => exact scans
  | some given =>
      rw [changeFolders, Workspace.withRoots]
      rcases Workspace.ofRoots_cases given session.workspace.settings with
        ⟨-, error, failed, -⟩ | ⟨-, resolved⟩
      · rw [failed]
        exact ⟨stopped, by simp, Or.inl rfl, keepsFiles_of_eq rfl⟩
      · rw [resolved]
        exact scans

theorem perform_idles (stopped : session.cancelled = true) (operation : Operation) :
    session.Idles operation (session.perform operation).1 (session.perform operation).2 := by
  cases operation with
  | activate =>
      obtain ⟨finds, follows, store, files⟩ := activate_of_cancelled stopped
      exact ⟨follows.cancelled.trans stopped, finds, Or.inl store, files⟩
  | opened path => exact analyzeFile_idles stopped _ path
  | saved path => exact analyzeFile_idles stopped _ path
  | foldersChanged roots => exact changeFolders_idles stopped roots
  | deactivate => exact ⟨rfl, by simp [perform], Or.inl rfl, keepsFiles_of_eq rfl⟩

end Steps

section Runs

variable {requests : List ((FileTree → FileTree) × Operation)}

theorem performAll_idles (stopped : session.cancelled = true) :
    (session.performAll requests).2.cancelled = true ∧
      (∀ diagnostics, .ok diagnostics ∈ (session.performAll requests).1 → diagnostics = []) ∧
      (session.performAll requests).2.store.entries.Sublist session.store.entries := by
  induction requests generalizing session with
  | nil => exact ⟨stopped, by simp [performAll], List.Sublist.refl _⟩
  | cons request rest induction =>
      obtain ⟨edit, operation⟩ := request
      have edited : (session.editing edit).cancelled = true := stopped
      have step := perform_idles edited operation
      obtain ⟨cancelled, finds, entries⟩ := induction step.cancelled
      refine ⟨cancelled, ?_, entries.trans step.entries_sublist⟩
      intro diagnostics member
      rcases List.mem_cons.mp member with here | further
      · exact step.finds diagnostics here.symm
      · exact finds diagnostics further

/-- Once a session was deactivated, nothing is analysed any more, whatever it is asked for
and whatever others do to the files meanwhile.  The requests find nothing, what is left in
the store was there at the deactivation, and each further request only drops stored
diagnostics, if the folders change, and changes no file but the report. -/
theorem performAll_deactivate_idles (session : Session)
    (requests : List ((FileTree → FileTree) × Operation)) :
    (∀ diagnostics, .ok diagnostics ∈ (session.deactivate.performAll requests).1 →
        diagnostics = []) ∧
      (session.deactivate.performAll requests).2.store.entries.Sublist
        session.store.entries ∧
      ∀ edit operation,
        let now := (session.deactivate.performAll requests).2.editing edit
        now.Idles operation (now.perform operation).1 (now.perform operation).2 := by
  have stopped : session.deactivate.cancelled = true := rfl
  obtain ⟨cancelled, finds, entries⟩ := performAll_idles stopped
  refine ⟨finds, entries, ?_⟩
  intro edit operation now
  have edited : now.cancelled = true := cancelled
  exact perform_idles edited operation

end Runs

end Session

end ScriptLint
