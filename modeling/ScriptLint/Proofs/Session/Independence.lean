import ScriptLint.Proofs.Engine.Lint
import ScriptLint.Proofs.Session.Findings
import ScriptLint.Proofs.Session.Reached
import ScriptLint.Proofs.Workspace.Enumeration

/-!
# Independent analyses

No fix or failure in one file has an influence on what is found in another one.  A scan
therefore returns and stores what the analyses of its files find one by one.  A file that
was read can also be rewritten, as file trees refuse no access, so no fix fails in a scan.
-/

namespace ScriptLint

theorem eq_ok_of_toOption {ε α : Type} {outcome : Except ε α} {value : α}
    (given : outcome.toOption = some value) : outcome = .ok value := by
  cases outcome with
  | error failure => simp [Except.toOption] at given
  | ok own => simpa [Except.toOption] using given

namespace Session

variable {session later : Session} {path : Path} {paths : List Path}

section Rewriting

theorem analyze_rewritesOnly {document : Document} (quiet : session.interruptions = [])
    (opened : Document.open session.files path = .ok document) :
    session.RewritesOnly [path] (session.analyze document false).2 := by
  obtain ⟨follows, middle, fixing, written⟩ := analyze_effect quiet opened false
  obtain rfl : (session.analyze document false).2.files = middle := by
    simpa using written
  rcases fixing with same | fixes
  · exact ⟨follows, by rw [same], by rw [same]; exact .refl _⟩
  · refine ⟨follows, fixes.outline, fixes.keeps.mono ?_⟩
    rintro place rfl
    exact List.mem_singleton.mpr rfl

theorem RewritesOnly.refusesReport_iff (rewrites : session.RewritesOnly paths later) :
    later.RefusesReport ↔ session.RefusesReport := by
  unfold RefusesReport
  simp only [rewrites.workspace, FileTree.makeFolders_fst_congr rewrites.outline]

theorem RewritesOnly.files_eq (rewrites : session.RewritesOnly paths later) :
    later.workspace.files later.files = session.workspace.files session.files := by
  rw [rewrites.workspace, Workspace.files_congr rewrites.outline]

end Rewriting

section Enumerated

variable (regular : session.Regular)
  (listed : session.workspace.files session.files = .ok paths)
  (apart : ∀ ignore, session.workspace.ignorePath? = some ignore → ignore.resolve ∉ paths)

include regular listed apart

theorem notMem_visited_places {visited : List Path} (included : visited ⊆ paths) :
    ∀ ignore, session.workspace.ignorePath? = some ignore →
      ignore.resolve.names ∉ visited.map fun path => path.resolve.names := by
  intro ignore kept member
  obtain ⟨path, inVisited, same⟩ := List.mem_map.mp member
  have resolved := regular.resolved listed path (included inVisited)
  apply apart ignore kept
  have here : ignore.resolve = path := by
    rw [← resolved]
    exact congrArg (Path.mk "/") same.symm
  rw [here]
  exact included inVisited

theorem not_scanEscapes (wellFormed : ¬session.RefusesIgnoreFile) :
    ¬session.ScanEscapes paths := by
  rintro ⟨-, before, path, visited, document, -, -, refuses⟩
  have included : before ⊆ paths :=
    List.Subset.trans (List.prefix_append before [path]).subset visited.subset
  have rewrites := scanFiles_rewritesOnly regular.undisturbed before
  exact wellFormed ((rewrites.refusesIgnoreFile_iff
    (notMem_visited_places regular listed apart included)).mp refuses)

/-- A scan returns what was there to be found before it and records that. -/
theorem scan_eq_findings (active : session.cancelled = false)
    (wellFormed : ¬session.RefusesIgnoreFile) :
    session.scan.1 = .ok (paths.flatMap session.findings) ∧
      session.scan.2.store = session.store.recordAll
        (paths.map fun path => (path.toString, session.findings? path)) := by
  have escapes := scanFiles_escapesIf regular.undisturbed paths
  have found := foundBy_eq_map regular.undisturbed
    (Workspace.nodup_places_files regular.named.isOrdinary regular.rooted listed)
    (notMem_visited_places regular listed apart (List.Subset.refl paths))
  rw [scan, listed]
  dsimp only
  cases ended : session.scanFiles paths with
  | mk outcome after =>
      rw [ended] at escapes
      cases outcome with
      | error failure =>
          exact absurd escapes.of_error.2 (not_scanEscapes regular listed apart wellFormed)
      | ok diagnostics =>
          obtain ⟨returned, stored⟩ := of_scanFiles regular.undisturbed active
            (regular.resolved listed) ended
          rw [found] at returned stored
          refine ⟨?_, stored⟩
          rw [returned, List.flatMap_map]
          refine congrArg Except.ok (List.flatMap_congr fun path _ => ?_)
          rw [findings]

end Enumerated

section Saving

theorem not_checkEscapes (free : ∀ path ∈ paths, path.holdsNull = false)
    (wellFormed : ¬session.RefusesIgnoreFile) : ¬∃ path ∈ paths, session.CheckEscapes path := by
  rintro ⟨path, member, null | ⟨refuses, -⟩⟩
  · simp [free path member] at null
  · exact wellFormed refuses

theorem updateEscapes_iff (listed : session.workspace.files session.files = .ok paths)
    (free : ∀ path ∈ paths, path.holdsNull = false)
    (wellFormed : ¬session.RefusesIgnoreFile) :
    session.UpdateEscapes ↔ session.RefusesReport := by
  unfold UpdateEscapes
  simp only [listed, Except.ok.injEq, exists_eq_left', not_checkEscapes free wellFormed,
    false_or]
  refine and_iff_right_of_imp ?_
  rintro ⟨report, kept, -⟩ none
  simp [none] at kept

theorem exists_open_of_findings (resolved : path.resolve = path)
    (found : session.findings path ≠ []) :
    ∃ document, Document.open session.files path = .ok document ∧
      document.language.isNone = false := by
  cases opened : Document.open session.files path with
  | error error =>
      rw [findings, findings?_of_unopened resolved opened] at found
      exact absurd rfl found
  | ok document =>
      refine ⟨document, rfl, Bool.eq_false_iff.mpr fun unknown => ?_⟩
      obtain ⟨-, -, language, -⟩ := open_eq_ok_iff.mp opened
      rw [language, resolved] at unknown
      rw [findings, findings?_of_language unknown] at found
      exact absurd rfl found

variable (regular : session.Regular)
  (listed : session.workspace.files session.files = .ok paths)
  (apart : ∀ ignore, session.workspace.ignorePath? = some ignore → ignore.resolve ∉ paths)
  (active : session.cancelled = false) (wellFormed : ¬session.RefusesIgnoreFile)

include regular listed apart active wellFormed

theorem updateAfterEscapes_iff_refusesReport {document : Document} (member : path ∈ paths)
    (opened : Document.open session.files path = .ok document) :
    session.UpdateAfterEscapes document ↔
      session.findings path ≠ [] ∧ session.RefusesReport := by
  have quiet := regular.undisturbed
  have resolved := regular.resolved listed path member
  have rewrites := analyze_rewritesOnly quiet opened
  have visited : [path] ⊆ paths := List.cons_subset.mpr ⟨member, List.nil_subset paths⟩
  have escapes := analyze_escapesIf quiet active opened false
  cases ended : session.analyze document false with
  | mk outcome after =>
      rw [ended] at rewrites escapes
      cases outcome with
      | error failure =>
          obtain ⟨-, -, refuses | ⟨updates, -⟩⟩ := escapes.of_error
          · exact absurd refuses wellFormed
          · simp at updates
      | ok diagnostics =>
          obtain ⟨found, -⟩ := of_analyze quiet active resolved opened ended
          have wellFormedAfter : ¬after.RefusesIgnoreFile := by
            rw [rewrites.refusesIgnoreFile_iff
              (notMem_visited_places regular listed apart visited)]
            exact wellFormed
          have updating := updateEscapes_iff (rewrites.files_eq.trans listed)
            (fun path member => Workspace.free_of_mem_files regular.named regular.rooted
              listed member) wellFormedAfter
          rw [rewrites.refusesReport_iff] at updating
          rw [UpdateAfterEscapes, ended, ← updating, ← found]
          simp

theorem fileEscapes_iff (member : path ∈ paths) :
    session.FileEscapes path ↔ session.findings path ≠ [] ∧ session.RefusesReport := by
  have resolved := regular.resolved listed path member
  have free := Workspace.free_of_mem_files regular.named regular.rooted listed member
  constructor
  · rintro ⟨-, null | ⟨document, opened, -, refuses | ⟨-, updating⟩⟩⟩
    · simp [free] at null
    · exact absurd refuses wellFormed
    · exact (updateAfterEscapes_iff_refusesReport regular listed apart active wellFormed
        member opened).mp updating
  · rintro ⟨found, refused⟩
    obtain ⟨document, opened, known⟩ := exists_open_of_findings resolved found
    refine ⟨active, Or.inr ⟨document, opened, known, Or.inr ⟨rfl, ?_⟩⟩⟩
    exact (updateAfterEscapes_iff_refusesReport regular listed apart active wellFormed
      member opened).mpr ⟨found, refused⟩

theorem analyzeFile_eq_findings_iff (member : path ∈ paths) :
    (session.analyzeFile path).1 = .ok (session.findings path) ↔
      session.findings path = [] ∨ ¬session.RefusesReport := by
  have resolved := regular.resolved listed path member
  have escapes := (analyzeFile_escapesIf regular.undisturbed path).congr
    (fileEscapes_iff regular listed apart active wellFormed member)
  cases outcome : (session.analyzeFile path).1 with
  | error failure =>
      rw [outcome] at escapes
      obtain ⟨-, found, refused⟩ := escapes.of_error
      simp [found, refused]
  | ok diagnostics =>
      have returned := of_analyzeFile regular.undisturbed active resolved outcome
      rw [outcome] at escapes
      rw [returned]
      exact iff_of_true rfl
        (Classical.or_iff_not_imp_left.mpr fun found refused => escapes.of_ok ⟨found, refused⟩)

end Saving

/-- A scan returns and stores what the analyses of the enumerated files find in the state
before it.  So does saving one of the files, unless something is found in it and the path
of the report is refused. -/
theorem scan_eq_flatMap_findings (regular : session.Regular)
    (active : session.cancelled = false)
    (listed : session.workspace.files session.files = .ok paths)
    (wellFormed : ¬session.RefusesIgnoreFile)
    (apart : ∀ ignore, session.workspace.ignorePath? = some ignore →
      ignore.resolve ∉ paths) :
    session.scan.1 = .ok (paths.flatMap session.findings) ∧
      (∀ path ∈ paths, ∀ diagnostics, session.findings? path = some diagnostics →
        getNamed? session.scan.2.store.entries path.toString = some diagnostics) ∧
      (∀ text, (∀ path ∈ paths, path.toString = text → session.findings? path = none) →
        getNamed? session.scan.2.store.entries text =
          getNamed? session.store.entries text) ∧
      ∀ path ∈ paths, ((session.analyzeFile path).1 = .ok (session.findings path) ↔
        session.findings path = [] ∨ ¬session.RefusesReport) := by
  obtain ⟨returned, stored⟩ := scan_eq_findings regular listed apart active wellFormed
  refine ⟨returned, ?_, ?_, ?_⟩
  · intro path member diagnostics found
    rw [stored]
    apply Store.getNamed?_recordAll_of_mem
    · rw [List.map_map]
      exact Workspace.nodup_texts_files regular.named regular.rooted listed
    · exact List.mem_map.mpr ⟨path, member, by rw [found]⟩
  · intro text nothing
    rw [stored]
    apply Store.getNamed?_recordAll_of_absent
    intro diagnostics member
    obtain ⟨path, listedPath, same⟩ := List.mem_map.mp member
    obtain ⟨here, found⟩ := Prod.mk.inj same
    simp [nothing path listedPath here] at found
  · intro path member
    exact analyzeFile_eq_findings_iff regular listed apart active wellFormed member

section Samples

def projectPath (names : List String) : Path :=
  ⟨"/", "tmp" :: "lintsync" :: names⟩

def projectFiles (held : List (String × FileTree)) : FileTree :=
  .folder 0o755 [("tmp", .folder 0o755 [("lintsync", .folder 0o755 held)])]

theorem isNamed_projectFiles {held : List (String × FileTree)}
    (named : ∀ entry ∈ held, FileTree.IsFileName entry.1)
    (below : ∀ entry ∈ held, entry.2.IsNamed) : (projectFiles held).IsNamed :=
  .singleton _ (by decide) (.singleton _ (by decide) (.folder _ _ named below))

theorem regular_of_project {held : List (String × FileTree)}
    (quiet : session.interruptions = []) (roots : session.workspace.roots = [projectPath []])
    (files : session.files = projectFiles held) (named : (projectFiles held).IsNamed) :
    session.Regular := by
  refine ⟨quiet, ?_, ?_, files ▸ named⟩
  · rw [roots]
    decide
  · rw [roots]
    intro root member
    obtain rfl := List.mem_singleton.mp member
    intro folder inRoot
    revert folder
    decide

/-- A program that is nothing but an error. -/
def brokenProgram : Node :=
  ⟨"program", true, false, true, 0, 1, none,
    [⟨"ERROR", true, false, true, 0, 1, none, []⟩]⟩

def stringProgram (quote : String) : Node :=
  ⟨"program", true, false, false, 0, 3, none,
    [⟨"expression_statement", true, false, false, 0, 2, none,
      [⟨"string", true, false, false, 0, 2, none,
        [⟨quote, false, false, false, 0, 1, none, []⟩,
          ⟨quote, false, false, false, 1, 2, none, []⟩]⟩]⟩]⟩

/-- Takes an empty string for a program and everything else for an error. -/
def parseQuoted : Parser := fun _ text =>
  if text = "\"\"\n".toList then stringProgram "\""
  else if text = "''\n".toList then stringProgram "'"
  else brokenProgram

def brokenFile : FileTree :=
  .file (Utf8.encode ['(']) 0o644

def quotedFile : FileTree :=
  .file (Utf8.encode "\"\"\n".toList) 0o644

def rawFile : FileTree :=
  .file [0xff] 0o644

def brokenNote (path : String) : Diagnostic :=
  ⟨path, 1, 1, 1, 2, "Parsing error: Unexpected token (", .error, none⟩

def quotesNote (path : String) : Diagnostic :=
  ⟨path, 1, 1, 1, 3, "Strings must use singlequote.", .warning, some "quotes"⟩

def singleQuotes : RuleConfig :=
  [("quotes", ⟨.text "warn", [("style", .text "single")]⟩)]

/-- A session over a project that requires single quotes.  It has looked at a file that is
gone and at one that was a text then. -/
def projectSession (held : List (String × FileTree)) : Session :=
  { start parseQuoted singleQuotes ⟨[projectPath []], {}⟩ (projectFiles held) with
    store := ⟨[("/tmp/lintsync/old.js", [brokenNote "/tmp/lintsync/old.js"]),
      ("/tmp/lintsync/b.js", [brokenNote "/tmp/lintsync/b.js"])]⟩ }

/-- Two files to be fixed, one that is no text and one with an error. -/
def mixedFiles : List (String × FileTree) :=
  [("a.js", quotedFile), ("b.js", rawFile),
    ("src", .folder 0o755 [("c.js", brokenFile), ("d.js", quotedFile)])]

def mixedPaths : List Path :=
  [projectPath ["a.js"], projectPath ["b.js"], projectPath ["src", "c.js"],
    projectPath ["src", "d.js"]]

theorem isNamed_sourceFolder :
    (FileTree.folder 0o755 [("c.js", brokenFile), ("d.js", quotedFile)]).IsNamed := by
  refine .folder _ _ (by decide) ?_
  simp only [List.forall_mem_cons, List.not_mem_nil, false_implies, implies_true, and_true]
  exact ⟨.file _ _, .file _ _⟩

theorem regular_mixedSession : (projectSession mixedFiles).Regular := by
  refine regular_of_project rfl rfl rfl (isNamed_projectFiles (by decide) ?_)
  simp only [mixedFiles, List.forall_mem_cons, List.not_mem_nil, false_implies, implies_true,
    and_true]
  exact ⟨.file _ _, .file _ _, isNamed_sourceFolder⟩

theorem listed_mixedSession :
    (projectSession mixedFiles).workspace.files (projectSession mixedFiles).files =
      .ok mixedPaths :=
  (Workspace.files_of_sorted rfl (by decide +kernel)).trans (by decide +kernel)

theorem wellFormed_of_ignoreRules (found : session.ignoreRules.toOption.isSome = true) :
    ¬session.RefusesIgnoreFile := by
  rw [← ignoreRules_fails_iff]
  rintro ⟨failure, failed, -⟩
  simp [failed, Except.toOption] at found

theorem wellFormed_mixedSession : ¬(projectSession mixedFiles).RefusesIgnoreFile :=
  wellFormed_of_ignoreRules (by decide +kernel)

theorem scan_eq_flatMap_findings_mixedSession :
    (projectSession mixedFiles).scan.1 = .ok [quotesNote "/tmp/lintsync/a.js",
        brokenNote "/tmp/lintsync/src/c.js", quotesNote "/tmp/lintsync/src/d.js"] ∧
      getNamed? (projectSession mixedFiles).scan.2.store.entries "/tmp/lintsync/src/d.js" =
        some [quotesNote "/tmp/lintsync/src/d.js"] ∧
      getNamed? (projectSession mixedFiles).scan.2.store.entries "/tmp/lintsync/b.js" =
        some [brokenNote "/tmp/lintsync/b.js"] ∧
      getNamed? (projectSession mixedFiles).scan.2.store.entries "/tmp/lintsync/old.js" =
        some [brokenNote "/tmp/lintsync/old.js"] ∧
      ((projectSession mixedFiles).analyzeFile (projectPath ["src", "d.js"])).1 =
        .ok [quotesNote "/tmp/lintsync/src/d.js"] := by
  have apart : ∀ ignore, (projectSession mixedFiles).workspace.ignorePath? = some ignore →
      ignore.resolve ∉ mixedPaths := by
    intro ignore kept
    obtain rfl : projectPath [".eslintignore"] = ignore := Option.some.inj kept
    decide
  have reports : ¬(projectSession mixedFiles).RefusesReport := by
    rintro ⟨report, kept, null, -⟩
    obtain rfl : projectPath ["lint-report", "eslint-report.txt"] = report :=
      Option.some.inj kept
    revert null
    decide +kernel
  obtain ⟨scanned, stored, untouched, saved⟩ := scan_eq_flatMap_findings regular_mixedSession
    rfl listed_mixedSession wellFormed_mixedSession apart
  have last : projectPath ["src", "d.js"] ∈ mixedPaths := by simp [mixedPaths]
  have found : (projectSession mixedFiles).findings? (projectPath ["src", "d.js"]) =
      some [quotesNote "/tmp/lintsync/src/d.js"] := by decide +kernel
  refine ⟨?_, ?_, ?_, ?_, ?_⟩
  · rw [scanned]
    exact congrArg Except.ok (by decide +kernel)
  · exact stored _ last _ found
  · exact untouched "/tmp/lintsync/b.js" (by decide +kernel)
  · exact untouched "/tmp/lintsync/old.js" (by decide +kernel)
  · rw [(saved _ last).mpr (Or.inr reports), findings, found]
    rfl

/-- A session over one file of this name with an error, without rules. -/
def brokenSession (settings : Settings) (name : String) : Session :=
  .start (fun _ _ => brokenProgram) [] ⟨[projectPath []], settings⟩
    (projectFiles [(name, brokenFile)])

/-- The settings of a report whose name holds a null character. -/
def nullReport : Settings :=
  { reportName := "a\x00b" }

/-- A scan returns what is found in the file, and saving the file fails. -/
theorem saving_fails_nullReport :
    (brokenSession nullReport "a.js").scan.1 = .ok [brokenNote "/tmp/lintsync/a.js"] ∧
      ∃ failure, ((brokenSession nullReport "a.js").analyzeFile (projectPath ["a.js"])).1 =
        .error failure := by
  refine ⟨eq_ok_of_toOption (by decide +kernel), ?_⟩
  have none : ((brokenSession nullReport "a.js").analyzeFile
      (projectPath ["a.js"])).1.toOption = none := by decide +kernel
  cases outcome : ((brokenSession nullReport "a.js").analyzeFile (projectPath ["a.js"])).1 with
  | error failure => exact ⟨failure, rfl⟩
  | ok diagnostics => simp [outcome, Except.toOption] at none

end Samples

end Session

end ScriptLint
