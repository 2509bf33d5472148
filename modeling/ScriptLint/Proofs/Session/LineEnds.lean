import ScriptLint.Proofs.Engine.Lint
import ScriptLint.Proofs.Fix
import ScriptLint.Proofs.Session.Changes
import ScriptLint.Proofs.Workspace.Enumeration

/-!
# Line ends of rewritten files

Files are read with all line ends made line feeds and are written as they are.
Rewriting a file with its fixed text therefore changes nothing but the ranges of the
applied fixes exactly if no carriage return lies outside of them.
-/

namespace ScriptLint

theorem applyAll_of_lintText {parse : Parser} {book : RuleBook} {config : RuleConfig}
    {path : String} {text fixed : List Char} {result : LintResult}
    (linted : lintText parse book config path text = .ok result)
    (output : result.output = some fixed) :
    Fix.applyAll text (result.messages.filterMap (·.fix)) = some fixed := by
  obtain ⟨-, checked⟩ := lintText_eq_ok_iff.mp linted
  cases problem : (Source.ofText parse (Path.ofString path) text).problem? with
  | some found =>
      simp only [Source.lint, problem, Except.ok.injEq] at checked
      simp [← checked] at output
  | none =>
      obtain ⟨emitted, -, rfl⟩ := (Source.lint_eq_ok_iff problem).mp checked
      have whole : (Source.ofText parse (Path.ofString path) text).text = text := by
        unfold Source.ofText
        split
        · rfl
        · rfl
      rw [whole] at output ⊢
      exact output

theorem fixed_of_lintText {parse : Parser} {book : RuleBook} {config : RuleConfig}
    {path : String} {text fixed : List Char} {result : LintResult}
    (linted : lintText parse book config path text = .ok result)
    (output : result.output = some fixed) :
    fixed = Fix.replaceFrom text 0
      (Fix.applied (result.messages.filterMap (·.fix))) :=
  Fix.of_applyAll_eq_some (applyAll_of_lintText linted output)

namespace Session

/-- The text of the file at a place is fixed to another. -/
def FixesText (session : Session) (place : List String) (raw : List Char)
    (result : LintResult) (fixed : List Char) : Prop :=
  lintText session.parse RuleBook.standard session.config (Path.toString ⟨"/", place⟩)
      (Text.unifyBreaks raw) = .ok result ∧
    result.output = some fixed

section Content

variable {session : Session} {place : List String} {bytes : List UInt8} {mode : Nat}
  {raw : List Char} {before after : FileTree}

theorem find_of_fixesAt {path : Path} (fixes : session.FixesAt path before after)
    (held : before.find place = .ok (.file bytes mode))
    (valid : Utf8.decode bytes = .ok raw) :
    path.resolve.names ≠ place ∧ after.find place = .ok (.file bytes mode) ∨
      path.resolve.names = place ∧ ∃ result fixed,
        session.FixesText place raw result fixed ∧
          after.find place = .ok (.file (Utf8.encode fixed) mode) := by
  by_cases here : path.resolve.names = place
  · obtain ⟨own, ownMode, ownRaw, result, fixed, there, decoded, linted, output, rfl⟩ := fixes
    subst here
    obtain ⟨rfl, rfl⟩ : bytes = own ∧ mode = ownMode := by
      simpa [held] using there
    obtain rfl : raw = ownRaw := by simpa [valid] using decoded
    exact Or.inr ⟨rfl, result, fixed, ⟨linted, output⟩, FileTree.find_put_self _ held⟩
  · exact Or.inl ⟨here, fixes.keeps.file (Ne.symm here) held⟩

/-- A scan that comes to each place once rewrites a file at most once. -/
theorem find_of_scans {paths : List Path} (scans : session.Scans paths before after)
    (held : before.find place = .ok (.file bytes mode))
    (valid : Utf8.decode bytes = .ok raw)
    (distinct : (paths.map fun path => path.resolve.names).Nodup) :
    after.find place = .ok (.file bytes mode) ∨
      ∃ result fixed, session.FixesText place raw result fixed ∧
        after.find place = .ok (.file (Utf8.encode fixed) mode) := by
  induction scans with
  | stop paths files => exact Or.inl held
  | pass _ induction => exact induction held (List.nodup_cons.mp distinct).2
  | fix fixes onward induction =>
      obtain ⟨elsewhere, distinctRest⟩ := List.nodup_cons.mp distinct
      rcases find_of_fixesAt fixes held valid with ⟨-, same⟩ | ⟨rfl, result, fixed, text, there⟩
      · exact induction same distinctRest
      · exact Or.inr ⟨result, fixed, text, onward.keeps.file elsewhere there⟩

theorem find_of_analyses {path : Path} {updatesReport : Bool}
    (analyses : session.Analyses path updatesReport before after)
    (held : before.find place = .ok (.file bytes mode))
    (valid : Utf8.decode bytes = .ok raw)
    (apart : ∀ report, session.workspace.reportPath? = some report →
      report.resolve.names ≠ place) :
    after.find place = .ok (.file bytes mode) ∨
      ∃ result fixed, session.FixesText place raw result fixed ∧
        after.find place = .ok (.file (Utf8.encode fixed) mode) := by
  obtain ⟨middle, fixing, writing⟩ := analyses
  have inMiddle : middle.find place = .ok (.file bytes mode) ∨
      ∃ result fixed, session.FixesText place raw result fixed ∧
        middle.find place = .ok (.file (Utf8.encode fixed) mode) := by
    rcases fixing with rfl | fixes
    · exact Or.inl held
    · rcases find_of_fixesAt fixes held valid with ⟨-, same⟩ | ⟨-, rewritten⟩
      · exact Or.inl same
      · exact Or.inr rewritten
  rcases writing with rfl | ⟨-, report, written, kept, rfl⟩
  · exact inMiddle
  · have keeps := FileTree.keeps_replaceFile middle report written
    rcases inMiddle with same | ⟨result, fixed, text, there⟩
    · exact Or.inl (keeps.file (Ne.symm (apart report kept)) same)
    · exact Or.inr ⟨result, fixed, text, keeps.file (Ne.symm (apart report kept)) there⟩

end Content

theorem find_analyzeFile_of_output {session : Session} {path : Path}
    {document : Document} {result : LintResult} {fixed : List Char}
    (quiet : session.interruptions = []) (active : session.cancelled = false)
    (opened : Document.open session.files path = .ok document)
    (known : document.language.isNone = false)
    (checked : session.lintResult path.resolve.toString document.text = .ok result)
    (reported : result.messages ≠ []) (output : result.output = some fixed)
    {bytes : List UInt8} {mode : Nat}
    (held : session.files.find path.resolve.names = .ok (.file bytes mode))
    (apart : ∀ report, session.workspace.reportPath? = some report →
      report.resolve.names ≠ path.resolve.names) :
    (session.analyzeFile path).2.files.find path.resolve.names =
      .ok (.file (Utf8.encode fixed) mode) := by
  obtain ⟨-, located, -, read⟩ := open_eq_ok_iff.mp opened
  have nonempty : (Diagnostic.ofResult path.resolve.toString result).isEmpty = false := by
    simpa [Diagnostic.ofResult] using reported
  have readCounted : session.counted.files.readText document.path = .ok document.text :=
    located ▸ read
  have follows := (concluded_follows session.counted document result).trans
    (rests_counted session).toFollows
  have rewritten : (session.counted.concluded document result).files.find
      path.resolve.names = .ok (.file (Utf8.encode fixed) mode) := by
    have readStored : (session.counted.storing path.resolve.toString result).files.readText
        path.resolve = .ok document.text := read
    obtain ⟨own, ownMode, raw, there, -, -, written⟩ :=
      files_withOutput_some readStored fixed
    obtain ⟨rfl, rfl⟩ : bytes = own ∧ mode = ownMode := by
      simpa [held] using held.symm.trans there
    rw [concluded, located, output, written]
    exact FileTree.find_put_self _ held
  have outcome : (session.analyzeFile path).2.files =
      (session.counted.concluded document result).updateReport.2.files := by
    rw [analyzeFile, if_neg (by simp [active]), opened]
    dsimp only
    rw [analyze_of_active quiet active known, (noticeFailure_rests _).files, located,
      checked]
    dsimp only
    rw [conclude_of_readText readCounted, located]
    dsimp only
    rw [if_neg (by simp [nonempty]), if_pos rfl]
    split
    · rename_i ended
      rw [ended]
    · rename_i ended
      rw [ended]
  -- The report is updated last and lies elsewhere.
  generalize session.counted.concluded document result = after at follows rewritten outcome
  obtain ⟨-, -, same | ⟨report, written, kept, replaced⟩⟩ :=
    updateReport_effect (follows.undisturbed quiet)
  · rw [outcome, same, rewritten]
  · rw [outcome, replaced]
    exact (FileTree.keeps_replaceFile after.files report written).file
      (Ne.symm (apart report (follows.workspace ▸ kept))) rewritten

/-- A file other than the report is rewritten by an analysis or a scan only with its
fixed text.  That is the text of the file with nothing but the ranges of the applied
fixes replaced exactly if no carriage return lies outside of these ranges. -/
theorem rewritten_keeps_rest_iff {session : Session} {place : List String}
    {bytes : List UInt8} {mode : Nat} {raw : List Char} {after : FileTree}
    (undisturbed : session.interruptions = [])
    (rooted : ∀ root ∈ session.workspace.roots, root.resolve = root)
    (ordinary : session.files.isOrdinary = true)
    (held : session.files.find place = .ok (.file bytes mode))
    (valid : Utf8.decode bytes = .ok raw)
    (apart : ∀ report, session.workspace.reportPath? = some report →
      report.resolve.names ≠ place)
    (ran : after = session.scan.2.files ∨
      ∃ path, after = (session.analyzeFile path).2.files) :
    after.find place = .ok (.file bytes mode) ∨
      ∃ result fixed, session.FixesText place raw result fixed ∧
        after.find place = .ok (.file (Utf8.encode fixed) mode) ∧
        (fixed = Fix.replaceFrom raw 0
            ((Fix.applied (result.messages.filterMap (·.fix))).map
              (Fix.beforeReading raw)) ↔
          '\r' ∉ Fix.outsideFrom raw 0
            ((Fix.applied (result.messages.filterMap (·.fix))).map
              (Fix.beforeReading raw))) := by
  have outcome : after.find place = .ok (.file bytes mode) ∨
      ∃ result fixed, session.FixesText place raw result fixed ∧
        after.find place = .ok (.file (Utf8.encode fixed) mode) := by
    rcases ran with rfl | ⟨path, rfl⟩
    · unfold scan
      split
      · exact Or.inl held
      · rename_i paths listed
        exact find_of_scans (scanFiles_effect undisturbed paths).2 held valid
          (Workspace.nodup_places_files ordinary rooted listed)
    · exact find_of_analyses (analyzeFile_effect undisturbed path).2 held valid apart
  rcases outcome with same | ⟨result, fixed, text, there⟩
  · exact Or.inl same
  · refine Or.inr ⟨result, fixed, text, there, ?_⟩
    rw [fixed_of_lintText text.1 text.2]
    exact Fix.replaceFrom_unifyBreaks_eq_iff raw _

def quotedProgram : Node :=
  ⟨"program", true, false, false, 0, 3, none,
    [⟨"expression_statement", true, false, false, 0, 2, none,
      [⟨"string", true, false, false, 0, 2, none, []⟩]⟩]⟩

/-- The program in double quotes on a line that ends in two characters. -/
def quotedLine : List Char :=
  ['"', '"', '\r', '\n']

/-- A session over a file with this line that asks for single quotes. -/
def quotedSession : Session :=
  .start (fun _ _ => quotedProgram)
    [("quotes", ⟨.text "warn", [("style", .text "single")]⟩)]
    ⟨[⟨"/", ["tmp", "lintsync"]⟩], {}⟩
    (.folder 0o755 [("tmp", .folder 0o755 [("lintsync", .folder 0o755
      [("a.js", .file (Utf8.encode quotedLine) 0o644)])])])

def quotedPath : Path :=
  ⟨"/", ["tmp", "lintsync", "a.js"]⟩

theorem apart_quotedSession (report : Path)
    (kept : quotedSession.workspace.reportPath? = some report) :
    report.resolve.names ≠ quotedPath.names := by
  have known : quotedSession.workspace.reportPath? =
      some ⟨"/", ["tmp", "lintsync", "lint-report", "eslint-report.txt"]⟩ := by
    decide +kernel
  obtain rfl := Option.some.inj (known.symm.trans kept)
  decide +kernel

theorem rewritten_keeps_rest_iff_quotedSession :
    (quotedSession.analyzeFile quotedPath).2.files.find quotedPath.names =
        .ok (.file (Utf8.encode quotedLine) 0o644) ∨
      ∃ result fixed, quotedSession.FixesText quotedPath.names quotedLine result fixed ∧
        (quotedSession.analyzeFile quotedPath).2.files.find quotedPath.names =
          .ok (.file (Utf8.encode fixed) 0o644) ∧
        (fixed = Fix.replaceFrom quotedLine 0
            ((Fix.applied (result.messages.filterMap (·.fix))).map
              (Fix.beforeReading quotedLine)) ↔
          '\r' ∉ Fix.outsideFrom quotedLine 0
            ((Fix.applied (result.messages.filterMap (·.fix))).map
              (Fix.beforeReading quotedLine))) := by
  have rooted : ∀ root ∈ quotedSession.workspace.roots, root.resolve = root := by decide
  exact rewritten_keeps_rest_iff rfl rooted (by decide +kernel) rfl
    (Utf8.decode_encode quotedLine) apart_quotedSession (Or.inr ⟨quotedPath, rfl⟩)

theorem open_quotedPath :
    Document.open quotedSession.files quotedPath =
      .ok ⟨quotedPath, some .javascript, ['"', '"', '\n']⟩ := by
  have language : quotedPath.language? = some .javascript := by decide +kernel
  refine open_eq_ok_iff.mpr ⟨rfl, rfl, language.symm, FileTree.readText_eq_ok_iff.mpr ?_⟩
  exact ⟨_, 0o644, quotedLine, rfl, Utf8.decode_encode quotedLine, rfl⟩

theorem lintText_quotedSession : ∃ message,
    lintText quotedSession.parse RuleBook.standard quotedSession.config "/tmp/lintsync/a.js"
      ['"', '"', '\n'] = .ok ⟨[message], some ['\'', '\'', '\n']⟩ ∧
    message.fix = some ⟨0, 2, ['\'', '\'']⟩ := by
  generalize sourced : Source.ofText quotedSession.parse (Path.ofString "/tmp/lintsync/a.js")
    ['"', '"', '\n'] = source
  have clean : source.problem? = none := by rw [← sourced]; rfl
  obtain ⟨message, ran, fix⟩ : ∃ message,
      Pass.run (quotedSession.config.activate RuleBook.standard source) source.root =
        .ok [message] ∧ message.fix = some ⟨0, 2, ['\'', '\'']⟩ := by
    have single : Quotes.convert ['"', '"'] ['\''] = ['\'', '\''] := by
      simp [Quotes.convert, Quotes.pieces]
    have root : source.root = quotedProgram := by rw [← sourced]; rfl
    rw [root, Pass.run]
    simp only [Visit.ofRoot, Visit.run, quotedProgram, Place.namedChildren,
      Place.children, Place.childrenFrom, Place.ofRoot, List.filter_cons,
      List.filter_nil, if_true, List.map_cons, List.map_nil, List.cons_append,
      List.nil_append]
    rw [← sourced]
    refine ⟨_, rfl, ?_⟩
    change some (⟨0, 2, Quotes.convert ['"', '"'] ['\'']⟩ : Fix) = _
    rw [single]
  refine ⟨message, lintText_eq_ok_iff.mpr ⟨rfl, ?_⟩, fix⟩
  rw [sourced]
  refine (Source.lint_eq_ok_iff clean).mpr ⟨_, ran, ?_⟩
  have whole : source.text = ['"', '"', '\n'] := by rw [← sourced]; rfl
  rw [whole, LintResult.ofMessages]
  simp only [Message.inOrder, List.mergeSort_singleton, List.filterMap_cons, fix,
    List.filterMap_nil, Fix.applyAll, Fix.inOrder]
  rfl

theorem toString_quotedPath : quotedPath.toString = "/tmp/lintsync/a.js" := by
  decide +kernel

theorem ignores_quotedPath :
    IgnoreRules.ignores ⟨⟨"/", ["tmp", "lintsync"]⟩, [.packages]⟩
      (Path.ofString "/tmp/lintsync/a.js") = false := by
  decide +kernel

theorem lintResult_quotedSession : ∃ message,
    quotedSession.lintResult "/tmp/lintsync/a.js" ['"', '"', '\n'] =
      .ok ⟨[message], some ['\'', '\'', '\n']⟩ ∧
    message.fix = some ⟨0, 2, ['\'', '\'']⟩ := by
  obtain ⟨message, linted, fix⟩ := lintText_quotedSession
  refine ⟨message, ?_, fix⟩
  have ignoring : quotedSession.ignoreRules =
      .ok (some ⟨⟨"/", ["tmp", "lintsync"]⟩, [.packages]⟩) :=
    ignoreRules_of_absent rfl rfl
  rw [lintResult_of_seen ignoring rfl ignores_quotedPath, linted]
  rfl

/-- The line is rewritten without its carriage return, although that lies outside of
the fix. -/
theorem rewritten_drops_return :
    quotedSession.files.find quotedPath.names =
        .ok (.file (Utf8.encode quotedLine) 0o644) ∧
      ∃ result, quotedSession.FixesText quotedPath.names quotedLine result
          ['\'', '\'', '\n'] ∧
        (quotedSession.analyzeFile quotedPath).2.files.find quotedPath.names =
          .ok (.file (Utf8.encode ['\'', '\'', '\n']) 0o644) ∧
        Fix.replaceFrom quotedLine 0
            ((Fix.applied (result.messages.filterMap (·.fix))).map
              (Fix.beforeReading quotedLine)) =
          ['\'', '\'', '\r', '\n'] := by
  obtain ⟨message, checked, fix⟩ := lintResult_quotedSession
  refine ⟨rfl, _, ⟨lintText_of_lintResult checked rfl, rfl⟩, ?_, ?_⟩
  · exact find_analyzeFile_of_output rfl rfl open_quotedPath rfl checked
      (List.cons_ne_nil _ _) rfl rfl apart_quotedSession
  · simp only [List.filterMap_cons, fix, List.filterMap_nil, Fix.applied, Fix.inOrder,
      List.mergeSort_singleton]
    rfl

end Session

end ScriptLint
