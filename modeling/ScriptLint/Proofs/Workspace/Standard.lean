import ScriptLint.Proofs.Pattern.Glob
import ScriptLint.Proofs.Workspace.Unlisted

/-!
# Default settings

Under the default settings a file is listed by the end of its name, while its language
goes by the suffix of the name.  The two differ for names that are nothing but such an
end.  Neither the report nor its folder is listed, so writing the report changes nothing
that the workspace sees.
-/

namespace ScriptLint

/-- The ends of the names that are accepted by default. -/
def scriptEnds : List String :=
  [".js", ".ts", ".vue"]

section Names

variable {name : String} {path : Path}

theorem acceptsName_default_iff :
    ({} : Settings).acceptsName name = true ↔
      ∃ last ∈ scriptEnds, last.toList <:+ name.toList := by
  have patterns : ({} : Settings).filePatterns.map Glob.ofString =
      scriptEnds.map fun last => ⟨.many :: last.toList.map .char⟩ := by
    decide +kernel
  have accepted : ({} : Settings).acceptsName name =
      (({} : Settings).filePatterns.map Glob.ofString).any (·.accepts name) := by
    rw [List.any_map]
    rfl
  rw [accepted, patterns, List.any_map, List.any_eq_true]
  simp only [Function.comp_apply, Glob.accepts, Glob.matchParts_many_chars_iff]

theorem suffix_of_name {stem letters : List Char}
    (whole : path.name.toList = stem ++ '.' :: letters) (dotless : '.' ∉ letters)
    (nonempty : letters ≠ []) :
    path.suffix = if stem = [] then "" else String.ofList ('.' :: letters.map Char.toLower) := by
  rw [Path.suffix, whole, Path.suffixOfName_append stem dotless nonempty]
  split
  · rfl
  · rfl

private theorem of_mem_scriptEnds {last : String} (member : last ∈ scriptEnds) :
    last.toList = '.' :: last.toList.tail ∧ '.' ∉ last.toList.tail ∧ last.toList.tail ≠ [] ∧
      String.ofList ('.' :: last.toList.tail.map Char.toLower) = last := by
  revert last
  decide

private theorem language?_isNone_of_suffix (member : path.suffix ∈ scriptEnds) :
    path.language?.isNone = false := by
  unfold Path.language?
  generalize path.suffix = suffix at member
  revert suffix
  decide

/-- A file that is listed by default has a language unless its name is nothing but the
end. -/
theorem language?_isNone_iff (accepted : ({} : Settings).acceptsName path.name = true) :
    path.language?.isNone = true ↔ path.name ∈ scriptEnds := by
  constructor
  · intro unknown
    obtain ⟨last, member, stem, whole⟩ := acceptsName_default_iff.mp accepted
    -- Only a dot with something before it starts a suffix.
    cases stem with
    | nil =>
        obtain rfl : last = path.name := String.toList_inj.mp (by simpa using whole)
        exact member
    | cons first rest =>
        exfalso
        obtain ⟨dotted, dotless, nonempty, lower⟩ := of_mem_scriptEnds member
        rw [dotted] at whole
        have suffix := suffix_of_name whole.symm dotless nonempty
        rw [if_neg (List.cons_ne_nil first rest), lower] at suffix
        simp [language?_isNone_of_suffix (suffix ▸ member)] at unknown
  · intro member
    have nothing : path.suffix = "" := by
      rw [Path.suffix]
      revert member
      generalize path.name = name
      revert name
      decide
    rw [Path.language?, nothing]
    rfl

end Names

section Reporting

variable {workspace : Workspace} {files after : FileTree} {paths : List Path} {report : Path}
  {bytes : List UInt8}

theorem unaccepted_default :
    ({} : Settings).acceptsName "eslint-report.txt" = false := by
  decide +kernel

theorem reportPath?_of_default (standard : workspace.settings = {})
    (kept : workspace.reportPath? = some report) :
    ∃ root ∈ workspace.roots, workspace.ignorePath? = some (root.child ".eslintignore") ∧
      report = (root.child "lint-report").child "eslint-report.txt" := by
  unfold Workspace.reportPath? Workspace.reportFolder? Workspace.ignorePath?
    Workspace.primary? at *
  cases first : workspace.roots with
  | nil => simp [first] at kept
  | cons root rest =>
      refine ⟨root, List.mem_cons_self, ?_, ?_⟩
      · rw [standard]
        rfl
      · rw [first, standard] at kept
        exact (Option.some.inj kept).symm

theorem keepsAside_of_default (standard : workspace.settings = {})
    (rooted : ∀ root ∈ workspace.roots, root.resolve = root)
    (listed : workspace.files files = .ok paths) (kept : workspace.reportPath? = some report) :
    workspace.KeepsAside files report := by
  obtain ⟨root, member, ignorePath, rfl⟩ := reportPath?_of_default standard kept
  have resolvedRoot := rooted root member
  have resolvedReport : ((root.child "lint-report").child "eslint-report.txt").resolve =
      (root.child "lint-report").child "eslint-report.txt" :=
    Path.resolve_child (Path.resolve_child resolvedRoot (by decide)) (by decide)
  refine ⟨?_, fun ignore known => ?_, fun ignore known => ?_⟩
  · rintro ⟨accepted, -⟩
    have named : ((root.child "lint-report").child "eslint-report.txt").name =
        "eslint-report.txt" := by
      simp [Path.name, Path.child]
    rw [resolvedReport, named, standard, unaccepted_default] at accepted
    simp at accepted
  · obtain rfl := Option.some.inj (ignorePath.symm.trans known)
    rw [resolvedReport, Path.resolve_child resolvedRoot (by decide)]
    simp [Path.child]
  · -- The ignore file lies in the root, which is there.
    obtain rfl := Option.some.inj (ignorePath.symm.trans known)
    intro part rest whole _
    obtain ⟨mode, entries, reached⟩ := Workspace.folder_of_mem_roots listed member
    obtain ⟨-, -, atRoot⟩ := (FileTree.reach_eq_ok_iff_find resolvedRoot).mp reached
    rcases List.prefix_concat_iff.mp ⟨rest, whole.symm⟩ with all | inside
    · right
      obtain rfl : rest = [] := by simpa [all, Path.child] using whole
      simp [FileTree.LeadOn]
    · left
      have passes : root.Passes (Path.resolveNames part) := ⟨part, inside, rfl⟩
      exact FileTree.exists_find_of_prefix atRoot (passes.of_resolved resolvedRoot)

/-- Where the report is written under the default settings, the workspace sees the same
afterwards. -/
theorem seesSame_replaceFile (standard : workspace.settings = {})
    (rooted : ∀ root ∈ workspace.roots, root.resolve = root)
    (resolved : ∀ path ∈ paths, path.resolve = path)
    (listed : workspace.files files = .ok paths) (kept : workspace.reportPath? = some report)
    (replaced : files.replaceFile report bytes = (none, after)) :
    workspace.SeesSame paths files after := by
  have sees := (keepsAside_of_default standard rooted listed kept).seesSame rooted resolved listed
    bytes
  rwa [replaced] at sees

end Reporting

end ScriptLint
