import ScriptLint.Proofs.Workspace.Enumeration
import ScriptLint.Proofs.Workspace.Roots
import ScriptLint.Workspace.Event

/-!
# Events on enumerated files

Enumeration asks of a file that some root leads to it past excluded folders.  The
sorting of events asks this of the first root that the file lies in.
-/

namespace ScriptLint

variable {workspace : Workspace} {files : FileTree} {path : Path} {paths : List Path}

namespace Workspace

/-- No excluded folder lies between a root and a path in it. -/
def Admits (workspace : Workspace) (root path : Path) : Prop :=
  ∃ names, path.below? root = some names ∧
    ∀ name ∈ names.dropLast, workspace.settings.excludes name = false

/-- The root that is asked about a path: the first one that the path lies in. -/
def rootOf? (workspace : Workspace) (path : Path) : Option Path :=
  workspace.roots.find? fun root => (path.below? root).isSome

private theorem below?_eq_bind (workspace : Workspace) (path : Path) :
    workspace.below? path = (workspace.rootOf? path).bind path.below? := by
  unfold below? rootOf?
  induction workspace.roots with
  | nil => rfl
  | cons root rest induction =>
      rw [List.findSome?_cons, List.find?_cons]
      cases held : path.below? root with
      | none => simpa using induction
      | some names => simp [held]

/-- A file is watched if the first root that it lies in leads to it past excluded
folders. -/
theorem watches_iff (outside : workspace.inReportFolder path = false) :
    workspace.watches path = true ↔
      workspace.settings.acceptsName path.name = true ∧
        ∃ root, workspace.rootOf? path = some root ∧ workspace.Admits root path := by
  rw [watches, outside, holds, below?_eq_bind]
  cases first : workspace.rootOf? path with
  | none => simp
  | some root =>
      have held : (path.below? root).isSome = true :=
        List.find?_some (p := fun root => (path.below? root).isSome) first
      obtain ⟨names, below⟩ := Option.isSome_iff_exists.mp held
      simp [Admits, below]

theorem admits_of_mem_files (listed : workspace.files files = .ok paths) (member : path ∈ paths) :
    ∃ root ∈ workspace.roots, workspace.Admits root path := by
  obtain ⟨root, isRoot, mode, entries, -, names, inTree, rfl⟩ := (mem_files_iff listed).mp member
  obtain ⟨found, leads, -, -⟩ := mem_filesIn_iff.mp inTree
  refine ⟨root, isRoot, names, Path.below?_eq_some_iff.mpr rfl, ?_⟩
  intro name onTheWay
  simpa using leads.entered.2 name onTheWay

/-- A file is enumerated if one of the roots leads to it past excluded folders. -/
theorem mem_files_iff_admits {bytes : List UInt8} {mode : Nat}
    (rooted : ∀ root ∈ workspace.roots, root.resolve = root)
    (folders : ∀ root ∈ workspace.roots, files.hasFolder root = .ok true)
    (listed : workspace.files files = .ok paths)
    (there : files.find path.names = .ok (.file bytes mode)) :
    path ∈ paths ↔
      workspace.settings.acceptsName path.name = true ∧
        ∃ root ∈ workspace.roots, workspace.Admits root path := by
  constructor
  · intro member
    exact ⟨name_of_mem_files listed member, admits_of_mem_files listed member⟩
  · rw [mem_files_iff listed]
    rintro ⟨accepted, root, member, names, below, clear⟩
    obtain rfl := Path.below?_eq_some_iff.mp below
    obtain ⟨folderMode, entries, reached⟩ := FileTree.hasFolder_eq_true_iff.mp (folders root member)
    have atRoot := FileTree.find_of_reach reached
    rw [rooted root member] at atRoot
    have inRoot := there
    rw [FileTree.find_append names atRoot] at inRoot
    have nonempty : names ≠ [] := by
      rintro rfl
      simp [FileTree.find] at inRoot
    refine ⟨root, member, folderMode, entries, reached, names, ?_, rfl⟩
    refine mem_filesIn_iff.mpr ⟨_, FileTree.leads_of_find inRoot nonempty ?_, rfl, ?_⟩
    · intro name onTheWay
      simpa using clear name onTheWay
    · rw [← Path.name_append _ _ nonempty]
      exact accepted

private theorem classify_eq (workspace : Workspace) (target : Option Path)
    (noNull : path.holdsNull = false) :
    workspace.classify ⟨.modified, false, path, target⟩ =
        .ok (if workspace.watches path.resolve then some (.saved path.resolve) else none) ∧
      workspace.classify ⟨.created, false, path, target⟩ =
        .ok (if workspace.watches path.resolve then some (.opened path.resolve) else none) := by
  simp [classify, Path.resolved, noNull, bind, Except.bind, pure, Except.pure]

/-- A file is watched if it is enumerated, unless the first root that it lies in excludes
it. -/
theorem watches_iff_mem_files {bytes : List UInt8} {mode : Nat}
    (rooted : ∀ root ∈ workspace.roots, root.resolve = root)
    (folders : ∀ root ∈ workspace.roots, files.hasFolder root = .ok true)
    (listed : workspace.files files = .ok paths)
    (there : files.find path.names = .ok (.file bytes mode))
    (outside : workspace.inReportFolder path = false) :
    workspace.watches path = true ↔ path ∈ paths ∧
      ∀ root, workspace.rootOf? path = some root → workspace.Admits root path := by
  rw [watches_iff outside, mem_files_iff_admits rooted folders listed there]
  constructor
  · rintro ⟨accepted, root, first, admits⟩
    refine ⟨⟨accepted, root, List.mem_of_find?_eq_some first, admits⟩, ?_⟩
    intro other same
    obtain rfl : root = other := by simpa [first] using same
    exact admits
  · rintro ⟨⟨accepted, root, member, names, below, -⟩, allowed⟩
    have held : (workspace.rootOf? path).isSome = true :=
      List.find?_isSome.mpr ⟨root, member, by simp [below]⟩
    obtain ⟨first, found⟩ := Option.isSome_iff_exists.mp held
    exact ⟨accepted, first, found, allowed first found⟩

/-- An event on a file matters if the file is enumerated, unless the first root that it
lies in excludes it. -/
theorem classify_iff_mem_files {roots : List Path} {settings : Settings}
    {bytes : List UInt8} {mode : Nat} (target : Option Path)
    (opened : ofRoots roots settings = .ok workspace)
    (folders : ∀ root ∈ workspace.roots, files.hasFolder root = .ok true)
    (noNull : path.holdsNull = false)
    (there : files.find path.resolve.names = .ok (.file bytes mode))
    (outside : workspace.inReportFolder path.resolve = false) :
    ∃ paths, workspace.files files = .ok paths ∧
      (workspace.classify ⟨.modified, false, path, target⟩ = .ok (some (.saved path.resolve)) ↔
        path.resolve ∈ paths ∧
          ∀ root, workspace.rootOf? path.resolve = some root →
            workspace.Admits root path.resolve) ∧
      (workspace.classify ⟨.created, false, path, target⟩ = .ok (some (.opened path.resolve)) ↔
        path.resolve ∈ paths ∧
          ∀ root, workspace.rootOf? path.resolve = some root →
            workspace.Admits root path.resolve) := by
  obtain ⟨paths, listed⟩ := exists_files fun root member =>
    FileTree.hasFolder_eq_true_iff.mp (folders root member)
  have watched :=
    watches_iff_mem_files (rooted_of_ofRoots opened) folders listed there outside
  obtain ⟨onModified, onCreated⟩ := classify_eq workspace target noNull
  refine ⟨paths, listed, ?_, ?_⟩
  · rw [onModified, ← watched]
    simp
  · rw [onCreated, ← watched]
    simp

section NestedRoots

private def outerFolder : Path := ⟨"/", ["tmp", "lintsync"]⟩

private def innerFolder : Path := ⟨"/", ["tmp", "lintsync", "dist", "pkg"]⟩

private def innerFile : Path := innerFolder.child "a.js"

private def leavingOutDist (roots : List Path) : Workspace :=
  ⟨roots, { excludedFolders := ["dist"] }⟩

private def packageFiles : FileTree :=
  FileTree.emptyFolder.put innerFile.names (.file [] FileTree.fileMode)

theorem classify_iff_mem_files_innerFirst :
    (leavingOutDist [innerFolder, outerFolder]).classify ⟨.modified, false, innerFile, none⟩ =
      .ok (some (.saved innerFile)) := by
  have opened : ofRoots [innerFolder, outerFolder] { excludedFolders := ["dist"] } =
      .ok (leavingOutDist [innerFolder, outerFolder]) := rfl
  have folders : ∀ root ∈ [innerFolder, outerFolder],
      packageFiles.hasFolder root = .ok true := by decide +kernel
  have there : packageFiles.find innerFile.resolve.names = .ok (.file [] FileTree.fileMode) :=
    rfl
  have outside : (leavingOutDist [innerFolder, outerFolder]).inReportFolder
      innerFile.resolve = false := by decide +kernel
  obtain ⟨paths, listed, onModified, -⟩ :=
    classify_iff_mem_files none opened folders rfl there outside
  have first : (leavingOutDist [innerFolder, outerFolder]).files packageFiles =
      .ok [innerFile] := by decide +kernel
  obtain rfl := Except.ok.inj (listed.symm.trans first)
  refine onModified.mpr ⟨List.mem_singleton.mpr rfl, ?_⟩
  intro root found
  obtain rfl : innerFolder = root := Option.some.inj found
  exact ⟨["a.js"], rfl, by simp⟩

/-- A file in an excluded folder of the first root is enumerated for the second one, and
no event on it matters. -/
theorem classify_misses_outerFirst :
    (leavingOutDist [outerFolder, innerFolder]).files packageFiles = .ok [innerFile] ∧
      (leavingOutDist [outerFolder, innerFolder]).classify ⟨.modified, false, innerFile, none⟩ =
        .ok none ∧
      (leavingOutDist [outerFolder, innerFolder]).classify ⟨.created, false, innerFile, none⟩ =
        .ok none := by
  decide +kernel

end NestedRoots

end Workspace

end ScriptLint
