import Mathlib.Data.List.Nodup
import ScriptLint.Proofs.Files.Ordinary
import ScriptLint.Proofs.Files.Outline
import ScriptLint.Workspace.Enumeration

/-!
# Enumerated files

A workspace lists what its roots lead to past excluded folders, each file once.  In a
file system where no entry is named like the way back, a workspace with resolved roots
lists files by their resolved paths.
-/

namespace ScriptLint

variable {settings : Settings} {workspace : Workspace} {files : FileTree}
  {path : Path} {paths : List Path}

section Membership

theorem mem_filesIn_iff {tree : FileTree} {names : List String} :
    names ∈ settings.filesIn tree ↔
      ∃ found, FileTree.Leads (!settings.excludes ·) tree names found ∧
        found.isFolder = false ∧ settings.acceptsName (names.getLast?.getD "") = true := by
  unfold Settings.filesIn
  constructor
  · intro member
    obtain ⟨⟨listed, found⟩, kept, rfl⟩ := List.mem_map.mp member
    obtain ⟨leads, suits⟩ := List.mem_filter.mp kept
    obtain ⟨noFolder, accepted⟩ := Bool.and_eq_true_iff.mp suits
    exact ⟨found, (FileTree.mem_places_iff tree).mp leads, by simpa using noFolder, accepted⟩
  · rintro ⟨found, leads, noFolder, accepted⟩
    refine List.mem_map.mpr ⟨(names, found), List.mem_filter.mpr ⟨?_, ?_⟩, rfl⟩
    · exact (FileTree.mem_places_iff tree).mpr leads
    · simp [noFolder, accepted]

theorem filesOfRoot_eq_ok_iff {root : Path} :
    settings.filesOfRoot files root = .ok paths ↔
      ∃ mode entries, files.reach root = .ok (.folder mode entries) ∧
        paths = ((settings.filesIn (.folder mode entries)).mergeSort
          Path.namesNotAfter).map fun names => ⟨root.anchor, root.names ++ names⟩ := by
  unfold Settings.filesOfRoot FileTree.get
  cases files.reach root with
  | error fault => simp [Except.mapError]
  | ok tree =>
      cases tree with
      | file bytes mode => simp [Except.mapError]
      | folder mode entries => simp [Except.mapError, eq_comm]

theorem mem_addPaths_iff {found : List Path} :
    path ∈ addPaths found paths ↔ path ∈ found ∨ path ∈ paths := by
  induction paths generalizing found with
  | nil => simp [addPaths]
  | cons first rest induction =>
      rw [addPaths]
      split
      · rename_i present
        have known : first ∈ found := by simpa using present
        rw [induction, List.mem_cons]
        constructor
        · exact Or.imp id Or.inr
        · rintro (early | rfl | late)
          · exact Or.inl early
          · exact Or.inl known
          · exact Or.inr late
      · rw [induction, List.mem_append, List.mem_singleton, List.mem_cons, or_assoc]

private theorem nodup_addPaths {found : List Path} (paths : List Path)
    (distinct : found.Nodup) : (addPaths found paths).Nodup := by
  induction paths generalizing found with
  | nil => exact distinct
  | cons first rest induction =>
      rw [addPaths]
      split
      · exact induction distinct
      · rename_i absent
        apply induction
        refine List.nodup_append.mpr ⟨distinct, List.nodup_singleton first, ?_⟩
        rintro other early last final rfl
        obtain rfl := List.mem_singleton.mp final
        exact absent (by simpa using early)

private theorem of_filesOfRoots {found roots : List Path}
    (listed : settings.filesOfRoots files found roots = .ok paths) :
    (∀ path, path ∈ paths ↔ path ∈ found ∨
        ∃ root ∈ roots, ∃ own, settings.filesOfRoot files root = .ok own ∧ path ∈ own) ∧
      (found.Nodup → paths.Nodup) := by
  induction roots generalizing found with
  | nil =>
      obtain rfl := Except.ok.inj listed
      simp
  | cons root rest induction =>
      rw [Settings.filesOfRoots] at listed
      split at listed
      · simp at listed
      · rename_i own ofRoot
        obtain ⟨members, distinct⟩ := induction listed
        refine ⟨fun path => ?_, fun nodup => distinct (nodup_addPaths own nodup)⟩
        rw [members, mem_addPaths_iff, List.exists_mem_cons_iff, or_assoc]
        simp only [ofRoot, Except.ok.injEq, exists_eq_left']

/-- A file is listed if one of the roots leads to it past excluded folders and its name
is accepted. -/
theorem Workspace.mem_files_iff (listed : workspace.files files = .ok paths) :
    path ∈ paths ↔
      ∃ root ∈ workspace.roots, ∃ mode entries,
        files.reach root = .ok (.folder mode entries) ∧
        ∃ names ∈ workspace.settings.filesIn (.folder mode entries),
          path = ⟨root.anchor, root.names ++ names⟩ := by
  rw [(of_filesOfRoots listed).1]
  simp only [List.not_mem_nil, false_or, filesOfRoot_eq_ok_iff]
  constructor
  · rintro ⟨root, member, own, ⟨mode, entries, reached, rfl⟩, listedHere⟩
    obtain ⟨names, sorted, rfl⟩ := List.mem_map.mp listedHere
    exact ⟨root, member, mode, entries, reached, names,
      (List.mergeSort_perm _ _).mem_iff.mp sorted, rfl⟩
  · rintro ⟨root, member, mode, entries, reached, names, inTree, rfl⟩
    refine ⟨root, member, _, ⟨mode, entries, reached, rfl⟩, List.mem_map.mpr ⟨names, ?_, rfl⟩⟩
    exact (List.mergeSort_perm _ _).mem_iff.mpr inTree

theorem Workspace.nodup_files (listed : workspace.files files = .ok paths) : paths.Nodup :=
  (of_filesOfRoots listed).2 List.nodup_nil

theorem Workspace.files_of_sorted {settings : Settings} {root : Path} {tree : FileTree}
    {mode : Nat} {entries : List (String × FileTree)}
    (found : tree.get root = .ok (.folder mode entries))
    (sorted : (settings.filesIn (.folder mode entries)).Pairwise
      (Path.namesNotAfter · · = true)) :
    Workspace.files ⟨[root], settings⟩ tree =
      .ok (addPaths [] ((settings.filesIn (.folder mode entries)).map fun names =>
        ⟨root.anchor, root.names ++ names⟩)) := by
  rw [Workspace.files, Settings.filesOfRoots, Settings.filesOfRoot, found]
  dsimp only
  rw [List.mergeSort_of_pairwise sorted, Settings.filesOfRoots]

theorem Workspace.exists_files
    (folders : ∀ root ∈ workspace.roots, ∃ mode entries,
      files.reach root = .ok (.folder mode entries)) :
    ∃ paths, workspace.files files = .ok paths := by
  unfold Workspace.files
  generalize workspace.roots = roots at folders
  generalize ([] : List Path) = found
  induction roots generalizing found with
  | nil => exact ⟨found, rfl⟩
  | cons root rest induction =>
      obtain ⟨⟨mode, entries, reached⟩, others⟩ := List.forall_mem_cons.mp folders
      have own : workspace.settings.filesOfRoot files root = .ok _ :=
        filesOfRoot_eq_ok_iff.mpr ⟨mode, entries, reached, rfl⟩
      rw [Settings.filesOfRoots, own]
      exact induction others _

theorem Workspace.folder_of_mem_roots (listed : workspace.files files = .ok paths) {root : Path}
    (member : root ∈ workspace.roots) :
    ∃ mode entries, files.reach root = .ok (.folder mode entries) := by
  unfold Workspace.files at listed
  generalize workspace.roots = roots at listed member
  generalize ([] : List Path) = found at listed
  induction roots generalizing found with
  | nil => simp at member
  | cons first rest induction =>
      rw [Settings.filesOfRoots] at listed
      split at listed
      · simp at listed
      · rename_i own ofRoot
        rcases List.mem_cons.mp member with rfl | later
        · obtain ⟨mode, entries, reached, -⟩ := filesOfRoot_eq_ok_iff.mp ofRoot
          exact ⟨mode, entries, reached⟩
        · exact induction later _ listed

theorem Workspace.files_congr {changed : FileTree} (same : changed.outline = files.outline) :
    workspace.files changed = workspace.files files := by
  have outlined : ∀ tree : FileTree, workspace.files tree.outline = workspace.files tree := by
    intro tree
    have inFolder : ∀ tree : FileTree,
        workspace.settings.filesIn tree.outline = workspace.settings.filesIn tree := by
      intro tree
      unfold Settings.filesIn
      rw [FileTree.places_outline, List.filter_map, List.map_map]
      simp only [Function.comp_def, FileTree.isFolder_outline]
    have ofRoot : workspace.settings.filesOfRoot tree.outline =
        workspace.settings.filesOfRoot tree := by
      funext root
      unfold Settings.filesOfRoot FileTree.get
      rw [FileTree.reach_outline]
      cases tree.reach root with
      | error fault => rfl
      | ok found =>
          cases found with
          | file bytes mode => rfl
          | folder mode entries =>
              simp only [Except.map, Except.mapError, ← inFolder (.folder mode entries)]
              rfl
    unfold Workspace.files
    generalize ([] : List Path) = found
    induction workspace.roots generalizing found with
    | nil => rfl
    | cons root rest induction =>
        rw [Settings.filesOfRoots, Settings.filesOfRoots, ofRoot]
        cases workspace.settings.filesOfRoot tree root with
        | error error => rfl
        | ok own => exact induction _
  rw [← outlined changed, same, outlined files]

end Membership

section Names

theorem Workspace.kind_of_mem_files {kind : String → Prop} (names : files.HasNames kind)
    (rooted : ∀ root ∈ workspace.roots, root.resolve = root)
    (listed : workspace.files files = .ok paths) (member : path ∈ paths) :
    path.anchor = "/" ∧ ∀ name ∈ path.names, kind name := by
  obtain ⟨root, isRoot, mode, entries, reached, below, inTree, rfl⟩ :=
    (mem_files_iff listed).mp member
  have resolved := rooted root isRoot
  have there := FileTree.find_of_reach reached
  rw [resolved] at there
  obtain ⟨rootNames, treeNames⟩ := names.of_find there
  obtain ⟨found, leads, -, -⟩ := mem_filesIn_iff.mp inTree
  refine ⟨by rw [← resolved]; rfl, ?_⟩
  intro name listedName
  rcases List.mem_append.mp listedName with inRoot | inBelow
  · exact rootNames name inRoot
  · exact treeNames.of_leads leads name inBelow

theorem Workspace.name_of_mem_files (listed : workspace.files files = .ok paths)
    (member : path ∈ paths) : workspace.settings.acceptsName path.name = true := by
  obtain ⟨root, -, mode, entries, -, names, inTree, rfl⟩ := (mem_files_iff listed).mp member
  obtain ⟨found, leads, -, accepted⟩ := mem_filesIn_iff.mp inTree
  rw [Path.name_append _ _ leads.entered.1]
  exact accepted

theorem Workspace.resolve_of_mem_files (ordinary : files.isOrdinary = true)
    (rooted : ∀ root ∈ workspace.roots, root.resolve = root)
    (listed : workspace.files files = .ok paths) (member : path ∈ paths) :
    path.resolve = path := by
  obtain ⟨anchored, names⟩ :=
    kind_of_mem_files ((FileTree.isOrdinary_iff files).mp ordinary) rooted listed member
  rw [Path.resolve, Path.resolveNames_of_ordinary names, ← anchored]

theorem Workspace.free_of_mem_files (named : files.IsNamed)
    (rooted : ∀ root ∈ workspace.roots, root.resolve = root)
    (listed : workspace.files files = .ok paths) (member : path ∈ paths) :
    path.holdsNull = false := by
  obtain ⟨-, names⟩ := kind_of_mem_files named rooted listed member
  exact Path.holdsNull_eq_false_iff.mpr fun name inPath => (names name inPath).noNull

theorem Workspace.nodup_places_files (ordinary : files.isOrdinary = true)
    (rooted : ∀ root ∈ workspace.roots, root.resolve = root)
    (listed : workspace.files files = .ok paths) :
    (paths.map fun path => path.resolve.names).Nodup := by
  have resolved : ∀ path ∈ paths, path.resolve = path := fun path member =>
    resolve_of_mem_files ordinary rooted listed member
  apply (nodup_files listed).map_on
  intro left leftMember right rightMember same
  rw [← resolved left leftMember, ← resolved right rightMember, Path.resolve, Path.resolve]
  exact congrArg (Path.mk "/") same

/-- Files of a file system are listed under different texts. -/
theorem Workspace.nodup_texts_files (named : files.IsNamed)
    (rooted : ∀ root ∈ workspace.roots, root.resolve = root)
    (listed : workspace.files files = .ok paths) : (paths.map Path.toString).Nodup := by
  have proper : ∀ path ∈ paths, path.anchor = "/" ∧ path.IsProper := by
    intro path member
    obtain ⟨anchored, names⟩ := kind_of_mem_files named rooted listed member
    exact ⟨anchored, fun name inPath => (names name inPath).isName⟩
  apply (nodup_files listed).map_on
  intro left leftMember right rightMember same
  obtain ⟨leftAnchor, leftNames⟩ := proper left leftMember
  obtain ⟨rightAnchor, rightNames⟩ := proper right rightMember
  exact Path.eq_of_toString_eq leftAnchor rightAnchor leftNames rightNames same

end Names

end ScriptLint
