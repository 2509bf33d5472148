import ScriptLint.Proofs.StableSort
import ScriptLint.Proofs.Workspace.Event

/-!
# The order of enumerated files

Files come in the order of the first root that admits them, and for one root in the order
of their names, one name after the other.  Nothing that a root admits is left out and
nothing is listed twice, however the roots overlap.
-/

namespace ScriptLint

section Names

/-- Names come no later than others if they are the same or come before them. -/
theorem Path.namesNotAfter_eq_true_iff {left right : List String} :
    Path.namesNotAfter left right = true ↔ left = right ∨ List.Lex (· < ·) left right := by
  fun_induction Path.namesNotAfter left right with
  | case1 names =>
      cases names with
      | nil => simp
      | cons name rest => exact iff_of_true rfl (Or.inr .nil)
  | case2 name rest => exact iff_of_false (by simp) (by simp)
  | case3 rest name names induction =>
      rw [induction, List.cons_lex_cons_iff, or_iff_right (String.lt_irrefl name)]
      simp
  | case4 name rest other names differ =>
      rw [List.cons_lex_cons_iff]
      simp [differ]

theorem Path.namesNotAfter_trans {first second third : List String}
    (left : Path.namesNotAfter first second = true)
    (right : Path.namesNotAfter second third = true) :
    Path.namesNotAfter first third = true := by
  induction first generalizing second third with
  | nil => rfl
  | cons name rest induction =>
      cases second with
      | nil => simp [Path.namesNotAfter] at left
      | cons other others =>
          cases third with
          | nil => simp [Path.namesNotAfter] at right
          | cons last lasts =>
              simp only [Path.namesNotAfter] at left right ⊢
              split at left
              · rename_i same
                subst same
                split at right
                · rename_i same
                  subst same
                  rw [if_pos rfl]
                  exact induction left right
                · rename_i differ
                  rw [if_neg differ]
                  exact right
              · have before : name < other := by simpa using left
                have onward : name < last := by
                  split at right
                  · rename_i same
                    exact same ▸ before
                  · exact String.lt_trans before (by simpa using right)
                rw [if_neg]
                · simpa using onward
                · rintro rfl
                  exact String.lt_irrefl name onward

theorem Path.namesNotAfter_append (above left right : List String) :
    Path.namesNotAfter (above ++ left) (above ++ right) = Path.namesNotAfter left right := by
  induction above with
  | nil => rfl
  | cons name above induction =>
      rw [List.cons_append, List.cons_append, Path.namesNotAfter, if_pos rfl, induction]

theorem Path.sortable_namesNotAfter : Sortable Path.namesNotAfter where
  transitive := fun _ _ _ => Path.namesNotAfter_trans
  total := by
    intro left right
    fun_induction Path.namesNotAfter left right with
    | case1 names => rfl
    | case2 name rest => rfl
    | case3 rest name names induction => simpa [Path.namesNotAfter] using induction
    | case4 name rest other names differ =>
        rw [Path.namesNotAfter, if_neg (Ne.symm differ)]
        rcases Std.lt_trichotomy name other with before | same | after
        · simp [before]
        · exact absurd same differ
        · simp [after]

end Names

theorem addPaths_eq (found paths : List Path) :
    ∃ fresh, addPaths found paths = found ++ fresh ∧ fresh.Sublist paths ∧
      ∀ path ∈ fresh, path ∉ found := by
  induction paths generalizing found with
  | nil => exact ⟨[], by simp [addPaths], List.Sublist.refl [], by simp⟩
  | cons first rest induction =>
      rw [addPaths]
      split
      · obtain ⟨fresh, whole, ordered, new⟩ := induction found
        exact ⟨fresh, whole, ordered.cons first, new⟩
      · rename_i absent
        obtain ⟨fresh, whole, ordered, new⟩ := induction (found ++ [first])
        refine ⟨first :: fresh, by simp [whole], ordered.cons_cons first, ?_⟩
        rintro path (_ | ⟨_, later⟩)
        · simpa using absent
        · intro early
          exact new path later (List.mem_append_left _ early)

namespace Workspace

variable {workspace : Workspace} {files : FileTree} {path root : Path} {paths own : List Path}

instance (workspace : Workspace) (root path : Path) : Decidable (workspace.Admits root path) :=
  decidable_of_iff ((path.below? root).any fun names =>
      names.dropLast.all fun name => !workspace.settings.excludes name) (by
    unfold Admits
    cases path.below? root with
    | none => simp
    | some names => simp)

/-- The number of the first root that admits a path. -/
def rank (workspace : Workspace) (path : Path) : Nat :=
  workspace.roots.findIdx (workspace.Admits · path)

/-- A path comes before another: a root before its first one admits it, or the same root
does and its names come before those of the other. -/
def Precedes (workspace : Workspace) (path other : Path) : Prop :=
  workspace.rank path < workspace.rank other ∨
    workspace.rank path = workspace.rank other ∧ List.Lex (· < ·) path.names other.names

/-- A path is that of a file whose name is accepted. -/
def Suits (workspace : Workspace) (files : FileTree) (path : Path) : Prop :=
  (∃ bytes mode, files.find path.names = .ok (.file bytes mode)) ∧
    workspace.settings.acceptsName path.name = true

theorem anchor_of_admits (resolved : root.resolve = root)
    (admits : workspace.Admits root path) : path.anchor = "/" := by
  obtain ⟨names, below, -⟩ := admits
  obtain rfl := Path.below?_eq_some_iff.mp below
  rw [← resolved]
  rfl

theorem mem_filesOfRoot_iff (tidy : files.IsTidy) (resolved : root.resolve = root)
    (ofRoot : workspace.settings.filesOfRoot files root = .ok own) (path : Path) :
    path ∈ own ↔ workspace.Suits files path ∧ workspace.Admits root path := by
  obtain ⟨mode, entries, reached, rfl⟩ := filesOfRoot_eq_ok_iff.mp ofRoot
  obtain ⟨-, -, there⟩ := (FileTree.reach_eq_ok_iff_find resolved).mp reached
  simp only [List.mem_map, (List.mergeSort_perm _ _).mem_iff, mem_filesIn_iff]
  constructor
  · rintro ⟨names, ⟨found, leads, noFolder, accepted⟩, rfl⟩
    obtain ⟨nonempty, entered⟩ := leads.entered
    have inRoot := (tidy.of_find there).find_of_leads leads
    refine ⟨⟨?_, ?_⟩, names, Path.below?_eq_some_iff.mpr rfl, ?_⟩
    · cases found with
      | file bytes own => exact ⟨bytes, own, by rw [FileTree.find_append names there, inRoot]⟩
      | folder own others => simp [FileTree.isFolder] at noFolder
    · rw [Path.name_append _ _ nonempty]
      exact accepted
    · intro name onTheWay
      simpa using entered name onTheWay
  · rintro ⟨⟨⟨bytes, own, atPath⟩, accepted⟩, names, below, clear⟩
    obtain rfl := Path.below?_eq_some_iff.mp below
    rw [FileTree.find_append names there] at atPath
    have nonempty : names ≠ [] := by
      rintro rfl
      simp [FileTree.find] at atPath
    refine ⟨names, ⟨_, FileTree.leads_of_find atPath nonempty ?_, rfl, ?_⟩, rfl⟩
    · intro name onTheWay
      simp [clear name onTheWay]
    · rw [Path.name_append _ _ nonempty] at accepted
      exact accepted

theorem pairwise_filesOfRoot (ofRoot : workspace.settings.filesOfRoot files root = .ok own) :
    own.Pairwise fun path other => Path.namesNotAfter path.names other.names = true := by
  obtain ⟨mode, entries, -, rfl⟩ := filesOfRoot_eq_ok_iff.mp ofRoot
  refine List.pairwise_map.mpr (List.Pairwise.imp ?_ (List.pairwise_mergeSort
    Path.sortable_namesNotAfter.transitive Path.sortable_namesNotAfter.total _))
  intro left right ordered
  rw [Path.namesNotAfter_append]
  exact ordered

section Ranking

variable {done rest : List Path}

theorem rank_lt_of_mem (whole : workspace.roots = done ++ rest)
    (admitted : ∃ root ∈ done, workspace.Admits root path) :
    workspace.rank path < done.length := by
  have early : done.findIdx (workspace.Admits · path) < done.length :=
    List.findIdx_lt_length.mpr (by simpa using admitted)
  rw [rank, whole, List.findIdx_append, if_pos early]
  exact early

theorem rank_eq_of_forall (whole : workspace.roots = done ++ root :: rest)
    (admits : workspace.Admits root path) (new : ∀ root ∈ done, ¬workspace.Admits root path) :
    workspace.rank path = done.length := by
  have late : ¬done.findIdx (workspace.Admits · path) < done.length := by
    rw [List.findIdx_lt_length]
    simpa using new
  rw [rank, whole, List.findIdx_append, if_neg late]
  simp [List.findIdx_cons, admits]

end Ranking

/-- A path comes no later than another. -/
def NotAfter (workspace : Workspace) (path other : Path) : Prop :=
  workspace.rank path < workspace.rank other ∨
    workspace.rank path = workspace.rank other ∧
      Path.namesNotAfter path.names other.names = true

/-- Enumeration goes on with the roots that are left.  The files found so far are those
that the roots before them admit, in order. -/
theorem of_filesOfRoots_ordered {done rest found : List Path} (tidy : files.IsTidy)
    (rooted : ∀ root ∈ workspace.roots, root.resolve = root)
    (whole : workspace.roots = done ++ rest)
    (known : ∀ path, path ∈ found ↔
      workspace.Suits files path ∧ ∃ root ∈ done, workspace.Admits root path)
    (ordered : found.Pairwise workspace.NotAfter)
    (listed : workspace.settings.filesOfRoots files found rest = .ok paths) :
    (∀ path, path ∈ paths ↔
        workspace.Suits files path ∧ ∃ root ∈ workspace.roots, workspace.Admits root path) ∧
      paths.Pairwise workspace.NotAfter := by
  induction rest generalizing done found with
  | nil =>
      obtain rfl := Except.ok.inj listed
      rw [whole, List.append_nil]
      exact ⟨known, ordered⟩
  | cons root rest induction =>
      rw [Settings.filesOfRoots] at listed
      split at listed
      · simp at listed
      · rename_i own ofRoot
        have resolved := rooted root (by simp [whole])
        have members := mem_filesOfRoot_iff tidy resolved ofRoot
        have onward : workspace.roots = (done ++ [root]) ++ rest := by simp [whole]
        refine induction onward ?_ ?_ listed
        · intro path
          rw [mem_addPaths_iff, known, members, ← and_or_left]
          simp [or_and_right, exists_or]
        · obtain ⟨fresh, added, sublist, new⟩ := addPaths_eq found own
          -- A file that is new was not admitted by any root before this one.
          have ranked : ∀ path ∈ fresh, workspace.rank path = done.length := by
            intro path member
            obtain ⟨suits, admits⟩ := (members path).mp (sublist.subset member)
            apply rank_eq_of_forall whole admits
            intro earlier before admitted
            exact new path member ((known path).mpr ⟨suits, earlier, before, admitted⟩)
          rw [added]
          refine List.pairwise_append.mpr ⟨ordered, ?_, ?_⟩
          · refine ((pairwise_filesOfRoot ofRoot).sublist sublist).imp_of_mem ?_
            intro left right leftMember rightMember names
            exact Or.inr ⟨by rw [ranked left leftMember, ranked right rightMember], names⟩
          · intro left leftMember right rightMember
            left
            rw [ranked right rightMember]
            exact rank_lt_of_mem whole ((known left).mp leftMember).2

/-- A listed file can be opened by its path unless the path is too long: listing goes from
folder to folder and asks for nothing by its path. -/
theorem reach_of_mem_files_iff (named : files.IsNamed) (tidy : files.IsTidy)
    (rooted : ∀ root ∈ workspace.roots, root.resolve = root)
    (listed : workspace.files files = .ok paths) (member : path ∈ paths) :
    (∃ bytes mode, files.reach path = .ok (.file bytes mode)) ↔
      path.toString.utf8ByteSize ≤ FileTree.pathLimit := by
  have start : workspace.roots = [] ++ workspace.roots := rfl
  obtain ⟨members, -⟩ := of_filesOfRoots_ordered tidy rooted start (by simp) .nil listed
  obtain ⟨⟨⟨bytes, mode, there⟩, -⟩, -⟩ := (members path).mp member
  have resolved := resolve_of_mem_files named.isOrdinary rooted listed member
  have free := free_of_mem_files named rooted listed member
  simp [FileTree.reach_eq_ok_iff_find resolved, free, there]

/-- In a tidy file system, enumeration lists each file that a root admits once, in the order
of the first such root and then of the names, whatever the roots and settings are.  It fails
if a root is no folder. -/
theorem files_complete_distinct_ordered {roots : List Path} {settings : Settings}
    (opened : ofRoots roots settings = .ok workspace) (tidy : files.IsTidy) :
    ((∀ root ∈ workspace.roots, files.hasFolder root = .ok true) →
      ∃ paths, workspace.files files = .ok paths ∧ paths.Nodup ∧
        (∀ path, path ∈ paths ↔
          workspace.Suits files path ∧ ∃ root ∈ workspace.roots, workspace.Admits root path) ∧
        paths.Pairwise workspace.Precedes) ∧
      ((∃ root ∈ workspace.roots, files.hasFolder root ≠ .ok true) →
        ∃ error, workspace.files files = .error error) := by
  have rooted := rooted_of_ofRoots opened
  constructor
  · intro folders
    obtain ⟨paths, listed⟩ := exists_files fun root member =>
      FileTree.hasFolder_eq_true_iff.mp (folders root member)
    have distinct := nodup_files listed
    have start : workspace.roots = [] ++ workspace.roots := rfl
    obtain ⟨members, ordered⟩ :=
      of_filesOfRoots_ordered tidy rooted start (by simp) .nil listed
    have anchored : ∀ path ∈ paths, path.anchor = "/" := by
      intro path member
      obtain ⟨-, root, isRoot, admits⟩ := (members path).mp member
      exact anchor_of_admits (rooted root isRoot) admits
    refine ⟨paths, listed, distinct, members, ?_⟩
    refine List.Pairwise.imp_of_mem ?_ (distinct.and ordered)
    rintro left right leftMember rightMember ⟨differ, earlier | ⟨sameRank, names⟩⟩
    · exact Or.inl earlier
    · refine Or.inr ⟨sameRank, ?_⟩
      rcases Path.namesNotAfter_eq_true_iff.mp names with same | before
      · have sameAnchor := (anchored left leftMember).trans (anchored right rightMember).symm
        exact absurd (congrArg₂ Path.mk sameAnchor same) differ
      · exact before
  · rintro ⟨root, member, noFolder⟩
    cases listed : workspace.files files with
    | error error => exact ⟨error, rfl⟩
    | ok paths =>
        exact absurd (FileTree.hasFolder_eq_true_iff.mpr (folder_of_mem_roots listed member))
          noFolder

section OverlappingRoots

private def sourceFolder : Path := ⟨"/", ["src"]⟩

private def libraryFolder : Path := ⟨"/", ["src", "lib"]⟩

/-- A folder with a file and with an excluded folder that has a file. -/
private def sourceFiles : FileTree :=
  .folder 0o755 [("src", .folder 0o755
    [("z.js", .file [] 0o644), ("lib", .folder 0o755 [("a.js", .file [] 0o644)])])]

private theorem tidy_sourceFiles : sourceFiles.IsTidy := by
  have library : (FileTree.folder 0o755 [("a.js", .file [] 0o644)]).IsTidy := by
    refine .folder _ _ (by decide) (by decide) ?_
    simpa using FileTree.IsTidy.file [] 0o644
  have source : (FileTree.folder 0o755 [("z.js", .file [] 0o644),
      ("lib", .folder 0o755 [("a.js", .file [] 0o644)])]).IsTidy := by
    refine .folder _ _ (by decide) (by decide) ?_
    simpa using ⟨FileTree.IsTidy.file [] 0o644, library⟩
  refine .folder _ _ (by decide) (by decide) ?_
  simpa using source

/-- The first root and the last are one, and the one between lies in a folder that they
leave out. -/
private def overlappingRoots : Workspace :=
  ⟨[sourceFolder, libraryFolder, sourceFolder], { excludedFolders := ["lib"] }⟩

theorem files_complete_distinct_ordered_overlapping :
    sourceFiles.IsTidy ∧
      ∃ paths, overlappingRoots.files sourceFiles = .ok paths ∧ paths.Nodup ∧
        (sourceFolder.child "z.js" ∈ paths ∧ libraryFolder.child "a.js" ∈ paths) ∧
        paths.Pairwise overlappingRoots.Precedes := by
  have opened : ofRoots [sourceFolder, libraryFolder, sourceFolder]
      { excludedFolders := ["lib"] } = .ok overlappingRoots := rfl
  have folders : ∀ root ∈ overlappingRoots.roots, sourceFiles.hasFolder root = .ok true := by
    decide +kernel
  obtain ⟨paths, listed, distinct, members, ordered⟩ :=
    (files_complete_distinct_ordered opened tidy_sourceFiles).1 folders
  refine ⟨tidy_sourceFiles, paths, listed, distinct, ⟨?_, ?_⟩, ordered⟩
  · refine (members _).mpr ⟨⟨⟨[], 0o644, rfl⟩, by decide +kernel⟩, sourceFolder, ?_, ?_⟩
    · exact List.mem_cons_self
    · exact ⟨["z.js"], by decide +kernel, by simp⟩
  · refine (members _).mpr ⟨⟨⟨[], 0o644, rfl⟩, by decide +kernel⟩, libraryFolder, ?_, ?_⟩
    · exact List.mem_cons_of_mem _ List.mem_cons_self
    · exact ⟨["a.js"], by decide +kernel, by simp⟩

end OverlappingRoots

end Workspace

end ScriptLint
