import ScriptLint.Proofs.Files.Aside
import ScriptLint.Proofs.Workspace.Event

/-!
# Changes beside the listed files

Empty folders list nothing, and neither does a file whose name is not accepted or that lies
in an excluded folder.  Such a file may be replaced, with the folders made that it needs:
the same files are listed and read afterwards.
-/

namespace ScriptLint

section Listing

variable {settings : Settings} {tree : FileTree} {name : String}

/-- The names that lead to the files that are analysed in one entry of a folder. -/
def Settings.filesAt (settings : Settings) (entry : String × FileTree) :
    List (List String) :=
  ((FileTree.placesAt (!settings.excludes ·) entry).filter fun (names, tree) =>
    !tree.isFolder && settings.acceptsName (names.getLast?.getD "")).map (·.1)

theorem filesIn_folder (settings : Settings) (mode : Nat)
    (entries : List (String × FileTree)) :
    settings.filesIn (.folder mode entries) = entries.flatMap settings.filesAt := by
  rw [Settings.filesIn, FileTree.places]
  induction entries with
  | nil => simp [FileTree.placesIn]
  | cons entry rest induction =>
      rw [FileTree.placesIn, List.filter_append, List.map_append, induction,
        List.flatMap_cons]
      rfl

theorem filesAt_of_folder (folder : tree.isFolder = true) :
    settings.filesAt (name, tree) =
      if settings.excludes name then [] else (settings.filesIn tree).map (name :: ·) := by
  rw [Settings.filesAt, FileTree.placesAt, folder]
  by_cases excluded : settings.excludes name
  · simp [excluded]
  · have sameName : ∀ place ∈ tree.places (!settings.excludes ·),
        (name :: place.1).getLast?.getD "" = place.1.getLast?.getD "" := by
      rintro ⟨names, found⟩ member
      have nonempty := ((FileTree.mem_places_iff tree).mp member).entered.1
      simp [List.getLast?_cons, List.getLast?_eq_getLast_of_ne_nil nonempty]
    rw [if_neg (by simp [excluded]), if_neg excluded,
      List.filter_cons_of_neg (by simp [folder]), List.filter_map, List.map_map,
      Settings.filesIn, List.map_map]
    refine congrArg (List.map _) (List.filter_congr fun place member => ?_)
    simp only [Function.comp_apply, sameName place member]

/-- A new entry of a folder below a root is in an excluded folder, or neither it nor what it
takes the place of is listed. -/
def Settings.Overlooks (settings : Settings) (entries : List (String × FileTree))
    (above : List String) (name : String) (new : FileTree) : Prop :=
  (∃ part ∈ above, settings.excludes part = true) ∨
    settings.filesAt (name, new) = [] ∧
      ∀ held, getNamed? entries name = some held → settings.filesAt (name, held) = []

theorem overlooks_emptyFolder {entries : List (String × FileTree)} (above : List String)
    (absent : getNamed? entries name = none) :
    settings.Overlooks entries above name .emptyFolder := by
  refine Or.inr ⟨?_, by simp [absent]⟩
  rw [filesAt_of_folder rfl, FileTree.emptyFolder, filesIn_folder]
  simp

theorem overlooks_file {entries : List (String × FileTree)} {above : List String}
    (hidden : (∃ part ∈ above, settings.excludes part = true) ∨ settings.acceptsName name = false)
    (noFolder : ∀ mode others, getNamed? entries name ≠ some (.folder mode others))
    (bytes : List UInt8) (mode : Nat) :
    settings.Overlooks entries above name (.file bytes mode) := by
  refine hidden.imp_right fun unaccepted => ?_
  have unlisted : ∀ bytes mode, settings.filesAt (name, .file bytes mode) = [] := by
    intro bytes mode
    simp [Settings.filesAt, FileTree.placesAt, FileTree.places, FileTree.isFolder, unaccepted]
  refine ⟨unlisted bytes mode, fun held found => ?_⟩
  cases held with
  | file old oldMode => exact unlisted old oldMode
  | folder own others => exact absurd found (noFolder own others)

theorem filesIn_put {above : List String} {mode : Nat} {entries : List (String × FileTree)}
    {new : FileTree} (there : tree.find above = .ok (.folder mode entries))
    (overlooks : settings.Overlooks entries above name new) :
    settings.filesIn (tree.put (above ++ [name]) new) = settings.filesIn tree := by
  induction above generalizing tree with
  | nil =>
      obtain rfl : tree = .folder mode entries := by simpa [FileTree.find] using there
      rcases overlooks with ⟨part, member, -⟩ | ⟨unlisted, old⟩
      · simp at member
      · rw [List.nil_append, FileTree.put, FileTree.put, filesIn_folder, filesIn_folder]
        refine flatMap_putNamed _ (fun held found => ?_) fun _ => unlisted
        rw [old held found, unlisted]
  | cons first above induction =>
      obtain ⟨own, others, below, rfl, -, held, onward⟩ :=
        FileTree.find_cons_eq_ok_iff.mp there
      have isFolder := FileTree.isFolder_of_find onward
      have stays : (below.put (above ++ [name]) new).isFolder = true := by
        rw [FileTree.isFolder_put _ _ (by simp), isFolder]
      rw [List.cons_append, FileTree.put, held, Option.getD_some, filesIn_folder,
        filesIn_folder]
      refine flatMap_putNamed _ (fun other found => ?_) fun absent => by simp [absent] at held
      obtain rfl := Option.some.inj (held.symm.trans found)
      rw [filesAt_of_folder isFolder, filesAt_of_folder stays]
      -- In an excluded folder nothing is listed, whatever happens there.
      by_cases excluded : settings.excludes first = true
      · rw [if_pos excluded, if_pos excluded]
      · rw [induction onward (overlooks.imp_left ?_)]
        rintro ⟨part, member, excludes⟩
        rcases List.mem_cons.mp member with rfl | inAbove
        · exact absurd excludes excluded
        · exact ⟨part, inAbove, excludes⟩

theorem find_folder_put {above place : List String} {mode ownMode : Nat}
    {entries own : List (String × FileTree)} {new : FileTree}
    (parent : tree.find above = .ok (.folder mode entries))
    (noFolder : ∀ mode entries, tree.find (above ++ [name]) ≠ .ok (.folder mode entries))
    (overlooks : ∀ rest, above = place ++ rest → settings.Overlooks entries rest name new)
    (there : tree.find place = .ok (.folder ownMode own)) :
    ∃ others, (tree.put (above ++ [name]) new).find place = .ok (.folder ownMode others) ∧
      settings.filesIn (.folder ownMode others) = settings.filesIn (.folder ownMode own) := by
  -- A folder does not lie at the new entry or below it.  It lies above, where the change
  -- happens inside of it, or aside.
  by_cases below : above ++ [name] <+: place
  · exfalso
    by_cases here : above ++ [name] = place
    · exact noFolder ownMode own (here ▸ there)
    · obtain ⟨otherMode, others, atName⟩ := FileTree.exists_folder_of_prefix there below here
      exact noFolder otherMode others atName
  · by_cases leads : place <+: above ++ [name]
    · rcases List.prefix_concat_iff.mp leads with whole | ⟨rest, rfl⟩
      · exact absurd (whole ▸ List.prefix_refl _) below
      · have onward : (FileTree.folder ownMode own).find rest = .ok (.folder mode entries) := by
          rw [← FileTree.find_append rest there, parent]
        have listed := filesIn_put onward (overlooks rest rfl)
        have found := FileTree.find_put_self
          ((FileTree.folder ownMode own).put (rest ++ [name]) new) there
        rw [← FileTree.put_append _ new there, ← List.append_assoc] at found
        obtain ⟨next, last, whole⟩ := List.exists_cons_of_ne_nil
          (List.append_ne_nil_of_right_ne_nil rest (List.cons_ne_nil name []))
        rw [whole, FileTree.put] at found listed
        exact ⟨_, found, listed⟩
    · exact ⟨own, by rw [FileTree.find_put_aside new parent below leads, there], rfl⟩

end Listing

/-- A workspace sees the same in a changed tree: the same files are listed and read, and
the ignore file is the same. -/
structure Workspace.SeesSame (workspace : Workspace) (paths : List Path)
    (tree changed : FileTree) : Prop where
  listed : workspace.files changed = .ok paths
  read : ∀ path ∈ paths, (changed.readText path).toOption = (tree.readText path).toOption
  ignored : ∀ ignore, workspace.ignorePath? = some ignore →
    changed.readTextIfFile ignore = tree.readTextIfFile ignore

namespace Workspace

variable {workspace : Workspace} {paths : List Path} {tree new : FileTree}
  {above : List String} {name : String} {report : Path}

theorem SeesSame.refl (listed : workspace.files tree = .ok paths) :
    workspace.SeesSame paths tree tree :=
  ⟨listed, fun _ _ => rfl, fun _ _ => rfl⟩

/-- A path that is listed where there is a file. -/
def Eligible (workspace : Workspace) (path : Path) : Prop :=
  workspace.settings.acceptsName path.name = true ∧
    ∃ root ∈ workspace.roots, workspace.Admits root path

theorem hidden_of_ineligible {root : Path} {rest : List String} (resolved : root.resolve = root)
    (member : root ∈ workspace.roots)
    (place : report.resolve.names = root.names ++ rest ++ [name])
    (ineligible : ¬workspace.Eligible report.resolve) :
    (∃ part ∈ rest, workspace.settings.excludes part = true) ∨
      workspace.settings.acceptsName name = false := by
  by_cases accepted : workspace.settings.acceptsName name = true
  · left
    by_contra clear
    apply ineligible
    refine ⟨by rwa [Path.name, place, List.getLast?_concat], root, member, rest ++ [name], ?_, ?_⟩
    · have anchored : root.anchor = "/" := by
        rw [← resolved]
        rfl
      rw [Path.below?_eq_some_iff, anchored, ← List.append_assoc, ← place]
      rfl
    · rw [List.dropLast_concat]
      intro part onTheWay
      by_contra excluded
      exact clear ⟨part, onTheWay, by simpa using excluded⟩
  · exact Or.inr (by simpa using accepted)

section Listed

variable (rooted : ∀ root ∈ workspace.roots, root.resolve = root)

include rooted

/-- The files of a workspace are those of its roots: what is overlooked below each of them
is overlooked altogether. -/
theorem files_put {mode : Nat} {entries : List (String × FileTree)}
    (parent : tree.find above = .ok (.folder mode entries))
    (noFolder : ∀ mode entries, tree.find (above ++ [name]) ≠ .ok (.folder mode entries))
    (overlooks : ∀ root ∈ workspace.roots, ∀ rest, above = root.names ++ rest →
      workspace.settings.Overlooks entries rest name new)
    (listed : workspace.files tree = .ok paths) :
    workspace.files (tree.put (above ++ [name]) new) = .ok paths := by
  unfold Workspace.files at listed ⊢
  generalize workspace.roots = roots at rooted overlooks listed
  generalize ([] : List Path) = found at listed
  induction roots generalizing found with
  | nil => exact listed
  | cons root rest induction =>
      obtain ⟨resolved, others⟩ := List.forall_mem_cons.mp rooted
      obtain ⟨overlooksOwn, overlooksOthers⟩ := List.forall_mem_cons.mp overlooks
      rw [Settings.filesOfRoots] at listed ⊢
      split at listed
      · simp at listed
      · rename_i own ofRoot
        obtain ⟨ownMode, held, reached, rfl⟩ := filesOfRoot_eq_ok_iff.mp ofRoot
        obtain ⟨noNull, short, there⟩ := (FileTree.reach_eq_ok_iff_find resolved).mp reached
        obtain ⟨_, atRoot, same⟩ := find_folder_put parent noFolder overlooksOwn there
        have stillReached := (FileTree.reach_eq_ok_iff_find resolved).mpr ⟨noNull, short, atRoot⟩
        rw [filesOfRoot_eq_ok_iff.mpr ⟨ownMode, _, stillReached, by rw [same]⟩]
        exact induction others overlooksOthers _ listed

theorem files_of_makesFolders {allowed : List String → Prop} {made : FileTree}
    (makes : FileTree.MakesFolders allowed tree made) (listed : workspace.files tree = .ok paths) :
    workspace.files made = .ok paths := by
  induction makes with
  | done tree => exact listed
  | @make tree made above name mode entries there fits absent suits _ induction =>
      apply induction
      refine files_put rooted there ?_ (fun _ _ rest _ => overlooks_emptyFolder rest absent) listed
      intro ownMode own
      exact FileTree.find_of_absent there absent (.folder ownMode own)

theorem files_replaceFile (ineligible : ¬workspace.Eligible report.resolve) (bytes : List UInt8)
    (listed : workspace.files tree = .ok paths) :
    workspace.files (tree.replaceFile report bytes).2 = .ok paths := by
  have listedMade := files_of_makesFolders rooted
    (FileTree.makesFolders_makeFolders tree report.parent) listed
  cases ended : tree.replaceFile report bytes with
  | mk error after =>
      cases error with
      | some error => rwa [FileTree.of_replaceFile_failed ended]
      | none =>
          obtain ⟨made, mode, name, replaced⟩ := FileTree.of_replaceFile ended
          obtain ⟨folderMode, entries, parent⟩ := replaced.parent
          have noFolder := replaced.noFolder
          rw [replaced.folders] at listedMade
          rw [replaced.place] at noFolder
          rw [replaced.written, replaced.place]
          refine files_put rooted parent noFolder (fun root member rest whole => ?_) listedMade
          apply overlooks_file
          · apply hidden_of_ineligible (rooted root member) member _ ineligible
            rw [replaced.place, whole]
          · intro own others held
            apply noFolder own others
            rw [FileTree.find_append [name] parent]
            exact FileTree.find_cons_folder_eq_ok_iff.mpr ⟨replaced.fits, _, held, rfl⟩

end Listed

/-- A report is kept aside from what the workspace sees: it is neither eligible nor the ignore
file, whose path leads straight on from folders that have to be made for the report. -/
structure KeepsAside (workspace : Workspace) (tree : FileTree) (report : Path) : Prop where
  ineligible : ¬workspace.Eligible report.resolve
  elsewhere : ∀ ignore, workspace.ignorePath? = some ignore →
    ignore.resolve.names ≠ report.resolve.names
  straight : ∀ ignore, workspace.ignorePath? = some ignore →
    tree.LeadsStraight ignore report.parent

/-- Replacing a report that is kept aside changes nothing that the workspace sees. -/
theorem KeepsAside.seesSame (aside : workspace.KeepsAside tree report)
    (rooted : ∀ root ∈ workspace.roots, root.resolve = root)
    (resolved : ∀ path ∈ paths, path.resolve = path)
    (listed : workspace.files tree = .ok paths) (bytes : List UInt8) :
    workspace.SeesSame paths tree (tree.replaceFile report bytes).2 := by
  refine ⟨files_replaceFile rooted aside.ineligible bytes listed, fun path member => ?_,
    fun ignore known => ?_⟩
  · apply FileTree.toOption_readText_congr (resolved path member)
    intro content mode
    apply FileTree.find_file_replaceFile_iff
    intro here
    have same : path = report.resolve := by
      rw [← resolved path member] at here ⊢
      exact congrArg (Path.mk "/") here
    apply aside.ineligible
    rw [← same]
    exact ⟨name_of_mem_files listed member, admits_of_mem_files listed member⟩
  · exact FileTree.readTextIfFile_replaceFile (aside.straight ignore known)
      (aside.elsewhere ignore known)

end Workspace

end ScriptLint
