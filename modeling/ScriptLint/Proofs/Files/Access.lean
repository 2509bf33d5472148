import ScriptLint.Files.Access
import ScriptLint.Proofs.Files.Tree
import ScriptLint.Proofs.Path

/-!
# Paths and places

A path leads to the place of its resolved names, as long as every name before a
double dot is that of a folder.  Reading and writing by path are thereby reading
and writing at places, and making folders keeps everything that is there.
-/

namespace ScriptLint

namespace FileTree

section Reaching

variable {tree changed found : FileTree} {path : Path}

theorem reachFrom_append {above names : List String} (rest : List String)
    (reached : tree.reachFrom above names = .ok found) :
    tree.reachFrom above (names ++ rest) =
      tree.reachFrom (names.foldl Path.pushName above) rest := by
  fun_induction reachFrom tree above names with
  | case1 above => rfl
  | case2 above names fault failed => simp at reached
  | case3 above names bytes mode atFile => simp at reached
  | case4 above names mode entries atFolder induction =>
      rw [List.cons_append, reachFrom, if_pos rfl, atFolder]
      simpa [Path.pushName] using induction reached
  | case5 above name names ordinary induction =>
      rw [List.cons_append, reachFrom, if_neg ordinary]
      simpa [Path.pushName, ordinary] using induction reached

theorem find_of_reachFrom {above names : List String}
    (reached : tree.reachFrom above names = .ok found) :
    tree.find (names.foldl Path.pushName above).reverse = .ok found := by
  have onward := reachFrom_append [] reached
  rw [List.append_nil, reached, reachFrom] at onward
  exact onward.symm

/-- Names still lead somewhere after a change that keeps everything. -/
theorem KeepsAll.reachFrom {above names : List String} (keeps : KeepsAll tree changed)
    (reached : tree.reachFrom above names = .ok found) :
    ∃ other, changed.reachFrom above names = .ok other ∧ SameTop found other := by
  fun_induction FileTree.reachFrom tree above names with
  | case1 above => exact keeps _ _ not_false reached
  | case2 above names fault failed => simp at reached
  | case3 above names bytes mode atFile => simp at reached
  | case4 above names mode entries atFolder induction =>
      obtain ⟨folder, atPlace, same⟩ := keeps _ _ not_false atFolder
      cases same with
      | folder _ _ others =>
          rw [FileTree.reachFrom, if_pos rfl, atPlace]
          exact induction reached
  | case5 above name names ordinary induction =>
      rw [FileTree.reachFrom, if_neg ordinary]
      exact induction reached

/-- Unless a path itself is refused, what it leads to is what its names lead to. -/
theorem reach_eq_iff {outcome : Except FileFault FileTree}
    (noNull : outcome ≠ .error .nullCharacter) (fits : outcome ≠ .error .tooLong) :
    tree.reach path = outcome ↔
      path.holdsNull = false ∧ ¬ pathLimit < path.toString.utf8ByteSize ∧
        tree.reachFrom [] path.names = outcome := by
  unfold reach
  split
  · rename_i null
    simp [null, noNull.symm]
  · split
    · rename_i tooLong
      simp [tooLong, fits.symm]
    · rename_i free short
      simp [free, short]

theorem reach_eq_ok_iff :
    tree.reach path = .ok found ↔
      path.holdsNull = false ∧ ¬ pathLimit < path.toString.utf8ByteSize ∧
        tree.reachFrom [] path.names = .ok found :=
  reach_eq_iff (by simp) (by simp)

theorem find_of_reach (reached : tree.reach path = .ok found) :
    tree.find path.resolve.names = .ok found :=
  find_of_reachFrom (reach_eq_ok_iff.mp reached).2.2

theorem hasFolder_eq_true_iff :
    tree.hasFolder path = .ok true ↔
      ∃ mode entries, tree.reach path = .ok (folder mode entries) := by
  unfold hasFolder get?
  cases tree.reach path with
  | error fault => cases fault <;> simp [Except.map]
  | ok found => cases found <;> simp [Except.map, isFolder]

theorem reachFrom_concat {above names : List String} {name : String}
    (reached : tree.reachFrom above names = .ok found) (ordinary : name ≠ "..") :
    tree.reachFrom above (names ++ [name]) =
      tree.find ((names.foldl Path.pushName above).reverse ++ [name]) := by
  rw [reachFrom_append [name] reached, reachFrom, if_neg ordinary, reachFrom,
    List.reverse_cons]

/-- Names without double dots are looked up one by one. -/
theorem reachFrom_of_ordinary {names : List String}
    (ordinary : ∀ name ∈ names, name ≠ "..") (tree : FileTree) (above : List String) :
    tree.reachFrom above names = tree.find (above.reverse ++ names) := by
  induction names generalizing above with
  | nil => simp [reachFrom]
  | cons name names induction =>
      rw [reachFrom, if_neg (ordinary name List.mem_cons_self),
        induction (fun other member => ordinary other (List.mem_cons_of_mem _ member))]
      simp

theorem reachFrom_resolve (tree : FileTree) (path : Path) :
    tree.reachFrom [] path.resolve.names = tree.find path.resolve.names :=
  reachFrom_of_ordinary (fun _ member => (Path.of_mem_resolveNames member).2) tree []

theorem reach_eq_ok_iff_find (resolved : path.resolve = path) :
    tree.reach path = .ok found ↔
      path.holdsNull = false ∧ ¬ pathLimit < path.toString.utf8ByteSize ∧
        tree.find path.names = .ok found := by
  have onward := reachFrom_resolve tree path
  rw [resolved] at onward
  rw [reach_eq_ok_iff, onward]

/-- Names without their last one lead to the folder above, if they lead to
anything. -/
theorem find_tail_of_find {above : List String}
    (there : tree.find above.reverse = .ok found) :
    ∃ reached, tree.find above.tail.reverse = .ok reached := by
  apply exists_find_of_prefix there
  cases above with
  | nil => exact List.prefix_refl _
  | cons name above =>
      rw [List.tail_cons, List.reverse_cons]
      exact List.prefix_append _ _

theorem of_reachFrom_missing {names : List String} {below : FileTree}
    (missing : tree.reachFrom [] names = .error .missing)
    (parent : tree.reachFrom [] names.dropLast = .ok below) :
    ∃ name, names = names.dropLast ++ [name] ∧ name ≠ ".." ∧
      tree.find ((names.dropLast.foldl Path.pushName []).reverse ++ [name]) =
        .error .missing := by
  rcases List.eq_nil_or_concat names with rfl | ⟨above, name, rfl⟩
  · simp [reachFrom, find] at missing
  · rw [List.concat_eq_append, List.dropLast_concat] at parent ⊢
    rw [List.concat_eq_append] at missing
    refine ⟨name, rfl, ?_⟩
    by_cases dots : name = ".."
    · subst dots
      have there := find_of_reachFrom parent
      obtain ⟨reached, atTail⟩ := find_tail_of_find there
      rw [reachFrom_append _ parent, reachFrom, if_pos rfl, there] at missing
      cases below with
      | file bytes mode => simp at missing
      | folder mode entries => simp [reachFrom, atTail] at missing
    · rw [reachFrom_concat parent dots] at missing
      exact ⟨dots, missing⟩

end Reaching

section Reading

variable {tree changed : FileTree} {path : Path}

theorem readBytes_eq_ok_iff {bytes : List UInt8} :
    tree.readBytes path = .ok bytes ↔ ∃ mode, tree.reach path = .ok (file bytes mode) := by
  unfold readBytes get
  cases tree.reach path with
  | error fault => simp [Except.mapError]
  | ok found =>
      cases found with
      | file held mode => simp [Except.mapError]
      | folder mode entries => simp [Except.mapError]

theorem readText_eq_ok_iff {text : List Char} :
    tree.readText path = .ok text ↔
      ∃ bytes mode raw, tree.reach path = .ok (file bytes mode) ∧
        Utf8.decode bytes = .ok raw ∧ text = Text.unifyBreaks raw := by
  unfold readText
  cases read : tree.readBytes path with
  | error error =>
      simp only [reduceCtorEq, false_iff, not_exists, not_and]
      intro bytes mode raw reached
      simp [readBytes_eq_ok_iff.mpr ⟨mode, reached⟩] at read
  | ok bytes =>
      obtain ⟨mode, reached⟩ := readBytes_eq_ok_iff.mp read
      dsimp only
      cases decoded : Utf8.decode bytes with
      | error error => simp [reached, decoded]
      | ok raw => simp [reached, decoded, eq_comm]

theorem toOption_readText_congr (resolved : path.resolve = path)
    (same : ∀ bytes mode, changed.find path.names = .ok (.file bytes mode) ↔
      tree.find path.names = .ok (.file bytes mode)) :
    (changed.readText path).toOption = (tree.readText path).toOption := by
  have readable : ∀ text, changed.readText path = .ok text ↔ tree.readText path = .ok text := by
    intro text
    simp only [readText_eq_ok_iff, reach_eq_ok_iff_find resolved, same]
  cases read : tree.readText path with
  | ok text => rw [(readable text).mpr read]
  | error error =>
      cases readChanged : changed.readText path with
      | ok text => simp [(readable text).mp readChanged] at read
      | error other => rfl

theorem writeBytes_of_reach {bytes new : List UInt8} {mode : Nat}
    (reached : tree.reach path = .ok (file bytes mode)) :
    tree.writeBytes path new = .ok (tree.put path.resolve.names (file new mode)) := by
  simp [writeBytes, reached]

end Reading

section Making

variable {tree changed made below : FileTree} {path : Path}

theorem child_of_reach_missing (missing : tree.reach path = .error .missing)
    (parent : tree.reachFrom [] path.names.dropLast = .ok below) :
    ∃ name mode entries,
      path.names = path.names.dropLast ++ [name] ∧ name ≠ ".." ∧
      path.resolve.names = Path.resolveNames path.names.dropLast ++ [name] ∧
      tree.find (Path.resolveNames path.names.dropLast) = .ok (folder mode entries) ∧
      ¬ nameLimit < name.utf8ByteSize ∧ getNamed? entries name = none := by
  obtain ⟨-, -, missingFrom⟩ := (reach_eq_iff (by simp) (by simp)).mp missing
  obtain ⟨name, whole, ordinary, absent⟩ := of_reachFrom_missing missingFrom parent
  have atParent := find_of_reachFrom parent
  have place : path.resolve.names = Path.resolveNames path.names.dropLast ++ [name] := by
    rw [Path.resolve, Path.resolveNames, Path.resolveNames]
    conv_lhs => rw [whole, List.foldl_append]
    simp [Path.pushName, ordinary]
  rw [find_append [name] atParent] at absent
  cases below with
  | file bytes mode => simp [find] at absent
  | folder mode entries =>
      refine ⟨name, mode, entries, whole, ordinary, place, atParent, ?_, ?_⟩
      · intro tooLong
        simp [find, tooLong] at absent
      · cases held : getNamed? entries name with
        | none => rfl
        | some inside =>
            simp only [find, held] at absent
            split at absent
            · simp at absent
            · simp at absent

/-- Something missing in a folder that is reached is put there without touching
anything else, and is then found. -/
theorem put_of_reach_missing (new : FileTree)
    (missing : tree.reach path = .error .missing)
    (parent : tree.reachFrom [] path.names.dropLast = .ok below) :
    KeepsAll tree (tree.put path.resolve.names new) ∧
      (tree.put path.resolve.names new).reach path = .ok new := by
  obtain ⟨noNull, fits, -⟩ := (reach_eq_iff (by simp) (by simp)).mp missing
  obtain ⟨name, mode, entries, whole, ordinary, place, atParent, short, absent⟩ :=
    child_of_reach_missing missing parent
  have keeps : KeepsAll tree (tree.put path.resolve.names new) := by
    apply keepsAll_put
    intro found there
    rw [place, find_append [name] atParent] at there
    obtain ⟨-, inside, held, -⟩ := find_cons_folder_eq_ok_iff.mp there
    simp [absent] at held
  refine ⟨keeps, reach_eq_ok_iff.mpr ⟨noNull, fits, ?_⟩⟩
  obtain ⟨other, parentStays, -⟩ := keeps.reachFrom parent
  rw [whole, reachFrom_concat parentStays ordinary, place]
  exact find_put_child new atParent short

theorem of_makeFolder_eq_ok
    (parent : tree.reach path = .error .missing →
      ∃ below, tree.reachFrom [] path.names.dropLast = .ok below)
    (success : tree.makeFolder path = .ok changed) :
    KeepsAll tree changed ∧ ∃ mode entries, changed.reach path = .ok (folder mode entries) := by
  unfold makeFolder at success
  split at success
  · rename_i mode entries reached
    obtain rfl := Except.ok.inj success
    exact ⟨.refl tree, mode, entries, reached⟩
  · simp at success
  · rename_i missing
    obtain rfl := Except.ok.inj success
    obtain ⟨below, atParent⟩ := parent missing
    obtain ⟨keeps, reached⟩ := put_of_reach_missing emptyFolder missing atParent
    exact ⟨keeps, folderMode, [], reached⟩
  · simp at success

theorem of_afterwards_makeFolder {error : Option FileError}
    (parent : tree.reach path = .error .missing →
      ∃ below, tree.reachFrom [] path.names.dropLast = .ok below)
    (ended : tree.afterwards (tree.makeFolder path) = (error, changed)) :
    KeepsAll tree changed ∧
      (error = none → ∃ mode entries, changed.reach path = .ok (folder mode entries)) := by
  cases outcome : tree.makeFolder path with
  | error problem =>
      rw [outcome, afterwards, Prod.mk.injEq] at ended
      obtain ⟨rfl, rfl⟩ := ended
      exact ⟨.refl tree, by simp⟩
  | ok made =>
      rw [outcome, afterwards, Prod.mk.injEq] at ended
      obtain ⟨rfl, rfl⟩ := ended
      obtain ⟨keeps, reached⟩ := of_makeFolder_eq_ok parent outcome
      exact ⟨keeps, fun _ => reached⟩

/-- Making folders from the top down keeps everything.  If it succeeds, the last of
them can be reached. -/
theorem of_makeFoldersUp {anchor : String} {up : List String}
    {error : Option FileError}
    (ended : tree.makeFoldersUp anchor up = (error, made)) :
    KeepsAll tree made ∧
      (error = none → up ≠ [] →
        ∃ mode entries, made.reach ⟨anchor, up.reverse⟩ = .ok (folder mode entries)) := by
  induction up generalizing tree error made with
  | nil =>
      rw [makeFoldersUp, Prod.mk.injEq] at ended
      obtain ⟨rfl, rfl⟩ := ended
      exact ⟨.refl tree, by simp⟩
  | cons name above induction =>
      simp only [makeFoldersUp] at ended
      split at ended
      · split at ended
        · rename_i problem half failed
          obtain ⟨rfl, rfl⟩ := Prod.mk.inj ended
          exact ⟨(induction failed).1, by simp⟩
        · rename_i half succeeded
          obtain ⟨keeps, reached⟩ := induction succeeded
          have parent : ∃ below, half.reachFrom [] (name :: above).reverse.dropLast =
              .ok below := by
            rw [List.reverse_cons, List.dropLast_concat]
            cases above with
            | nil => exact ⟨half, rfl⟩
            | cons next above =>
                obtain ⟨mode, entries, atAbove⟩ := reached rfl (by simp)
                exact ⟨_, (reach_eq_ok_iff.mp atAbove).2.2⟩
          obtain ⟨keepsOn, last⟩ := of_afterwards_makeFolder (fun _ => parent) ended
          exact ⟨keeps.trans keepsOn, fun noError _ => last noError⟩
      · rename_i notMissing
        obtain ⟨keeps, last⟩ := of_afterwards_makeFolder
          (fun missing => absurd missing notMissing) ended
        exact ⟨keeps, fun noError _ => last noError⟩

theorem reachFrom_of_makeFoldersUp {anchor : String} {up : List String}
    (ended : tree.makeFoldersUp anchor up = (none, made)) :
    ∃ below, made.reachFrom [] up.reverse = .ok below := by
  cases up with
  | nil => exact ⟨made, rfl⟩
  | cons name above =>
      obtain ⟨mode, entries, reached⟩ := (of_makeFoldersUp ended).2 rfl (by simp)
      exact ⟨_, (reach_eq_ok_iff.mp reached).2.2⟩

/-- Making a folder and those above it keeps everything.  If it succeeds, the folder
can be reached. -/
theorem of_makeFolders {error : Option FileError}
    (ended : tree.makeFolders path = (error, made)) :
    KeepsAll tree made ∧ (error = none → path.names ≠ [] →
      ∃ mode entries, made.reach path = .ok (folder mode entries)) := by
  obtain ⟨keeps, reached⟩ := of_makeFoldersUp ended
  refine ⟨keeps, fun noError below => ?_⟩
  simpa using reached noError (by simpa using below)

theorem makeFoldersUp_of_folder {anchor : String} {up : List String} {mode : Nat}
    {entries : List (String × FileTree)}
    (reached : tree.reach ⟨anchor, up.reverse⟩ = .ok (folder mode entries)) :
    tree.makeFoldersUp anchor up = (none, tree) := by
  cases up with
  | nil => rfl
  | cons name above =>
      simp only [makeFoldersUp, reached]
      rw [makeFolder, reached]
      rfl

end Making

end FileTree

end ScriptLint
