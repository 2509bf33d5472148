import Mathlib.Data.List.Basic
import ScriptLint.Proofs.Named
import ScriptLint.Report

/-!
# Reports by file

A report on diagnostics that come file by file has the sections of these files in their
order.  Files without diagnostics take no part in it.
-/

namespace ScriptLint.Report

/-- Diagnostics that come file by file: no file comes twice, and its diagnostics are
about it. -/
structure ByFile (entries : List (String × List Diagnostic)) : Prop where
  distinct : (entries.map (·.1)).Nodup
  own : ∀ entry ∈ entries, ∀ diagnostic ∈ entry.2, diagnostic.path = entry.1

theorem addTo_last {groups : List (String × List Diagnostic)} {path : String}
    {held : List Diagnostic} {diagnostic : Diagnostic} (absent : path ∉ groups.map (·.1))
    (about : diagnostic.path = path) :
    addTo (groups ++ [(path, held)]) diagnostic = groups ++ [(path, held ++ [diagnostic])] := by
  subst about
  induction groups with
  | nil => simp [addTo, putNamed, getNamed?]
  | cons entry rest induction =>
      obtain ⟨first, other⟩ := entry
      obtain ⟨differs, absentRest⟩ : diagnostic.path ≠ first ∧
          diagnostic.path ∉ rest.map (·.1) := by
        simpa using absent
      have later := induction absentRest
      simp only [addTo, List.cons_append, getNamed?, putNamed, Ne.symm differs, if_false,
        List.find?_cons, decide_false] at later ⊢
      rw [later]

theorem foldl_addTo {groups : List (String × List Diagnostic)} {path : String}
    {diagnostics : List Diagnostic} (absent : path ∉ groups.map (·.1))
    (about : ∀ diagnostic ∈ diagnostics, diagnostic.path = path) (held : List Diagnostic) :
    diagnostics.foldl addTo (groups ++ [(path, held)]) =
      groups ++ [(path, held ++ diagnostics)] := by
  induction diagnostics generalizing held with
  | nil => simp
  | cons diagnostic rest induction =>
      obtain ⟨here, later⟩ := List.forall_mem_cons.mp about
      rw [List.foldl_cons, addTo_last absent here, induction later]
      simp

theorem foldl_addTo_own {groups : List (String × List Diagnostic)} {path : String}
    {diagnostics : List Diagnostic} (absent : path ∉ groups.map (·.1))
    (about : ∀ diagnostic ∈ diagnostics, diagnostic.path = path) :
    diagnostics.foldl addTo groups =
      groups ++ [(path, diagnostics)].filter fun entry => !entry.2.isEmpty := by
  cases diagnostics with
  | nil => simp
  | cons diagnostic rest =>
      obtain ⟨rfl, later⟩ := List.forall_mem_cons.mp about
      have nothing := getNamed?_eq_none_iff.mpr absent
      have first : addTo groups diagnostic = groups ++ [(diagnostic.path, [diagnostic])] := by
        rw [addTo, nothing]
        exact putNamed_of_absent _ nothing
      rw [List.foldl_cons, first, foldl_addTo absent later]
      simp

theorem foldl_addTo_flatMap {entries groups : List (String × List Diagnostic)}
    (byFile : ByFile entries) (apart : ∀ entry ∈ entries, entry.1 ∉ groups.map (·.1)) :
    (entries.flatMap (·.2)).foldl addTo groups =
      groups ++ entries.filter fun entry => !entry.2.isEmpty := by
  induction entries generalizing groups with
  | nil => simp
  | cons entry rest induction =>
      obtain ⟨distinctHere, distinctRest⟩ := List.nodup_cons.mp byFile.distinct
      obtain ⟨ownHere, ownRest⟩ := List.forall_mem_cons.mp byFile.own
      obtain ⟨apartHere, apartRest⟩ := List.forall_mem_cons.mp apart
      rw [List.flatMap_cons, List.foldl_append, foldl_addTo_own apartHere ownHere,
        induction ⟨distinctRest, ownRest⟩, List.append_assoc, ← List.filter_append]
      · rfl
      · intro other member
        rw [List.map_append, List.mem_append]
        rintro (inGroups | here)
        · exact apartRest other member inGroups
        · obtain ⟨found, kept, same⟩ := List.mem_map.mp here
          obtain rfl := List.mem_singleton.mp (List.mem_filter.mp kept).1
          exact distinctHere (List.mem_map.mpr ⟨other, member, same.symm⟩)

theorem render_filter (entries : List (String × List Diagnostic)) :
    render (entries.filter fun entry => !entry.2.isEmpty) = render entries := by
  unfold render
  congr 1
  induction entries with
  | nil => rfl
  | cons entry rest induction =>
      obtain ⟨path, diagnostics⟩ := entry
      cases diagnostics with
      | nil => simpa [String.join_cons, fileSection] using induction
      | cons diagnostic others => simp [String.join_cons, induction]

theorem ofDiagnostics_flatMap {entries : List (String × List Diagnostic)}
    (byFile : ByFile entries) :
    ofDiagnostics (entries.flatMap (·.2)) = render entries := by
  rw [ofDiagnostics, group, foldl_addTo_flatMap byFile (by simp), List.nil_append,
    render_filter]

section Comparing

theorem length_fileSection_eq_zero_iff {path : String} {diagnostics : List Diagnostic} :
    (fileSection path diagnostics).length = 0 ↔ diagnostics = [] := by
  cases diagnostics with
  | nil => simp [fileSection]
  | cons diagnostic rest => simp [fileSection]

variable {α : Type} {items : List α} {name : α → String}
  {fewer more : α → List Diagnostic}

/-- An item without diagnostics may as well be left out. -/
theorem render_map_getD (items : List α) (name : α → String)
    (found : α → Option (List Diagnostic)) :
    render (items.map fun item => (name item, (found item).getD [])) =
      render (items.filterMap fun item => (found item).map (name item, ·)) := by
  unfold render
  congr 1
  induction items with
  | nil => rfl
  | cons item rest induction =>
      cases held : found item with
      | none => simpa [held, String.join_cons, fileSection] using induction
      | some diagnostics => simpa [held, String.join_cons] using induction

private theorem length_join_cases (name : α → String)
    (part : ∀ item ∈ items, fewer item = more item ∨ fewer item = []) :
    (∀ item ∈ items, fewer item = more item) ∨
      (String.join (items.map fun item => fileSection (name item) (fewer item))).length <
        (String.join (items.map fun item => fileSection (name item) (more item))).length := by
  -- A section that is left out makes the text shorter, and no other section makes up for it.
  induction items with
  | nil => exact Or.inl (by simp)
  | cons item rest induction =>
      obtain ⟨here, later⟩ := List.forall_mem_cons.mp part
      have restLe : (String.join (rest.map fun item =>
            fileSection (name item) (fewer item))).length ≤
          (String.join (rest.map fun item => fileSection (name item) (more item))).length := by
        rcases induction later with same | shorter
        · refine Nat.le_of_eq (congrArg (fun sections => (String.join sections).length) ?_)
          exact List.map_congr_left fun item member => by rw [same item member]
        · exact Nat.le_of_lt shorter
      rw [List.forall_mem_cons]
      simp only [List.map_cons, String.join_cons, String.length_append]
      by_cases equal : fewer item = more item
      · rw [equal]
        rcases induction later with same | shorter
        · exact Or.inl ⟨rfl, same⟩
        · exact Or.inr (by omega)
      · have none := here.resolve_left equal
        have nothing : (fileSection (name item) (fewer item)).length = 0 :=
          length_fileSection_eq_zero_iff.mpr none
        have something : (fileSection (name item) (more item)).length ≠ 0 := by
          rw [Ne, length_fileSection_eq_zero_iff]
          exact fun empty => equal (none.trans empty.symm)
        exact Or.inr (by omega)

theorem render_eq_iff (part : ∀ item ∈ items, fewer item = more item ∨ fewer item = []) :
    render (items.map fun item => (name item, fewer item)) =
        render (items.map fun item => (name item, more item)) ↔
      ∀ item ∈ items, fewer item = more item := by
  constructor
  · intro same
    have lengths := congrArg String.length same
    simp only [render, String.length_append, List.map_map, Function.comp_def] at lengths
    rcases length_join_cases name part with all | shorter
    · exact all
    · omega
  · intro same
    refine congrArg render (List.map_congr_left fun item member => ?_)
    rw [same item member]

end Comparing

end ScriptLint.Report
