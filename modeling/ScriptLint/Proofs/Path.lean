import Mathlib.Data.List.Basic
import ScriptLint.Path.Resolve

/-!
# Resolved names

Resolving leaves no double dots, invents no names and does nothing to names without
double dots.
-/

namespace ScriptLint.Path

private theorem mem_foldl_pushName {name : String} {names above : List String}
    (member : name ∈ names.foldl pushName above) : name ∈ above ∨ name ∈ names ∧ name ≠ ".." := by
  induction names generalizing above with
  | nil => exact Or.inl member
  | cons first names induction =>
      rcases induction member with early | ⟨late, ordinary⟩
      · unfold pushName at early
        split at early
        · exact Or.inl (List.mem_of_mem_tail early)
        · rename_i ordinary
          rcases List.mem_cons.mp early with rfl | old
          · exact Or.inr ⟨List.mem_cons_self, ordinary⟩
          · exact Or.inl old
      · exact Or.inr ⟨List.mem_cons_of_mem _ late, ordinary⟩

theorem of_mem_resolveNames {name : String} {names : List String}
    (member : name ∈ resolveNames names) : name ∈ names ∧ name ≠ ".." := by
  simpa using mem_foldl_pushName (List.mem_reverse.mp member)

theorem foldl_pushName_of_ordinary {names : List String}
    (ordinary : ∀ name ∈ names, name ≠ "..") (above : List String) :
    names.foldl pushName above = names.reverse ++ above := by
  induction names generalizing above with
  | nil => rfl
  | cons name names induction =>
      have here : pushName above name = name :: above := by
        simp [pushName, ordinary name List.mem_cons_self]
      rw [List.foldl_cons, here,
        induction (fun other member => ordinary other (List.mem_cons_of_mem _ member))]
      simp

theorem resolveNames_of_ordinary {names : List String}
    (ordinary : ∀ name ∈ names, name ≠ "..") : resolveNames names = names := by
  simp [resolveNames, foldl_pushName_of_ordinary ordinary]

@[simp]
theorem resolve_resolve (path : Path) : path.resolve.resolve = path.resolve := by
  rw [resolve, resolve, resolveNames_of_ordinary fun _ member => (of_mem_resolveNames member).2]

theorem names_resolve_child_resolve (path : Path) {name : String}
    (ordinary : name ≠ "..") :
    (path.resolve.child name).resolve.names = path.resolve.names ++ [name] := by
  apply resolveNames_of_ordinary
  intro other member
  rcases List.mem_append.mp member with inFolder | here
  · exact (of_mem_resolveNames inFolder).2
  · obtain rfl := List.mem_singleton.mp here
    exact ordinary

theorem below?_eq_some_iff {path folder : Path} {names : List String} :
    path.below? folder = some names ↔ path = ⟨folder.anchor, folder.names ++ names⟩ := by
  unfold below?
  constructor
  · intro below
    split at below
    · rename_i anchored
      have whole := eq_append_of_namesAfter? below
      cases path
      simp_all
    · simp at below
  · rintro rfl
    simp [namesAfter?_append]

/-- Ordinary names after a path stay behind its resolved form. -/
theorem names_resolve_join {path suffix : Path} (relative : suffix.anchor = "")
    (ordinary : ∀ name ∈ suffix.names, name ≠ "..") :
    (path.join suffix).resolve.names = path.resolve.names ++ suffix.names := by
  rw [join, if_pos relative, resolve, resolve, resolveNames, List.foldl_append,
    foldl_pushName_of_ordinary ordinary, List.reverse_append, List.reverse_reverse]
  rfl

theorem name_append (anchor : String) (above : List String) {names : List String}
    (nonempty : names ≠ []) :
    name ⟨anchor, above ++ names⟩ = names.getLast?.getD "" := by
  rw [name, List.getLast?_append_of_ne_nil _ nonempty]

theorem resolve_child {path : Path} {name : String} (resolved : path.resolve = path)
    (ordinary : name ≠ "..") : (path.child name).resolve = path.child name := by
  have names := names_resolve_child_resolve path ordinary
  rw [resolved] at names
  have anchored : path.anchor = "/" := by
    rw [← resolved]
    rfl
  rw [child, anchored] at names ⊢
  exact congrArg (Path.mk "/") names

theorem holdsNull_eq_false_iff {path : Path} :
    path.holdsNull = false ↔ ∀ name ∈ path.names, '\x00' ∉ name.toList := by
  simp [holdsNull]

theorem holdsNull_join {path suffix : Path} (relative : suffix.anchor = "") :
    (path.join suffix).holdsNull = (path.holdsNull || suffix.holdsNull) := by
  rw [join, if_pos relative, holdsNull, List.any_append]
  rfl

/-- Letters after a dot are a suffix unless the dot starts the name. -/
theorem suffixOfName_append (stem : List Char) {letters : List Char} (dotless : '.' ∉ letters)
    (nonempty : letters ≠ []) :
    suffixOfName (stem ++ '.' :: letters) = if stem = [] then [] else '.' :: letters := by
  have tail : ((stem ++ '.' :: letters).reverse.takeWhile (· ≠ '.')).reverse = letters := by
    have split : (stem ++ '.' :: letters).reverse = letters.reverse ++ '.' :: stem.reverse := by
      simp
    have inside : ∀ char ∈ letters.reverse, decide (char ≠ '.') = true := by
      intro char member
      simp only [decide_eq_true_eq]
      rintro rfl
      exact dotless (List.mem_reverse.mp member)
    rw [split, List.takeWhile_append_of_pos inside, List.takeWhile_cons_of_neg (by simp),
      List.append_nil, List.reverse_reverse]
  unfold suffixOfName
  simp only [tail]
  cases stem with
  | nil => simp
  | cons char rest =>
      rw [if_neg, if_neg, if_neg (List.cons_ne_nil char rest)]
      · simp only [List.length_append, List.length_cons]
        omega
      · simp only [List.length_append, List.length_cons, Bool.or_eq_true, decide_eq_true_eq,
          List.isEmpty_iff, nonempty, or_false]
        omega

theorem utf8ByteSize_le_child {path : Path} (written : path.anchor ≠ "" ∨ path.names ≠ [])
    (name : String) :
    path.toString.utf8ByteSize ≤ (path.child name).toString.utf8ByteSize := by
  obtain ⟨anchor, names⟩ := path
  rw [Path.toString, Path.toString]
  by_cases top : names = []
  · have anchored : anchor ≠ "" := written.resolve_right (not_not_intro top)
    simp [child, top, anchored]
  · rw [if_neg (by simp [top]), if_neg (by simp [child])]
    simp only [child]
    rw [String.intercalate_append_of_ne_nil top (by simp)]
    simp only [String.utf8ByteSize_append]
    omega

end ScriptLint.Path
