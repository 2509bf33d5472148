import ScriptLint.Ignore.Rules
import ScriptLint.Proofs.Path

/-!
# Below ignored paths

Whatever the verdict on single paths is, ignoring is closed downwards: the folders on the
way to a path are on the way to everything below it, and the path itself is one of them
then.  A verdict on the plain name of a path counts for files and folders alike.
-/

namespace ScriptLint

/-- A resolved path lies below a resolved folder if its names start with those of the
folder. -/
theorem Path.below?_resolve_eq_some_iff {path folder : Path} {names : List String} :
    path.resolve.below? folder.resolve = some names ↔
      path.resolve.names = folder.resolve.names ++ names := by
  rw [below?_eq_some_iff]
  constructor
  · intro below
    exact congrArg Path.names below
  · intro below
    exact congrArg (Path.mk "/") below

namespace IgnoreRules

def ignoresBy (verdict : List Char → Bool) (root path : Path) : Bool :=
  !path.holdsNull && (path.resolve.below? root.resolve).any (covers verdict)

theorem ignores_eq_ignoresBy (rules : IgnoreRules) (path : Path) :
    rules.ignores path = ignoresBy rules.verdict rules.root path := by
  unfold ignores ignoresBy
  cases path.resolve.below? rules.root.resolve with
  | none => simp
  | some names => rfl

variable {verdict : List Char → Bool} {names suffix : List String}

theorem mem_properInits_iff {folder : List String} :
    folder ∈ properInits names ↔ folder ≠ [] ∧ folder <+: names ∧ folder ≠ names := by
  simp only [properInits, List.mem_map, List.mem_range'_1]
  constructor
  · rintro ⟨depth, ⟨positive, short⟩, rfl⟩
    have length : (names.take depth).length = depth := by
      rw [List.length_take]
      omega
    refine ⟨?_, List.take_prefix depth names, ?_⟩
    · rintro empty
      rw [empty, List.length_nil] at length
      omega
    · intro whole
      rw [whole] at length
      omega
  · rintro ⟨nonempty, begins, proper⟩
    refine ⟨folder.length, ⟨List.length_pos_iff.mpr nonempty, ?_⟩,
      (List.prefix_iff_eq_take.mp begins).symm⟩
    have shorter : folder.length ≠ names.length := fun same => proper (begins.eq_of_length same)
    have notLonger := begins.length_le
    omega

theorem holdsFor_folder {path : List Char} (holds : holdsFor verdict path false = true) :
    holdsFor verdict path true = true := by
  unfold holdsFor at holds ⊢
  dsimp only at holds ⊢
  split at holds
  · simp at holds
  · rename_i nonempty
    rw [if_neg nonempty]
    simp only [Bool.false_and, Bool.or_false] at holds
    simp [holds]

theorem covers_append (nonempty : names ≠ []) (further : suffix ≠ [])
    (covered : covers verdict names = true) : covers verdict (names ++ suffix) = true := by
  rw [covers, Bool.or_eq_true, List.any_eq_true] at covered ⊢
  refine Or.inl ?_
  rcases covered with ⟨folder, above, holds⟩ | holds
  · obtain ⟨inside, begins, proper⟩ := mem_properInits_iff.mp above
    refine ⟨folder, mem_properInits_iff.mpr
      ⟨inside, begins.trans (List.prefix_append names suffix), ?_⟩, holds⟩
    rintro rfl
    have lengths := begins.length_le
    rw [List.length_append] at lengths
    have positive := List.length_pos_iff.mpr further
    omega
  · refine ⟨names, mem_properInits_iff.mpr
      ⟨nonempty, List.prefix_append names suffix, ?_⟩, holdsFor_folder holds⟩
    intro same
    exact further (List.self_eq_append_right.mp same)

/-- Whatever the verdict, nothing below an ignored path can be taken back, and nothing
outside of the root is ignored. -/
theorem ignoresBy_join (verdict : List Char → Bool) (root path : Path) :
    (∀ suffix : Path, suffix.anchor = "" → suffix.names ≠ [] →
      (∀ name ∈ suffix.names, name ≠ "..") → suffix.holdsNull = false →
      root.resolve.names <+: path.resolve.names → path.resolve.names ≠ root.resolve.names →
      ignoresBy verdict root path = true →
        ignoresBy verdict root (path.join suffix) = true) ∧
    (¬root.resolve.names <+: path.resolve.names → ignoresBy verdict root path = false) ∧
    (∀ rules : IgnoreRules, rules.ignores path = ignoresBy rules.verdict rules.root path) := by
  refine ⟨?_, ?_, fun rules => ignores_eq_ignoresBy rules path⟩
  · rintro suffix relative further ordinary noNull ⟨names, inside⟩ strictly ignored
    have nonempty : names ≠ [] := by
      rintro rfl
      rw [List.append_nil] at inside
      exact strictly inside.symm
    have found : path.resolve.below? root.resolve = some names :=
      Path.below?_resolve_eq_some_iff.mpr inside.symm
    have foundBelow : (path.join suffix).resolve.below? root.resolve =
        some (names ++ suffix.names) := by
      rw [Path.below?_resolve_eq_some_iff, Path.names_resolve_join relative ordinary, ← inside,
        List.append_assoc]
    rw [ignoresBy, found, Bool.and_eq_true] at ignored
    rw [ignoresBy, foundBelow, Path.holdsNull_join relative, noNull, Bool.or_false,
      Bool.and_eq_true]
    exact ⟨ignored.1, covers_append nonempty further ignored.2⟩
  · intro outside
    have none : path.resolve.below? root.resolve = none := by
      rw [Option.eq_none_iff_forall_ne_some]
      intro names found
      exact outside ⟨names, (Path.below?_resolve_eq_some_iff.mp found).symm⟩
    rw [ignoresBy, none, Option.any_none, Bool.and_false]

/-- The patterns of the lines `b` and `!b/k`. -/
def takenBack : List IgnorePattern :=
  [⟨false, .parts [.leading, .char 'b', .final]⟩,
    ⟨true, .parts [.char 'b', .char '/', .char 'k', .final]⟩]

theorem ignoresBy_join_takenBack :
    IgnorePattern.verdict takenBack ['b', '/', 'k'] = false ∧
      ignoresBy (IgnorePattern.verdict takenBack) ⟨"/", ["r"]⟩ ⟨"/", ["r", "b"]⟩ = true ∧
      ignoresBy (IgnorePattern.verdict takenBack) ⟨"/", ["r"]⟩
        (Path.join ⟨"/", ["r", "b"]⟩ ⟨"", ["k"]⟩) = true ∧
      ignoresBy (IgnorePattern.verdict takenBack) ⟨"/", ["r"]⟩ ⟨"/", ["b"]⟩ = false := by
  have ignored : ignoresBy (IgnorePattern.verdict takenBack) ⟨"/", ["r"]⟩
      ⟨"/", ["r", "b"]⟩ = true := by decide +kernel
  obtain ⟨below, -⟩ := ignoresBy_join (IgnorePattern.verdict takenBack) ⟨"/", ["r"]⟩
    ⟨"/", ["r", "b"]⟩
  obtain ⟨-, outside, -⟩ := ignoresBy_join (IgnorePattern.verdict takenBack) ⟨"/", ["r"]⟩
    ⟨"/", ["b"]⟩
  refine ⟨by decide, ignored, ?_, outside (by decide)⟩
  exact below ⟨"", ["k"]⟩ rfl (by decide) (by decide) (by decide) (by decide) (by decide) ignored

end IgnoreRules

end ScriptLint
