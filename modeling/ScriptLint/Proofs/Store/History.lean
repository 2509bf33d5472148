import Mathlib.Data.List.Induction
import Mathlib.Data.Nat.Find
import ScriptLint.Proofs.Store

/-!
# The history of a store

A store that starts empty is told by the actions on it.  Setting a path stands as long
as no later pruning leaves the path out.  The paths of the store are those with a
setting that stands: the last such setting gives the diagnostics of a path, and the
first one its place among the others.
-/

namespace ScriptLint.Store

/-- What is done to a store. -/
inductive Action where
  | set (path : String) (diagnostics : List Diagnostic)
  | retain (kept : List String)
deriving DecidableEq, Repr

def Action.keeps (path : String) : Action → Bool
  | set _ _ => true
  | retain kept => kept.contains path

def perform (store : Store) : Action → Store
  | .set path diagnostics => store.set path diagnostics
  | .retain kept => (store.retain kept).2

/-- The store after some actions, the first of them on an empty store. -/
def ofHistory (history : List Action) : Store :=
  history.foldl perform empty

/-- A path was set at a time, and no pruning since then has left it out. -/
structure StandsAt (history : List Action) (path : String) (diagnostics : List Diagnostic)
    (time : Nat) : Prop where
  wasSet : history[time]? = some (.set path diagnostics)
  kept : ∀ action ∈ history.drop (time + 1), action.keeps path = true

def Stands (history : List Action) (path : String) : Prop :=
  ∃ diagnostics time, StandsAt history path diagnostics time

/-- The diagnostics with which a path was set last. -/
def IsLatest (history : List Action) (path : String) (diagnostics : List Diagnostic) : Prop :=
  ∃ time, StandsAt history path diagnostics time ∧
    ∀ other later, StandsAt history path other later → later ≤ time

/-- The time at which a path was set first, after its last removal if there was one. -/
def EntersAt (history : List Action) (path : String) (time : Nat) : Prop :=
  (∃ diagnostics, StandsAt history path diagnostics time) ∧
    ∀ other earlier, StandsAt history path other earlier → time ≤ earlier

def EntersBefore (history : List Action) (first second : String) : Prop :=
  ∃ time later, EntersAt history first time ∧ EntersAt history second later ∧ time < later

/-- What a store holds, as its history tells. -/
structure Recalls (store : Store) (history : List Action) : Prop where
  present : ∀ path, store.contains path = true ↔ Stands history path
  latest : ∀ path, store.contains path = true → IsLatest history path (store.get path)
  absent : ∀ path, store.contains path = false → store.get path = []
  listed : ∀ path, path ∈ store.paths ↔ Stands history path
  once : store.paths.Nodup
  ordered : store.paths.Pairwise (EntersBefore history)

variable {history : List Action} {action : Action} {path : String}
  {diagnostics : List Diagnostic} {time : Nat}

theorem StandsAt.lt_length (stands : StandsAt history path diagnostics time) :
    time < history.length :=
  (List.getElem?_eq_some_iff.mp stands.wasSet).1

theorem standsAt_append_iff :
    StandsAt (history ++ [action]) path diagnostics time ↔
      StandsAt history path diagnostics time ∧ action.keeps path = true ∨
        action = .set path diagnostics ∧ time = history.length := by
  constructor
  · rintro ⟨wasSet, kept⟩
    rcases Nat.lt_trichotomy time history.length with before | rfl | behind
    · rw [List.getElem?_append_left before] at wasSet
      rw [List.drop_append_of_le_length before] at kept
      have keptBefore : ∀ other ∈ history.drop (time + 1), other.keeps path = true :=
        fun other member => kept other (List.mem_append_left _ member)
      exact Or.inl ⟨⟨wasSet, keptBefore⟩,
        kept action (List.mem_append_right _ List.mem_cons_self)⟩
    · exact Or.inr ⟨by simpa using wasSet, rfl⟩
    · have isLast : (history ++ [action]).length ≤ time := by
        rw [List.length_append, List.length_singleton]
        omega
      rw [List.getElem?_eq_none isLast] at wasSet
      simp at wasSet
  · rintro (⟨stands, keeps⟩ | ⟨rfl, rfl⟩)
    · have before := stands.lt_length
      constructor
      · rw [List.getElem?_append_left before, stands.wasSet]
      · rw [List.drop_append_of_le_length before]
        intro other member
        rcases List.mem_append.mp member with early | new
        · exact stands.kept other early
        · rw [List.mem_singleton.mp new, keeps]
    · constructor
      · simp
      · simp

section Latest

theorem isLatest_append_set (history : List Action) (path : String)
    (diagnostics : List Diagnostic) :
    IsLatest (history ++ [.set path diagnostics]) path diagnostics := by
  refine ⟨history.length, standsAt_append_iff.mpr (Or.inr ⟨rfl, rfl⟩), ?_⟩
  intro other later stands
  have inside := stands.lt_length
  rw [List.length_append, List.length_singleton] at inside
  omega

/-- Two settings of a path that are both the last one are the same. -/
theorem IsLatest.unique {other : List Diagnostic} (first : IsLatest history path diagnostics)
    (second : IsLatest history path other) : diagnostics = other := by
  obtain ⟨time, stands, isLast⟩ := first
  obtain ⟨later, standsToo, isLastToo⟩ := second
  obtain rfl : time = later :=
    Nat.le_antisymm (isLastToo _ _ stands) (isLast _ _ standsToo)
  have same := Option.some.inj (stands.wasSet.symm.trans standsToo.wasSet)
  exact (Action.set.inj same).2

theorem isLatest_append_iff (notSet : ∀ other, action ≠ .set path other) :
    IsLatest (history ++ [action]) path diagnostics ↔
      action.keeps path = true ∧ IsLatest history path diagnostics := by
  have stillStands : ∀ other moment, StandsAt (history ++ [action]) path other moment ↔
      StandsAt history path other moment ∧ action.keeps path = true := by
    intro other moment
    rw [standsAt_append_iff]
    exact or_iff_left fun set => notSet other set.1
  unfold IsLatest
  simp only [stillStands]
  constructor
  · rintro ⟨time, ⟨stands, keeps⟩, isLast⟩
    exact ⟨keeps, time, stands, fun other later found => isLast other later ⟨found, keeps⟩⟩
  · rintro ⟨keeps, time, stands, isLast⟩
    exact ⟨time, ⟨stands, keeps⟩, fun other later found => isLast other later found.1⟩

theorem ofHistory_append (history : List Action) (action : Action) :
    ofHistory (history ++ [action]) = (ofHistory history).perform action := by
  rw [ofHistory, List.foldl_append]
  rfl

/-- What is under a path is what it was set to last. -/
theorem getNamed?_ofHistory_eq_some_iff :
    getNamed? (ofHistory history).entries path = some diagnostics ↔
      IsLatest history path diagnostics := by
  induction history using List.reverseRecOn with
  | nil =>
      constructor
      · intro held
        simp [ofHistory, empty, getNamed?] at held
      · rintro ⟨time, stands, -⟩
        exact absurd stands.lt_length (Nat.not_lt_zero time)
  | append_singleton history action induction =>
      rw [ofHistory_append]
      cases action with
      | set other given =>
          rw [perform, set, getNamed?_putNamed]
          by_cases same : other = path
          · subst same
            rw [if_pos rfl, Option.some.injEq]
            have latest := isLatest_append_set history other given
            exact ⟨fun equal => equal ▸ latest, latest.unique⟩
          · have notSet : ∀ stored, Action.set other given ≠ .set path stored :=
              fun stored equal => same (Action.set.inj equal).1
            rw [if_neg same, induction, isLatest_append_iff notSet]
            exact (and_iff_right rfl).symm
      | retain kept =>
          have notSet : ∀ stored, Action.retain kept ≠ .set path stored := by simp
          rw [perform, getNamed?_retain, isLatest_append_iff notSet, ← induction]
          by_cases isKept : path ∈ kept
          · simp [isKept, Action.keeps]
          · simp [isKept, Action.keeps]

end Latest

section Places

theorem exists_isLatest (stands : Stands history path) :
    ∃ diagnostics, IsLatest history path diagnostics := by
  classical
  obtain ⟨diagnostics, time, standsAt⟩ := stands
  have bounded : ∀ {other later}, StandsAt history path other later →
      later ≤ history.length := fun found => Nat.le_of_lt found.lt_length
  obtain ⟨last, standsLast⟩ := Nat.findGreatest_spec
    (P := fun moment => ∃ other, StandsAt history path other moment)
    (bounded standsAt) ⟨diagnostics, standsAt⟩
  refine ⟨last, _, standsLast, ?_⟩
  intro other later found
  exact Nat.le_findGreatest (bounded found) ⟨other, found⟩

theorem exists_entersAt (stands : Stands history path) : ∃ time, EntersAt history path time := by
  classical
  obtain ⟨diagnostics, time, stands⟩ := stands
  have some : ∃ moment other, StandsAt history path other moment :=
    ⟨time, diagnostics, stands⟩
  refine ⟨Nat.find some, Nat.find_spec some, fun other earlier found => ?_⟩
  exact Nat.find_min' some ⟨other, found⟩

theorem mem_paths_ofHistory_iff : path ∈ (ofHistory history).paths ↔ Stands history path := by
  rw [mem_paths_iff, Option.isSome_iff_exists]
  simp only [getNamed?_ofHistory_eq_some_iff]
  constructor
  · rintro ⟨diagnostics, time, stands, -⟩
    exact ⟨diagnostics, time, stands⟩
  · exact exists_isLatest

theorem EntersAt.lt_length (enters : EntersAt history path time) : time < history.length := by
  obtain ⟨⟨diagnostics, stands⟩, -⟩ := enters
  exact stands.lt_length

theorem EntersAt.append (enters : EntersAt history path time)
    (keeps : action.keeps path = true) : EntersAt (history ++ [action]) path time := by
  obtain ⟨⟨diagnostics, stands⟩, isFirst⟩ := enters
  refine ⟨⟨diagnostics, standsAt_append_iff.mpr (Or.inl ⟨stands, keeps⟩)⟩, ?_⟩
  intro other earlier found
  rcases standsAt_append_iff.mp found with ⟨old, -⟩ | ⟨-, rfl⟩
  · exact isFirst other earlier old
  · exact Nat.le_of_lt stands.lt_length

theorem EntersBefore.append {first second : String} (ordered : EntersBefore history first second)
    (keepsFirst : action.keeps first = true) (keepsSecond : action.keeps second = true) :
    EntersBefore (history ++ [action]) first second := by
  obtain ⟨time, later, enters, entersLater, before⟩ := ordered
  exact ⟨time, later, enters.append keepsFirst, entersLater.append keepsSecond, before⟩

theorem entersAt_append_set (absent : ¬ Stands history path) (diagnostics : List Diagnostic) :
    EntersAt (history ++ [.set path diagnostics]) path history.length := by
  refine ⟨⟨diagnostics, standsAt_append_iff.mpr (Or.inr ⟨rfl, rfl⟩)⟩, ?_⟩
  intro other earlier found
  rcases standsAt_append_iff.mp found with ⟨old, -⟩ | ⟨-, rfl⟩
  · exact absurd ⟨other, earlier, old⟩ absent
  · exact Nat.le_refl _

theorem paths_retain (store : Store) (kept : List String) :
    (store.retain kept).2.paths = store.paths.filter (kept.contains ·) := by
  simp only [retain, paths, List.filter_map, Function.comp_def]

/-- The paths of a store stand in the order in which they entered. -/
theorem pairwise_paths_ofHistory (history : List Action) :
    (ofHistory history).paths.Pairwise (EntersBefore history) := by
  induction history using List.reverseRecOn with
  | nil => exact List.Pairwise.nil
  | append_singleton history action induction =>
      rw [ofHistory_append]
      cases action with
      | set path diagnostics =>
          have old : (ofHistory history).paths.Pairwise
              (EntersBefore (history ++ [.set path diagnostics])) :=
            induction.imp fun ordered => ordered.append rfl rfl
          rw [perform, paths, set, names_putNamed]
          split
          · exact old
          · rename_i absent
            apply List.pairwise_append.mpr
            refine ⟨old, List.pairwise_singleton _ _, ?_⟩
            intro first member second isNew
            obtain rfl := List.mem_singleton.mp isNew
            obtain ⟨time, enters⟩ := exists_entersAt (mem_paths_ofHistory_iff.mp member)
            have isAbsent : ¬ Stands history second :=
              fun stands => absent (mem_paths_ofHistory_iff.mpr stands)
            exact ⟨time, history.length, enters.append rfl,
              entersAt_append_set isAbsent diagnostics, enters.lt_length⟩
      | retain kept =>
          rw [perform, paths_retain]
          apply (induction.filter _).imp_of_mem
          intro first second inFirst inSecond ordered
          exact ordered.append (List.mem_filter.mp inFirst).2 (List.mem_filter.mp inSecond).2

theorem EntersBefore.ne {first second : String} (ordered : EntersBefore history first second) :
    first ≠ second := by
  rintro rfl
  obtain ⟨time, later, ⟨⟨diagnostics, stands⟩, -⟩, ⟨-, isFirst⟩, before⟩ := ordered
  have notBefore := isFirst diagnostics time stands
  omega

end Places

theorem contains_iff {store : Store} : store.contains path = true ↔ path ∈ store.paths :=
  List.contains_iff_mem

/-- After any actions a store holds what its history tells, and pruning it gives those
of its paths that are gone then, in their order. -/
theorem recalls_ofHistory (history : List Action) :
    (ofHistory history).Recalls history ∧
      ∀ kept, ((ofHistory history).retain kept).1 =
        (ofHistory history).paths.filter fun path =>
          !(ofHistory (history ++ [.retain kept])).contains path := by
  have listed : ∀ path, path ∈ (ofHistory history).paths ↔ Stands history path :=
    fun path => mem_paths_ofHistory_iff
  have ordered := pairwise_paths_ofHistory history
  constructor
  · constructor
    · intro path
      rw [contains_iff, listed]
    · intro path present
      obtain ⟨diagnostics, held⟩ :=
        Option.isSome_iff_exists.mp (mem_paths_iff.mp (contains_iff.mp present))
      rw [get, held]
      exact getNamed?_ofHistory_eq_some_iff.mp held
    · intro path absent
      have missing : path ∉ (ofHistory history).paths := by
        rw [← contains_iff, absent]
        exact Bool.false_ne_true
      rw [get, getNamed?_eq_none_iff.mpr missing]
      rfl
    · exact listed
    · exact ordered.imp EntersBefore.ne
    · exact ordered
  · intro kept
    apply List.filter_congr
    intro path present
    have remains : (ofHistory (history ++ [.retain kept])).contains path = true ↔
        path ∈ kept := by
      rw [contains_iff, ofHistory_append, perform, paths_retain, List.mem_filter,
        and_iff_right present, List.contains_iff_mem]
    rw [Bool.not_inj_iff, Bool.eq_iff_iff, remains, List.contains_iff_mem]

-- A path keeps its place when it is set again, and loses it when it is left out.
example : (ofHistory [.set "a" [], .set "b" [], .set "c" [], .set "b" [],
    .retain ["b", "c"], .set "a" []]).paths = ["b", "c", "a"] := by
  decide

end ScriptLint.Store
