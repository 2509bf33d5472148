import Mathlib.Data.List.Basic
import ScriptLint.Proofs.Named
import ScriptLint.Store

/-!
# Recorded findings

A store that records what was found in some files has the findings of these files and is
otherwise as it was.
-/

namespace ScriptLint.Store

/-- Replaces the entry of a path if something is to be stored for it. -/
def record (store : Store) : String × Option (List Diagnostic) → Store
  | (_, none) => store
  | (path, some diagnostics) => store.set path diagnostics

/-- Records what was found in one file after the other. -/
def recordAll (store : Store) (found : List (String × Option (List Diagnostic))) : Store :=
  found.foldl record store

variable {store : Store} {path : String} {diagnostics : List Diagnostic}
  {found : List (String × Option (List Diagnostic))}

theorem recordAll_cons (store : Store) (entry : String × Option (List Diagnostic))
    (rest : List (String × Option (List Diagnostic))) :
    store.recordAll (entry :: rest) = (store.record entry).recordAll rest :=
  rfl

theorem getNamed?_record (entry : String × Option (List Diagnostic)) :
    getNamed? (store.record entry).entries path =
      if entry.1 = path then entry.2.or (getNamed? store.entries path)
      else getNamed? store.entries path := by
  obtain ⟨own, result⟩ := entry
  cases result with
  | none => simp [record]
  | some stored => simp [record, set, getNamed?_putNamed]

theorem getNamed?_recordAll_of_absent
    (absent : ∀ diagnostics, (path, some diagnostics) ∉ found) :
    getNamed? (store.recordAll found).entries path = getNamed? store.entries path := by
  induction found generalizing store with
  | nil => rfl
  | cons entry rest induction =>
      have here : getNamed? (store.record entry).entries path =
          getNamed? store.entries path := by
        rw [getNamed?_record]
        split
        · rename_i same
          obtain ⟨own, result⟩ := entry
          subst same
          cases result with
          | none => rfl
          | some stored => exact absurd List.mem_cons_self (absent stored)
        · rfl
      rw [recordAll_cons]
      exact (induction fun diagnostics member =>
        absent diagnostics (List.mem_cons_of_mem _ member)).trans here

theorem getNamed?_recordAll_of_mem (distinct : (found.map (·.1)).Nodup)
    (member : (path, some diagnostics) ∈ found) :
    getNamed? (store.recordAll found).entries path = some diagnostics := by
  induction found generalizing store with
  | nil => simp at member
  | cons entry rest induction =>
      obtain ⟨elsewhere, distinctRest⟩ := List.nodup_cons.mp distinct
      rw [recordAll_cons]
      rcases List.mem_cons.mp member with rfl | later
      · have absent : ∀ diagnostics, (path, some diagnostics) ∉ rest := by
          intro stored listed
          exact elsewhere (List.mem_map.mpr ⟨_, listed, rfl⟩)
        refine (getNamed?_recordAll_of_absent absent).trans ?_
        simp [getNamed?_record]
      · exact induction distinctRest later

theorem mem_paths_iff : path ∈ store.paths ↔ (getNamed? store.entries path).isSome = true := by
  simp [paths, getNamed?, List.find?_isSome]

theorem getNamed?_retain (kept : List String) :
    getNamed? (store.retain kept).2.entries path =
      if path ∈ kept then getNamed? store.entries path else none := by
  unfold retain getNamed?
  rw [List.find?_filter]
  split
  · rename_i isKept
    congr 2
    funext entry
    by_cases same : entry.1 = path
    · simp [same, isKept]
    · simp [same]
  · rename_i dropped
    rw [Option.map_eq_none_iff, List.find?_eq_none]
    intro entry _
    by_cases same : entry.1 = path
    · simp [same, dropped]
    · simp [same]

end ScriptLint.Store
