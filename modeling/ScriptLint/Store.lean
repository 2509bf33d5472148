import ScriptLint.Diagnostic
import ScriptLint.Named

/-!
# The store of diagnostics

The store holds, by path, the diagnostics of the latest completed analysis.
Entries are replaced whole and keep the place of their first setting until they
are removed.
-/

namespace ScriptLint

/-- Diagnostics by path, in the order in which the paths were first set. -/
structure Store where
  entries : List (String × List Diagnostic)
deriving DecidableEq, Repr

namespace Store

def empty : Store := ⟨[]⟩

def set (store : Store) (path : String) (diagnostics : List Diagnostic) : Store :=
  ⟨putNamed path diagnostics store.entries⟩

/-- The entry of a path; empty if there is none. -/
def get (store : Store) (path : String) : List Diagnostic :=
  (getNamed? store.entries path).getD []

def paths (store : Store) : List String :=
  store.entries.map (·.1)

def contains (store : Store) (path : String) : Bool :=
  store.paths.contains path

/-- Drops the entries of all paths that are not kept.  Gives the dropped paths in
order. -/
def retain (store : Store) (kept : List String) : List String × Store :=
  (store.paths.filter (!kept.contains ·),
    ⟨store.entries.filter fun entry => kept.contains entry.1⟩)

end Store

end ScriptLint
