/-!
# Named entries

Lists of values under distinct names, in the order in which the names were first
given.
-/

namespace ScriptLint

/-- Puts a value under a name.  A name that is present keeps its place and takes
the new value. -/
def putNamed {α : Type} (name : String) (value : α) :
    List (String × α) → List (String × α)
  | [] => [(name, value)]
  | (other, held) :: rest =>
      if other = name then (name, value) :: rest
      else (other, held) :: putNamed name value rest

/-- Entries in the order of their first occurrence, each with its last value. -/
def ofNamed {α : Type} (entries : List (String × α)) : List (String × α) :=
  entries.foldl (fun held entry => putNamed entry.1 entry.2 held) []

def getNamed? {α : Type} (entries : List (String × α)) (name : String) :
    Option α :=
  (entries.find? (·.1 = name)).map (·.2)

def eraseNamed {α : Type} (name : String) (entries : List (String × α)) :
    List (String × α) :=
  entries.filter (·.1 ≠ name)

/-- Putting a value changes what is under its name and nothing else. -/
theorem getNamed?_putNamed {α : Type} (name other : String) (value : α)
    (entries : List (String × α)) :
    getNamed? (putNamed name value entries) other =
      if name = other then some value else getNamed? entries other := by
  induction entries with
  | nil =>
      by_cases same : name = other
      · simp [putNamed, getNamed?, same]
      · simp [putNamed, getNamed?, same]
  | cons entry rest induction =>
      obtain ⟨first, held⟩ := entry
      by_cases present : first = name
      · subst present
        by_cases same : first = other
        · simp [putNamed, getNamed?, same]
        · simp [putNamed, getNamed?, same]
      · by_cases found : first = other
        · subst found
          have differs : ¬name = first := fun same => present same.symm
          simp [putNamed, getNamed?, present, differs]
        · simp only [getNamed?] at induction
          simp [putNamed, getNamed?, present, found, induction]

end ScriptLint
