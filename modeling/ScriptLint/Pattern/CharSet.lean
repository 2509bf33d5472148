/-!
# Character sets

A set of characters in square brackets is a list of characters and ranges; a mark
after the opening bracket turns it around.  A closing bracket in the first place
belongs to the set, and so does a hyphen without a character on either side.  The
range from a character to an earlier one is empty.
-/

namespace ScriptLint

/-- One member of a character set. -/
inductive CharSet.Member where
  | one (char : Char)
  | range (low high : Char)
deriving DecidableEq, Repr

/-- A set of characters. -/
structure CharSet where
  negated : Bool
  members : List CharSet.Member
deriving DecidableEq, Repr

namespace CharSet

/-- Whether a member stands for a character. -/
def Member.covers (char : Char) : Member → Bool
  | one member => char = member
  | range low high => low ≤ char && char ≤ high

/-- Whether a member stands for no character. -/
def Member.isEmpty : Member → Bool
  | one _ => false
  | range low high => high < low

def contains (set : CharSet) (char : Char) : Bool :=
  set.members.any (·.covers char) != set.negated

/-- Reads the members between two brackets. -/
def readMembers : List Char → List Member
  | low :: '-' :: high :: rest => .range low high :: readMembers rest
  | char :: rest => .one char :: readMembers rest
  | [] => []

/-- Splits a text after its first closing bracket. -/
def splitClosing? (text : List Char) : Option (List Char × List Char) :=
  match text.dropWhile (· ≠ ']') with
  | [] => none
  | _ :: rest => some (text.takeWhile (· ≠ ']'), rest)

/-- Splits the members of a set from what follows its closing bracket, where a
closing bracket in the first place is a member. -/
def splitMembers? : List Char → Option (List Char × List Char)
  | ']' :: rest => (splitClosing? rest).map fun (body, rest) => (']' :: body, rest)
  | text => splitClosing? text

/-- Reads a set after its opening bracket and gives what follows the closing one;
nothing if there is none.  A first character that `negates` turns the set
around. -/
def read? (negates : Char → Bool) : List Char → Option (CharSet × List Char)
  | [] => none
  | char :: rest =>
      let negated := negates char
      (splitMembers? (if negated then rest else char :: rest)).map
        fun (body, rest) => (⟨negated, readMembers body⟩, rest)

theorem length_splitClosing? {text body rest : List Char}
    (split : splitClosing? text = some (body, rest)) : rest.length < text.length := by
  unfold splitClosing? at split
  have shorter := (List.dropWhile_sublist (· ≠ ']') (l := text)).length_le
  split at split
  · simp at split
  · rename_i char left equal
    rw [equal] at shorter
    simp only [Option.some.injEq, Prod.mk.injEq] at split
    rw [← split.2]
    simp only [List.length_cons] at shorter
    omega

theorem length_splitMembers? {text body rest : List Char}
    (split : splitMembers? text = some (body, rest)) : rest.length < text.length := by
  unfold splitMembers? at split
  split at split
  · rename_i tail
    obtain ⟨⟨inner, left⟩, found, same⟩ := Option.map_eq_some_iff.mp split
    simp only [Prod.mk.injEq] at same
    have shorter := length_splitClosing? found
    rw [← same.2]
    simp only [List.length_cons]
    omega
  · exact length_splitClosing? split

theorem length_read? {negates : Char → Bool} {text rest : List Char} {set : CharSet}
    (found : read? negates text = some (set, rest)) : rest.length < text.length := by
  unfold read? at found
  split at found
  · simp at found
  · obtain ⟨⟨body, left⟩, split, same⟩ := Option.map_eq_some_iff.mp found
    simp only [Prod.mk.injEq] at same
    have shorter := length_splitMembers? split
    rw [← same.2]
    split at shorter <;> simp only [List.length_cons] at * <;> omega

end CharSet

end ScriptLint
