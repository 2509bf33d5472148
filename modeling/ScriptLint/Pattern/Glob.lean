import ScriptLint.Pattern.CharSet

/-!
# File name patterns

In a file name pattern a star stands for any text, a question mark for any
character and a set in brackets for one of its characters.  An opening bracket
without a closing one stands for itself, as does every other character.
-/

namespace ScriptLint

/-- One part of a file name pattern. -/
inductive Glob.Part where
  | char (char : Char)
  | one
  | many
  | set (set : CharSet)
deriving DecidableEq, Repr

/-- A file name pattern. -/
structure Glob where
  parts : List Glob.Part
deriving DecidableEq, Repr

namespace Glob

/-- A set without its empty ranges.  An exclamation mark that thereby comes first
turns the set around; if it started a range, the hyphen and the other end of the
range are left as members. -/
def tidySet (set : CharSet) : CharSet :=
  let members := set.members.filter (!·.isEmpty)
  match set.negated, members with
  | false, .one '!' :: rest => ⟨true, rest⟩
  | false, .range '!' high :: rest => ⟨true, .one '-' :: .one high :: rest⟩
  | negated, members => ⟨negated, members⟩

def readParts : List Char → List Part
  | [] => []
  | '*' :: rest => .many :: readParts rest
  | '?' :: rest => .one :: readParts rest
  | '[' :: rest =>
      match _found : CharSet.read? (· = '!') rest with
      | some (set, rest) => .set (tidySet set) :: readParts rest
      | none => .char '[' :: readParts rest
  | char :: rest => .char char :: readParts rest
termination_by text => text.length
decreasing_by
  all_goals simp only [List.length_cons]
  all_goals first
    | omega
    | exact Nat.lt_succ_of_lt (CharSet.length_read? _found)

def ofString (text : String) : Glob :=
  ⟨readParts text.toList⟩

/-- Whether a part other than a star stands for a character. -/
def Part.covers (char : Char) : Part → Bool
  | .char expected => char = expected
  | one => true
  | many => false
  | .set chars => chars.contains char

/-- For each member of a list, whether it or a later one is true. -/
def anyFrom (flags : List Bool) : List Bool :=
  flags.foldr (fun flag later => (flag || later.headD false) :: later) []

/-- For each end of a text, from the whole text down to the empty one, whether
parts match it. -/
def matchEnds (text : List Char) : List Part → List Bool
  | [] => text.map (fun _ => false) ++ [true]
  | .many :: parts => anyFrom (matchEnds text parts)
  | part :: parts =>
      text.zipWith (fun char rest => part.covers char && rest)
        (matchEnds text parts).tail ++ [false]

/-- Whether parts match a text from its start to its end. -/
def matchParts (parts : List Part) (text : List Char) : Bool :=
  (matchEnds text parts).headD false

/-- Whether a pattern matches a file name. -/
def accepts (glob : Glob) (name : String) : Bool :=
  matchParts glob.parts name.toList

end Glob

end ScriptLint
