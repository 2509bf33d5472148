import ScriptLint.Ignore.Pattern

/-!
# Matching ignore patterns

The parts of a pattern are tried in a fixed order, the longest text first, and the
first way to match them all counts.  It also says whether the path was matched
through a slash that marks a folder.  Such a match yields to one without a mark;
among equals the last pattern decides.

Whether parts match is settled for all ends of a path at once, from the last part
to the first, so that no end is tried twice.
-/

namespace ScriptLint

/-- For each end of a text, from the whole text down to the empty one, whether it
is matched, and if so, whether a folder was marked. -/
abbrev Outcomes := List (Option Bool)

namespace Outcomes

def whole (outcomes : Outcomes) : Option Bool :=
  outcomes.headD none

/-- The first outcome there is, at each end. -/
def orElse (first second : Outcomes) : Outcomes :=
  first.zipWith (· <|> ·) second

def marking (marks : Bool) (outcomes : Outcomes) : Outcomes :=
  outcomes.map (·.map (marks || ·))

def afterOne (accepts : Char → Bool) : List Char → Outcomes → Outcomes
  | char :: text, _ :: later =>
      (if accepts char then whole later else none) :: afterOne accepts text later
  | _, _ => [none]

/-- The outcomes after a run of accepted characters, the longest run first. -/
def afterRun (accepts : Char → Bool) : List Char → Outcomes → Outcomes
  | char :: text, here :: later =>
      let rest := afterRun accepts text later
      ((if accepts char then whole rest else none) <|> here) :: rest
  | _, outcomes => outcomes

/-- The outcomes after a run of accepted characters that is not empty. -/
def afterSome (accepts : Char → Bool) (text : List Char) (outcomes : Outcomes) :
    Outcomes :=
  afterOne accepts text (afterRun accepts text outcomes)

/-- The outcomes where nothing is left but a line break at most. -/
def atEnd : List Char → Outcomes → Outcomes
  | char :: text, here :: later =>
      (if char = '\n' && text.isEmpty then here else none) :: atEnd text later
  | _, outcomes => outcomes

end Outcomes

namespace IgnorePart

/-- The outcomes for a text of a part and of the parts after it, given those of the
parts after it. -/
def before (text : List Char) (later : Outcomes) : IgnorePart → Outcomes
  | leading =>
      (Outcomes.afterSome (· ≠ '\n') text
        (Outcomes.afterOne (· = '/') text later)).orElse later
  | inner =>
      (Outcomes.afterOne (· = '/') text
        (Outcomes.afterSome (· ≠ '\n') text later)).orElse later
  | below marks => (Outcomes.afterOne (· = '/') text later).marking marks
  | final =>
      (Outcomes.atEnd text later).orElse
        ((Outcomes.afterOne (· = '/') text later).marking true)
  | char expected => Outcomes.afterOne (· = expected) text later
  | one => Outcomes.afterOne (· ≠ '/') text later
  | many => Outcomes.afterRun (· ≠ '/') text later
  | name => Outcomes.afterSome (· ≠ '/') text later
  | set chars => Outcomes.afterOne chars.contains text later

/-- The outcomes of parts for a text; no parts match at every end. -/
def outcomes (text : List Char) : List IgnorePart → Outcomes
  | [] => some false :: text.map fun _ => some false
  | part :: parts => part.before text (outcomes text parts)

/-- Matches parts with the start of a text.  Gives whether a part of the first way
to match them marked a folder. -/
def match? (parts : List IgnorePart) (text : List Char) : Option Bool :=
  (outcomes text parts).whole

end IgnorePart

/-- Matches a path.  Gives whether it was matched as something in a marked
folder. -/
def IgnoreShape.match? (path : List Char) : IgnoreShape → Option Bool
  | everything => if path.any (· ≠ '\n') then some false else none
  | nested marks => if path.contains '/' then some marks else none
  | parts list => IgnorePart.match? list path

namespace IgnorePattern

/-- The decision about a path by patterns from the last to the first, given what a
match through a marked folder decided so far. -/
def decideFrom (path : List Char) : Option Bool → List IgnorePattern → Option Bool
  | best, [] => best
  | best, pattern :: rest =>
      match pattern.shape.match? path with
      | none => decideFrom path best rest
      | some false => some !pattern.negated
      | some true => decideFrom path (best <|> some !pattern.negated) rest

/-- A path without a slash, or a dot and a slash, at its start. -/
def dropRoot : List Char → List Char
  | '/' :: rest => rest
  | '.' :: '/' :: rest => rest
  | path => path

/-- Whether patterns have a path ignored. -/
def verdict (patterns : List IgnorePattern) (path : List Char) : Bool :=
  (decideFrom (dropRoot path) none patterns.reverse).getD false

end IgnorePattern

end ScriptLint
