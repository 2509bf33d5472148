import Std.Data.HashMap
import ScriptLint.Literal.Formatted
import ScriptLint.Literal.Grammar

/-!
# Reading a literal

The tokens of a literal are matched with the grammar, first without and then with the
patterns that look for slips.  What was found of a phrase is remembered, so that a
token is not read again and again.  The values in texts are read in the same way.
-/

namespace ScriptLint.Literal

/-- What came of a pattern. -/
inductive Outcome where
  /-- It fits up to a position, and these are its parts. -/
  | fits (position : Nat) (parts : List Part)
  /-- It does not fit.  If that is settled, nothing else is tried in its place. -/
  | misfit (settled : Bool)
  /-- A token is needed that cannot be read. -/
  | starved
  | refused (fault : ReadFault)
deriving Repr

/-- What was found so far, and the number of tokens that were looked at. -/
structure Progress where
  found : Std.HashMap (Phrase × Nat) Outcome
  reach : Nat

namespace Progress

/-- Nothing was found so far. -/
def start : Progress :=
  ⟨∅, 0⟩

def reaching (progress : Progress) (position : Nat) : Progress :=
  { progress with reach := max progress.reach (position + 1) }

def remember (progress : Progress) (phrase : Phrase) (position : Nat) (outcome : Outcome) :
    Progress :=
  if phrase.isRemembered then
    { progress with found := progress.found.insert (phrase, position) outcome }
  else progress

end Progress

/-! ## Single tokens -/

def reservedWords : List String :=
  ["False", "None", "True", "and", "as", "assert", "async", "await", "break", "class",
    "continue", "def", "del", "elif", "else", "except", "finally", "for", "from", "global",
    "if", "import", "in", "is", "lambda", "nonlocal", "not", "or", "pass", "raise",
    "return", "try", "while", "with", "yield"]

namespace Token

/-- Whether a token is this sign or word. -/
def isText (token : Token) (text : String) : Bool :=
  (token.kind = .sign || token.kind = .word) && token.chars = text.toList

def isName (token : Token) : Bool :=
  token.kind = .word && !reservedWords.contains (String.ofList token.chars)

/-- Whether a token is a name that other contexts give a meaning of its own. -/
def isSoftName (token : Token) : Bool :=
  ["_", "case", "match"].any token.isText

/-- The number of digits, if a number is a decimal integer with too many of them. -/
def excessDigits? (token : Token) : Option Nat :=
  let digits := token.chars.filter Char.isDigit
  if token.chars.all (fun char => char.isDigit || char = '_') && 4300 < digits.length then
    some digits.length
  else none

end Token

/-- Takes one token that has a property. -/
def takeToken (tokens : Array Token) (belongs : Token → Bool) (keeps : Bool) (position : Nat)
    (progress : Progress) : Outcome × Progress :=
  match tokens[position]? with
  | none => (.starved, progress)
  | some token =>
      let outcome :=
        if belongs token then
          .fits (position + 1) (if keeps then [.token token] else [])
        else .misfit false
      (outcome, progress.reaching position)

/-! ## Patterns -/

/-- What following a pattern depends on, its place apart. -/
structure Setting where
  tokens : Array Token
  /-- What checks the values in texts. -/
  check : ValueCheck
  /-- Whether slips are looked for. -/
  strict : Bool
  /-- The number of levels that the pattern stands in. -/
  level : Nat

/-- How a pattern is followed from a position on. -/
abbrev Following := Pattern → Nat → Progress → Outcome × Progress

/-- The number of levels that a literal may have. -/
def levelLimit : Nat :=
  6000

namespace Outcome

/-- Goes on after a pattern that fits, whose parts come first. -/
def andThen (step : Outcome × Progress) (next : Nat → Progress → Outcome × Progress) :
    Outcome × Progress :=
  match step with
  | (fits position parts, progress) =>
      match next position progress with
      | (fits reached more, progress) => (fits reached (parts ++ more), progress)
      | failed => failed
  | failed => failed

/-- Tries something else in place of a pattern that does not fit. -/
def orElse (step : Outcome × Progress) (other : Progress → Outcome × Progress) :
    Outcome × Progress :=
  match step with
  | (misfit false, progress) => other progress
  | taken => taken

/-- What came of a pattern that need not fit. -/
def orNothing (position : Nat) : Outcome → Outcome
  | misfit _ => fits position []
  | outcome => outcome

/-- What came of a pattern after which nothing else is tried. -/
def settle : Outcome → Outcome
  | misfit _ => misfit true
  | outcome => outcome

/-- What came of a phrase, for the pattern that it stands in. -/
def unsettle : Outcome → Outcome
  | misfit _ => misfit false
  | outcome => outcome

def look (position : Nat) (wanted : Bool) : Outcome → Outcome
  | fits _ _ => if wanted then fits position [] else misfit false
  | misfit _ => if wanted then misfit false else fits position []
  | outcome => outcome

/-- Puts the parts of a pattern together.  Texts one after the other have to fit. -/
def formed (check : ValueCheck) (form : Form) : Outcome → Outcome
  | fits position parts =>
      let texts := parts.filterMap fun part =>
        match part with
        | .token leaf => some leaf
        | .form _ _ => none
      match if form = .texts then textFault? check none texts else none with
      | some fault => refused fault
      | none => fits position [.form form parts]
  | outcome => outcome

/-- Puts parts together if there is more than the first one, which ends here. -/
def chained (form : Form) (first : Nat) : Outcome → Outcome
  | fits position parts => if position = first then fits position parts
      else fits position [.form form parts]
  | outcome => outcome

/-- A number has to be short enough. -/
def numbered : Outcome → Outcome
  | fits position parts =>
      let digits := parts.findSome? fun part =>
        match part with
        | .token leaf => leaf.excessDigits?
        | .form _ _ => none
      match digits with
      | some digits => refused (.tooLong digits)
      | none => fits position parts
  | outcome => outcome

def change (step : Outcome × Progress) (change : Outcome → Outcome) : Outcome × Progress :=
  (change step.1, step.2)

end Outcome

open Outcome

/-- A complaint about what was found from a position up to here. -/
def complain (tokens : Array Token) (complaint : Complaint) (parts : List Part)
    (position : Nat) : Outcome :=
  let depth := (tokens[position - 1]?.map Token.depth).getD 0
  match complaint.message? parts depth with
  | some wording => .refused (.slip wording)
  | none => .misfit true

/-- Follows one pattern after the other.  The parts so far are what complaints are
about. -/
def followAll (tokens : Array Token) (follow : Following) :
    List Pattern → List Part → Nat → Progress → Outcome × Progress
  | [], parts, position, progress => (.fits position parts, progress)
  | .commit :: rest, parts, position, progress =>
      change (followAll tokens follow rest parts position progress) settle
  | .complaint complaint :: _, parts, position, progress =>
      (complain tokens complaint parts position, progress)
  | pattern :: rest, parts, position, progress =>
      match follow pattern position progress with
      | (.fits reached more, progress) =>
          followAll tokens follow rest (parts ++ more) reached progress
      | failed => failed

/-- Tries one pattern after the other. -/
def followFirst (follow : Following) :
    List Pattern → Nat → Progress → Outcome × Progress
  | [], _, progress => (.misfit false, progress)
  | pattern :: rest, position, progress =>
      orElse (follow pattern position progress) fun progress =>
        followFirst follow rest position progress

/-- Follows a phrase, unless it is remembered what came of it. -/
def followPhrase (follow : Following) (phrase : Phrase) (position : Nat)
    (progress : Progress) : Outcome × Progress :=
  match progress.found[(phrase, position)]? with
  | some outcome => (outcome, progress)
  | none =>
      let (outcome, progress) := follow phrase.pattern position progress
      (outcome.unsettle, progress.remember phrase position outcome.unsettle)

namespace Setting

def deepened (setting : Setting) (levels : Nat) : Setting :=
  { setting with level := setting.level + levels }

/-- Follows a pattern that is some levels deeper, unless that is too deep. -/
def below (levels : Nat) (setting : Setting) (follow : Setting → Following) : Following :=
  fun pattern position progress =>
    if levelLimit < setting.level + levels then (.refused .tooDeep, progress)
    else follow (setting.deepened levels) pattern position progress

/-- Takes one token that has a property. -/
def take (setting : Setting) (belongs : Token → Bool) (keeps : Bool) (position : Nat)
    (progress : Progress) : Outcome × Progress :=
  takeToken setting.tokens belongs keeps position progress

end Setting

/-- Follows a pattern, with a bound on the number of patterns around it.  A phrase
takes at least one level, even if it is remembered what came of it. -/
def follow : Nat → Setting → Following
  | 0, _, _, _, progress => (.misfit false, progress)
  | bound + 1, setting, pattern, position, progress =>
      let next := follow bound setting
      match pattern with
      | .phrase phrase =>
          if levelLimit < setting.level + min phrase.levels 1 then (.refused .tooDeep, progress)
          else
            followPhrase (setting.below phrase.levels (follow bound)) phrase position progress
      | .sign text => setting.take (·.isText text) false position progress
      | .kept text => setting.take (·.isText text) true position progress
      | .name => setting.take Token.isName true position progress
      | .number => change (setting.take (·.kind = .number) true position progress) numbered
      | .text => setting.take (·.kind = .text) true position progress
      | .softName => setting.take Token.isSoftName true position progress
      | .newline => setting.take (·.kind = .newline) false position progress
      | .stop => setting.take (·.kind = .stop) false position progress
      | .sequence patterns => followAll setting.tokens next patterns [] position progress
      | .choice patterns => followFirst next patterns position progress
      | .optional pattern => change (next pattern position progress) (orNothing position)
      | .repeated pattern =>
          change
            (andThen (next pattern position progress) fun reached progress =>
              next (.repeated pattern) reached progress)
            (orNothing position)
      | .ahead pattern => change (next pattern position progress) (look position true)
      | .notAhead pattern => change (next pattern position progress) (look position false)
      | .formed form pattern =>
          change (next pattern position progress) (formed setting.check form)
      | .chained form first more =>
          match next first position progress with
          | (.fits reached parts, progress) =>
              change
                (andThen (.fits reached parts, progress) fun reached progress =>
                  next (.repeated more) reached progress)
                (chained form reached)
          | failed => failed
      | .commit => (.fits position [], progress)
      | .complaint complaint => (complain setting.tokens complaint [] position, progress)
      | .strict pattern =>
          if setting.strict then next pattern position progress else (.misfit false, progress)
      | .lenient pattern =>
          follow bound { setting with strict := false } pattern position progress
      | .deeper pattern => setting.below 1 (follow bound) pattern position progress

/-! ## Reading -/

/-- Follows a phrase of the grammar from the first token on. -/
def followFromStart (tokens : Array Token) (check : ValueCheck) (start : Phrase)
    (strict : Bool) : Outcome × Progress :=
  follow (100 * (levelLimit + tokens.size)) ⟨tokens, check, strict, 0⟩ (.phrase start) 0 .start

namespace Scan

/-- Why no further token can be read. -/
def exhausted (scan : Scan) : ReadFault :=
  match scan.fault, scan.brackets with
  | some .ended, bracket :: _ => .unclosed bracket.char
  | some fault, _ => .token fault
  | none, _ => .other

/-- A fault that was found, unless a later one among the tokens hides it.  The token
that was looked at last is in this line. -/
def overruled (scan : Scan) (line : Nat) (found : ReadFault) : ReadFault :=
  match scan.fault, scan.brackets with
  | some fault, brackets =>
      if fault.isImmediate then .token fault
      else
        match brackets with
        | bracket :: _ => if bracket.line < line then .unclosed bracket.char else found
        | [] => found
  | none, _ => found

/-- Why the tokens are no literal, after slips have been looked for; `last` is the
token that was looked at last before that. -/
def faultOf (scan : Scan) (tokens : Array Token) (last : Option Token)
    (step : Outcome × Progress) : ReadFault :=
  let furthest := tokens[step.2.reach - 1]?
  let line := (furthest.map Token.line).getD 1
  match step.1 with
  | .starved => scan.exhausted
  | .refused fault =>
      if !fault.isPlaced || furthest.any Token.isLast then fault
      else scan.overruled line fault
  | _ =>
      if last.any (·.kind = .indent) then .indented else scan.overruled line .other

def read (scan : Scan) (check : ValueCheck) (start : Phrase) : Except ReadFault Part :=
  let tokens := scan.tokens.toArray
  let (outcome, progress) := followFromStart tokens check start false
  let last := tokens[progress.reach - 1]?
  match outcome with
  | .fits _ (part :: _) => .ok part
  | .misfit _ => .error (scan.faultOf tokens last (followFromStart tokens check start true))
  | outcome => .error (scan.faultOf tokens last (outcome, progress))

end Scan

/-- What is wrong with a value in a text, where texts have texts in them up to this
bound.  It is read as if it stood in parentheses on a line of its own. -/
def valueFault? : Nat → ValueCheck
  | 0, _, _ => none
  | bound + 1, line, source =>
      let scan := scanLine line ('(' :: source ++ [')', '\n'])
      match scan.read (valueFault? bound) .value with
      | .error fault => some fault
      | .ok _ => none

def read (text : List Char) : Except ReadFault Part :=
  (scanLine 1 text).read (valueFault? text.length) .literal

end ScriptLint.Literal
