import ScriptLint.Path.Basic
import ScriptLint.Pattern.CharSet
import ScriptLint.Text.Blank
import ScriptLint.Text.Quoted

/-!
# Ignore patterns

Each line of an ignore file is a pattern for paths, cut into segments at its
slashes.  A leading exclamation mark negates it, a trailing slash restricts it to
folders, and a double star stands for any number of segments.  A pattern with a
single segment matches at every depth.

A pattern stands for a regular expression, which is how it is written out where the
place of a range that runs backwards is told.
-/

namespace ScriptLint

/-- Why a line is no pattern. -/
inductive PatternError where
  /-- The line cannot be read. -/
  | invalid (line : String)
  /-- A set has a range from a character to an earlier one, at this position of the
  written pattern. -/
  | backwardRange (range : String) (position : Nat)
deriving DecidableEq, Repr

def PatternError.message : PatternError → String
  | invalid line => "Invalid git pattern: " ++ Text.quoted line
  | backwardRange range position =>
      "bad character range " ++ range ++ " at position " ++ toString position

/-- One part of the pieces a path is matched with.  The two trailing parts may
match a slash that marks the path before it as a folder. -/
inductive IgnorePart where
  /-- Any folders before the first segment. -/
  | leading
  /-- Any names between two segments, with the slash before them. -/
  | inner
  /-- A slash after the last segment. -/
  | below (marks : Bool)
  /-- The end of the path, or a slash that marks a folder. -/
  | final
  /-- This character. -/
  | char (char : Char)
  /-- One character that is no slash. -/
  | one
  /-- Any number of characters that are no slashes. -/
  | many
  /-- One or more characters that are no slashes. -/
  | name
  /-- One character of a set. -/
  | set (set : CharSet)
deriving DecidableEq, Repr

namespace IgnorePart

def writtenChar (char : Char) : String :=
  if "()[]\x7b\x7d?*+-|^$\\.&~# \t\n\r\x0b\x0c".toList.contains char then
    String.ofList ['\\', char]
  else char.toString

def writtenInSet (char : Char) : String :=
  if char = '\\' then "\\\\" else char.toString

def writtenMember : CharSet.Member → String
  | .one held => writtenInSet held
  | .range low high => writtenInSet low ++ "-" ++ writtenInSet high

/-- The start of a set as it is written out. -/
def openingOf (set : CharSet) : String :=
  if set.negated then "[^" else "["

def written : IgnorePart → String
  | .leading => "^(?:.+/)?"
  | .inner => "(?:/.+)?"
  | .below true => "(?P<ps_d>/)"
  | .below false => "/"
  | .final => "(?:(?P<ps_d>/)|$)"
  | .char held => writtenChar held
  | .one => "[^/]"
  | .many => "[^/]*"
  | .name => "[^/]+"
  | .set held => openingOf held ++ String.join (held.members.map writtenMember) ++ "]"

/-- The first range of some members that runs backwards, and its position if they
start at a given one. -/
def backwardMember? (position : Nat) :
    List CharSet.Member → Option (String × Nat)
  | [] => none
  | member :: rest =>
      if member.isEmpty then some (writtenMember member, position)
      else backwardMember? (position + (writtenMember member).length) rest

/-- The first range of some parts that runs backwards, and its position if they
start at a given one. -/
def backwardRange? (position : Nat) : List IgnorePart → Option (String × Nat)
  | [] => none
  | part :: rest =>
      let here : Option (String × Nat) :=
        match part with
        | .set held => backwardMember? (position + (openingOf held).length) held.members
        | _ => none
      here.or (backwardRange? (position + part.written.length) rest)

/-- The size of the mark that fixes parts to the start of a path.  Leading folders
have one of their own. -/
def anchorSize : List IgnorePart → Nat
  | leading :: _ => 0
  | _ => 1

end IgnorePart

/-- What a pattern asks of a path. -/
inductive IgnoreShape where
  /-- Nothing. -/
  | everything
  /-- A slash anywhere, which may mark a folder. -/
  | nested (marks : Bool)
  /-- To match these parts from its start on. -/
  | parts (parts : List IgnorePart)
deriving DecidableEq, Repr

/-- An ignore pattern. -/
structure IgnorePattern where
  negated : Bool
  shape : IgnoreShape
deriving DecidableEq, Repr

/-- Why the parts of a segment cannot be read. -/
inductive SegmentFlaw where
  | unclosedSet
  | loneBackslash
deriving DecidableEq, Repr

namespace IgnorePattern

/-- The segment that stands for any number of segments. -/
def anySegments : List Char := ['*', '*']

def segmentParts : List Char → Except SegmentFlaw (List IgnorePart)
  | [] => .ok []
  | '\\' :: char :: rest => (segmentParts rest).map (.char char :: ·)
  | ['\\'] => .error .loneBackslash
  | '*' :: rest => (segmentParts rest).map (.many :: ·)
  | '?' :: rest => (segmentParts rest).map (.one :: ·)
  | '[' :: rest =>
      match _found : CharSet.read? (fun char => char = '!' || char = '^') rest with
      | some (set, rest) => (segmentParts rest).map (.set set :: ·)
      | none => .error .unclosedSet
  | char :: rest => (segmentParts rest).map (.char char :: ·)
termination_by text => text.length
decreasing_by
  all_goals simp only [List.length_cons]
  all_goals first
    | omega
    | exact Nat.lt_succ_of_lt (CharSet.length_read? _found)

/-- The parts of a segment; a lone star stands for a whole name. -/
def wholeSegment (segment : List Char) : Except SegmentFlaw (List IgnorePart) :=
  if segment = ['*'] then .ok [.name] else segmentParts segment

/-- The parts of all segments but a leading double star.  A slash comes before a
segment unless it is the first, and `folder` says whether a trailing double star
marks folders. -/
def partsAfter (folder : Bool) (slash : List IgnorePart) :
    List (List Char) → Except SegmentFlaw (List IgnorePart)
  | [] => .ok []
  | segment :: rest =>
      if segment = anySegments then
        match rest with
        | [] => .ok [.below folder]
        | _ :: _ => (partsAfter folder [.char '/'] rest).map (.inner :: ·)
      else do
        let parts ← wholeSegment segment
        match rest with
        | [] => .ok (slash ++ parts ++ [.final])
        | _ :: _ => (partsAfter folder [.char '/'] rest).map (slash ++ parts ++ ·)

def partsOf (folder : Bool) : List (List Char) → Except SegmentFlaw (List IgnorePart)
  | [] => .ok []
  | segment :: rest =>
      if segment = anySegments then (partsAfter folder [] rest).map (.leading :: ·)
      else partsAfter folder [] (segment :: rest)

/-- Segments fixed to where they start: a leading slash means the root, and a
single segment may start anywhere. -/
def anchorSegments : List (List Char) → List (List Char)
  | [] :: rest => rest
  | [segment] =>
      if segment = anySegments then [segment] else [anySegments, segment]
  | [segment, []] =>
      if segment = anySegments then [segment, []] else [anySegments, segment, []]
  | segments => segments

/-- Segments with a double star for an empty last one. -/
def openLast : List (List Char) → List (List Char)
  | [] => []
  | [segment] => [if segment.isEmpty then anySegments else segment]
  | segment :: rest => segment :: openLast rest

/-- Segments with runs of double stars made one. -/
def mergeStars : List (List Char) → List (List Char)
  | first :: second :: rest =>
      if first = anySegments && second = anySegments then mergeStars (second :: rest)
      else first :: mergeStars (second :: rest)
  | segments => segments

def shapeOf (folder : Bool) (segments : List (List Char)) :
    Except SegmentFlaw IgnoreShape :=
  if segments = [anySegments] then .ok (if folder then .nested true else .everything)
  else if segments = [anySegments, ['*']] then .ok .everything
  else if segments = [anySegments, ['*'], anySegments] then .ok (.nested folder)
  else (partsOf folder segments).map .parts

/-- A line without the blanks at its end, which a backslash before the last one
keeps. -/
def trimLine (line : List Char) : List Char :=
  if ['\\', ' '].isSuffixOf line then line else Text.trimEnd line

/-- A pattern of this shape, unless a range in it runs backwards. -/
def ofShape (negated : Bool) (shape : IgnoreShape) :
    Except PatternError (Option IgnorePattern) :=
  match shape with
  | .parts parts =>
      match IgnorePart.backwardRange? (IgnorePart.anchorSize parts) parts with
      | some (range, position) => .error (.backwardRange range position)
      | none => .ok (some ⟨negated, shape⟩)
  | _ => .ok (some ⟨negated, shape⟩)

/-- Reads the pattern of a line after its exclamation mark. -/
def ofSegments (line : List Char) (negated : Bool) (segments : List (List Char)) :
    Except PatternError (Option IgnorePattern) :=
  let folder := segments.getLast?.any List.isEmpty
  let anchored := anchorSegments segments
  if anchored.isEmpty then .error (.invalid (String.ofList line))
  else
    match shapeOf folder (mergeStars (openLast anchored)) with
    | .ok shape => ofShape negated shape
    | .error .unclosedSet => .ok none
    | .error .loneBackslash => .error (.invalid (String.ofList line))

/-- Reads a line.  An empty line, a comment, a lone slash and a line with an
unclosed set hold no pattern. -/
def ofLine (line : List Char) : Except PatternError (Option IgnorePattern) :=
  match trimLine line with
  | [] => .ok none
  | '#' :: _ => .ok none
  | ['/'] => .ok none
  | '!' :: rest => ofSegments line true (Path.splitSlashes rest)
  | text => ofSegments line false (Path.splitSlashes text)

/-- Reads lines, of which the first refused one is reported. -/
def ofLines : List (List Char) → Except PatternError (List IgnorePattern)
  | [] => .ok []
  | line :: rest => do
      let pattern ← ofLine line
      let patterns ← ofLines rest
      .ok (pattern.toList ++ patterns)

end IgnorePattern

end ScriptLint
