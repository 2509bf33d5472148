import ScriptLint.Source.Parse
import ScriptLint.Text.Lines

/-!
# Parsed texts

Texts are parsed by another program, which hands over its syntax trees as lines of
text.  Each entry is a line `grammar NAME COUNT`, followed by COUNT lines of text
and by one line `DEPTH FLAGS START END FIELD KIND` for each node, parents before
their children.  The flags are 1 for a named node, 2 for a missing one and 4 for
one with an error; a hyphen stands for no field.
-/

namespace ScriptLint

/-- A text with its syntax tree. -/
structure ParsedText where
  grammar : Grammar
  text : List Char
  root : Node

/-- A tree for a text that was not parsed: a root without anything below it. -/
def Node.unparsed : Node :=
  { kind := "program"
    named := true
    missing := false
    hasError := false
    startByte := 0
    endByte := 0
    field := none
    children := [] }

/-- The parser that knows these texts and no others. -/
def Parser.ofTexts (texts : List ParsedText) : Parser :=
  fun grammar text =>
    match texts.find? fun parsed => parsed.grammar = grammar && parsed.text = text with
    | some parsed => parsed.root
    | none => .unparsed

namespace ParsedText

/-- Splits a text at its first blank. -/
def splitWord (text : List Char) : List Char × List Char :=
  (text.takeWhile (· ≠ ' '), (text.dropWhile (· ≠ ' ')).tail)

/-- Splits the first words off a text; the rest is the last of the pieces. -/
def splitWords : Nat → List Char → List String
  | 0, text => [String.ofList text]
  | count + 1, text =>
      let (word, rest) := splitWord text
      String.ofList word :: splitWords count rest

def readNode? (line : List Char) : Option (Nat × Node) := do
  match splitWords 5 line with
  | [depth, flags, start, stop, field, kind] =>
      let flags ← flags.toNat?
      return (← depth.toNat?,
        { kind
          named := flags % 2 = 1
          missing := flags / 2 % 2 = 1
          hasError := flags / 4 % 2 = 1
          startByte := ← start.toNat?
          endByte := ← stop.toNat?
          field := if field = "-" then none else some field
          children := [] })
  | _ => none

/-- Puts a node before the trees that follow it; those that lie deeper are its
children. -/
def adopt (entry : Nat × Node) (trees : List (Nat × Node)) : List (Nat × Node) :=
  let isBelow (tree : Nat × Node) : Bool := entry.1 < tree.1
  let children := (trees.takeWhile isBelow).map (·.2)
  (entry.1, { entry.2 with children }) :: trees.dropWhile isBelow

/-- The trees of nodes that are listed with their depths. -/
def assemble (entries : List (Nat × Node)) : List Node :=
  (entries.foldr adopt []).map (·.2)

/-- Reads the first line of an entry: its grammar and the number of text lines. -/
def readHeader? (line : List Char) : Option (Grammar × Nat) :=
  match splitWords 2 line with
  | ["grammar", name, count] => do return (← Grammar.ofWord? name, ← count.toNat?)
  | _ => none

def joinLines (lines : List (List Char)) : List Char :=
  ['\n'].intercalate lines

def ofLines? : List (List Char) → Option (List ParsedText)
  | [] => some []
  | header :: rest => do
      let (grammar, count) ← readHeader? header
      let body := rest.drop count
      let isNode (line : List Char) : Bool := (readHeader? line).isNone
      let entries ← (body.takeWhile isNode).mapM readNode?
      let root ← (assemble entries).head?
      let others ← ofLines? (body.dropWhile isNode)
      return ⟨grammar, joinLines (rest.take count), root⟩ :: others
termination_by lines => lines.length
decreasing_by
  have shorter := (List.dropWhile_sublist (fun line => (readHeader? line).isNone)
    (l := rest.drop count)).length_le
  simp only [List.length_drop] at shorter
  simp only [List.length_cons]
  omega

/-- Reads entries from a text, whose last line may end with a line feed. -/
def ofText? (text : List Char) : Option (List ParsedText) :=
  let lines := Text.rawLines text
  ofLines? (if lines.getLast? = some [] then lines.dropLast else lines)

end ParsedText

end ScriptLint
