import ScriptLint.Source.Basic
import ScriptLint.Source.Component

/-!
# Sources from texts

A parser gives the tree of a text under a grammar.  The library works with any
parser; it decides which text and which grammar the parser is given.
-/

namespace ScriptLint

/-- A parser for every grammar. -/
abbrev Parser := Grammar → List Char → Node

/-- The source of a text at a path.  Of a component only the script is
parsed and checked. -/
def Source.ofText (parse : Parser) (path : Path) (text : List Char) : Source :=
  if path.suffix = ".vue" then
    let script := ComponentScript.ofText text
    ⟨text, script.text, script.grammar, parse script.grammar script.text,
      some (script.rows.map Int.ofNat)⟩
  else ⟨text, text, path.grammar, parse path.grammar text, none⟩

end ScriptLint
