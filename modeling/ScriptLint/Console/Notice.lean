import ScriptLint.Console.ColorCode
import ScriptLint.Console.Highlight
import ScriptLint.Console.Markup

/-!
# Notices

Short texts for the user at one of three levels.  On the console each one starts
with the word for its level and is wrapped at eighty columns.
-/

namespace ScriptLint

/-- The levels of notices. -/
inductive NoticeLevel where
  | info
  | warning
  | error
deriving DecidableEq, Repr

def NoticeLevel.word : NoticeLevel → String
  | info => "info"
  | warning => "warning"
  | error => "error"

def NoticeLevel.ofWord? (word : String) : Option NoticeLevel :=
  [NoticeLevel.info, .warning, .error].find? (·.word = word)

/-- A text for the user. -/
structure Notice where
  level : NoticeLevel
  text : String
deriving DecidableEq, Repr

def Console.width : Nat := 80

/-- Lines with a line feed after each. -/
def Console.unlines (lines : List (List Char)) : String :=
  String.ofList (lines.flatMap (· ++ ['\n']))

/-- A notice on the console.  The word for the level has a style of its own. -/
def Notice.render (notice : Notice) : Except Console.PrintError String :=
  let text := Console.StyledText.append (.whole notice.level.word.toList)
    ⟨' ' :: (Console.showText notice.text.toList).chars, []⟩
  match text.highlighted.linesWithin Console.width true .ok with
  | .error error => .error (.cut error)
  | .ok lines =>
      match lines.mapM fun line => Console.cropLine Console.width line.pieces with
      | .error error => .error (.cut error)
      | .ok lines =>
          .ok (Console.unlines (lines.map (Console.withoutColors ·.flatten)))

def Notice.renderAll (notices : List Notice) : Except Console.PrintError String := do
  let texts ← notices.mapM Notice.render
  return String.join texts

end ScriptLint
