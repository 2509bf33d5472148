import ScriptLint.Digest.Md5
import ScriptLint.Rule.Basic

/-!
# Repeated blocks

Blocks are recorded by the fingerprint of the whole text at the line where they
start.  A block whose fingerprint was seen before is reported with all lines
recorded for it, so every block but the first of a file is.
-/

namespace ScriptLint

def fingerprint (text : List Char) : String :=
  Md5.hexDigest (Utf8.encode text)

abbrev FingerprintTable := List (String × List Int)

namespace FingerprintTable

/-- Records a line.  Gives all lines of the fingerprint if it was present. -/
def record (table : FingerprintTable) (digest : String) (line : Int) :
    Option (List Int) × FingerprintTable :=
  match getNamed? table digest with
  | none => (none, table ++ [(digest, [line])])
  | some lines =>
      let extended := lines ++ [line]
      (some extended, putNamed digest extended table)

end FingerprintTable

namespace DuplicateBlocks

/-- Reports blocks whose fingerprint was seen before. -/
def noDuplicateCode : Rule where
  kinds := ["statement_block"]
  fixable := false
  options := []
  State := FingerprintTable
  initial := []
  enter := fun context place table =>
    let line := (context.source.start place.node).line
    match table.record (fingerprint context.source.text) line with
    | (none, table) => .ok (table, [])
    | (some lines, table) =>
        .ok (table,
          [context.about place.node
            ("Duplicate code detected. Similar code found at: " ++
              ", ".intercalate (lines.map toString))])
  leave := fun _ _ table => .ok (table, [])
  finish := fun _ _ => .ok []

end DuplicateBlocks

end ScriptLint
