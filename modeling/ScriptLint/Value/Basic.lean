import ScriptLint.Decimal.Binary64

/-!
# Setting values

What a configuration may give as a severity or as the value of an option.
Truth values count as the numbers zero and one, and doubles that are integers
count as those integers.
-/

namespace ScriptLint

/-- A value of a configuration. -/
inductive Value where
  | null
  | bool (value : Bool)
  | int (value : Int)
  | float (value : Float)
  | text (value : String)
  | tuple (items : List Value)
  | list (items : List Value)
  | table (entries : List (Value × Value))

namespace Value

/-- The integer that a value counts as. -/
def toInt? : Value → Option Int
  | bool value => some (if value then 1 else 0)
  | int value => some value
  | float value => (Decimal.Binary64.ofFloat value).toInt?
  | _ => none

def typeName : Value → String
  | null => "NoneType"
  | bool _ => "bool"
  | int _ => "int"
  | float _ => "float"
  | text _ => "str"
  | tuple _ => "tuple"
  | list _ => "list"
  | table _ => "dict"

mutual

/-- The type of the first part of a value that cannot be looked up in a set. -/
def unhashable? : Value → Option String
  | list _ => some "list"
  | table _ => some "dict"
  | tuple items => firstUnhashable? items
  | _ => none

/-- The type of the first part of some values that cannot be looked up. -/
def firstUnhashable? : List Value → Option String
  | [] => none
  | item :: rest =>
      match unhashable? item with
      | some name => some name
      | none => firstUnhashable? rest

end

mutual

/-- Whether two values are the same key of a table. -/
def sameKey : Value → Value → Bool
  | null, null => true
  | text left, text right => left = right
  | tuple left, tuple right => sameKeys left right
  | left, right =>
      match left.toInt?, right.toInt? with
      | some left, some right => left = right
      | _, _ =>
          match left, right with
          | float left, float right => left == right
          | _, _ => false

/-- Whether two sequences of values are the same item by item. -/
def sameKeys : List Value → List Value → Bool
  | [], [] => true
  | left :: lefts, right :: rights => sameKey left right && sameKeys lefts rights
  | _, _ => false

end

/-- Puts an entry into a table.  A key that is present keeps its place. -/
def put (entries : List (Value × Value)) (key value : Value) :
    List (Value × Value) :=
  match entries with
  | [] => [(key, value)]
  | (other, held) :: rest =>
      if sameKey other key then (other, value) :: rest
      else (other, held) :: put rest key value

/-- The table of a sequence of entries, later ones replacing earlier ones. -/
def ofEntries (entries : List (Value × Value)) : Value :=
  table (entries.foldl (fun held entry => put held entry.1 entry.2) [])

end Value

end ScriptLint
