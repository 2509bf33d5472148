import ScriptLint.Console.Item

/-!
# Highlighting

Four passes over a text find what is styled in it: text between angle brackets,
attributes with their values, brackets, and the items that stand out.  Each pass
goes from left to right and continues after what it found.
-/

namespace ScriptLint.Console

/-- Whether a character may stand in the name after an opening angle bracket. -/
def isTagNameChar (char : Char) : Bool :=
  Text.isWordChar char || char = '-' || char = '.' || char = ':' || char = '|'

def filledSpans (spans : List Span) : List Span :=
  spans.filter fun span => span.start < span.stop

/-- The offset of the last character that is equal to a given one. -/
def lastOffset? (char : Char) (text : List Char) : Option Nat :=
  (text.reverse.findIdx? (· = char)).map (text.length - 1 - ·)

/-- The spans of what stands between the first opening angle bracket and the last
closing one: the two brackets, the name, and the rest. -/
def bracketedSpans (text : List Char) : List Span :=
  match text.findIdx? (· = '<'), lastOffset? '>' text with
  | some first, some last =>
      if last < first then []
      else
        let name := first + 1 + Item.runSize isTagNameChar (text.drop (first + 1))
        filledSpans
          [.between first (first + 1), .between (first + 1) name, .between name last,
            .between last (last + 1)]
  | _, _ => []

/-- The size of the value of an attribute: a word that may stand in quotes. -/
def valueSize (text : List Char) : Nat :=
  let opening := if text.head? = some '"' then 1 else 0
  let word := Item.runSize Text.isWordChar (text.drop opening)
  if word = 0 then 0
  else
    let closing := if (text.drop (opening + word)).head? = some '"' then 1 else 0
    opening + word + closing

/-- The attribute that a text starts with: a name of at most fifty characters, an
equals sign and perhaps a value. -/
def attribute? (text : List Char) : Option Item :=
  let name := Item.runUpTo 50 Text.isWordChar text
  match text.drop name with
  | '=' :: rest =>
      if name = 0 then none
      else
        let size := name + 1 + valueSize rest
        some ⟨size, filledSpans [.between 0 name, .between (name + 1) size]⟩
  | _ => none

/-- The spans of attributes, where `offset` is where a text starts and `skipped` how
many of its characters were already found. -/
def attributeSpans (offset skipped : Nat) : List Char → List Span
  | [] => []
  | char :: rest =>
      if 0 < skipped then attributeSpans (offset + 1) (skipped - 1) rest
      else
        match attribute? (char :: rest) with
        | some item =>
            item.spans.map (·.shifted offset) ++
              attributeSpans (offset + 1) (item.size - 1) rest
        | none => attributeSpans (offset + 1) 0 rest

/-- The spans of brackets in a text that starts at an offset. -/
def braceSpans (offset : Nat) : List Char → List Span
  | [] => []
  | char :: rest =>
      if "[]\x7b\x7d()".toList.contains char then
        Span.between offset (offset + 1) :: braceSpans (offset + 1) rest
      else braceSpans (offset + 1) rest

/-- The spans of items, where `before` is the character before a text and `tried`
whether it may belong to a name at which no item was found. -/
def itemSpans (offset skipped : Nat) (before : Option Char) (tried : Bool) :
    List Char → List Span
  | [] => []
  | char :: rest =>
      if 0 < skipped then itemSpans (offset + 1) (skipped - 1) (some char) false rest
      else
        match Item.at? before tried (char :: rest) with
        | some item =>
            item.spans.map (·.shifted offset) ++
              itemSpans (offset + 1) (item.size - 1) (some char) false rest
        | none => itemSpans (offset + 1) 0 (some char) (Item.isCallChar char) rest

def highlightSpans (text : List Char) : List Span :=
  bracketedSpans text ++ attributeSpans 0 0 text ++ braceSpans 0 text ++
    itemSpans 0 0 none false text

def StyledText.highlighted (text : StyledText) : StyledText :=
  ⟨text.chars, highlightSpans text.chars ++ text.spans⟩

end ScriptLint.Console
