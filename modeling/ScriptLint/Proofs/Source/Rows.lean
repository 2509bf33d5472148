import ScriptLint.Proofs.Text.Lines

/-!
# Rows of nodes

The line of a byte offset is one more than the number of line feeds before it in the
file's text, so what lies between two nodes is told by the characters between them.
-/

namespace ScriptLint

namespace Source

/-- The number of characters before a node. -/
def spanStart (source : Source) (node : Node) : Nat :=
  charsEndingBy source.parsed node.startByte

/-- The number of characters up to the end of a node. -/
def spanStop (source : Source) (node : Node) : Nat :=
  charsEndingBy source.parsed node.endByte

/-- Nodes that cover some characters each and follow each other. -/
structure Separates (source : Source) (nodes : List Node) : Prop where
  filled : ∀ node ∈ nodes, source.spanStart node < source.spanStop node
  ordered : nodes.Pairwise fun left right => source.spanStop left ≤ source.spanStart right

namespace Separates

variable {source : Source} {nodes others before after : List Node} {node : Node}

theorem of_sublist (separate : source.Separates nodes) (part : others.Sublist nodes) :
    source.Separates others where
  filled := fun node member => separate.filled node (part.subset member)
  ordered := separate.ordered.sublist part

theorem upTo (separate : source.Separates (before ++ node :: after)) :
    source.Separates (before ++ [node]) :=
  separate.of_sublist ((List.singleton_sublist.mpr List.mem_cons_self).append_left before)

theorem onward (separate : source.Separates (before ++ node :: after)) :
    source.Separates (node :: after) :=
  separate.of_sublist (List.sublist_append_right before _)

end Separates

end Source

theorem pointFrom_fst (row column remaining : Nat) (text : List Char) :
    (pointFrom row column remaining text).1 =
      row + Text.rowOf text (charsWithin remaining text) := by
  induction text generalizing row column remaining with
  | nil => rfl
  | cons char rest induction =>
      rw [pointFrom, charsWithin]
      by_cases fits : char.utf8Size ≤ remaining
      · rw [if_pos fits, if_pos fits, Nat.add_comm 1, Text.rowOf, List.take_succ_cons]
        by_cases feed : char = '\n'
        · rw [if_pos feed, induction, feed, List.count_cons_self, Text.rowOf]
          omega
        · rw [if_neg feed, induction, List.count_cons_of_ne feed, Text.rowOf]
      · rw [if_neg fits, if_neg fits]
        rfl

namespace Source.Aligned

variable {source : Source}

theorem rowOf_parsed (aligned : source.Aligned) (count : Nat) :
    Text.rowOf source.parsed count = Text.rowOf source.text count := by
  have marked : ∀ text : List Char,
      Text.rowOf text count = ((text.map (· == '\n')).take count).countP id := by
    intro text
    rw [Text.rowOf, ← List.map_take, List.countP_map]
    rfl
  rw [marked, marked, aligned]

/-- Lines are counted by the line feeds before an offset. -/
theorem line_positionAt (aligned : source.Aligned) (offset : Nat) :
    (source.positionAt offset).line =
      Text.rowOf source.text (charsEndingBy source.parsed offset) + 1 := by
  have row := pointFrom_fst 0 0 offset source.parsed
  rw [Nat.zero_add, ← charsEndingBy_eq_charsWithin, aligned.rowOf_parsed] at row
  rw [← row]
  rfl

theorem spanStart_le_length (aligned : source.Aligned) (node : Node) :
    source.spanStart node ≤ source.text.length :=
  (aligned.follows_positionAt node.startByte).le_length

theorem spanStop_le_length (aligned : source.Aligned) (node : Node) :
    source.spanStop node ≤ source.text.length :=
  (aligned.follows_positionAt node.endByte).le_length

end Source.Aligned

end ScriptLint
