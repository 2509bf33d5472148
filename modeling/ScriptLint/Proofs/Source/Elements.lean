import ScriptLint.Proofs.Source.Component
import ScriptLint.Proofs.Source.Tags
import ScriptLint.Proofs.Text.Lines

/-!
# The script elements of a component

A script element stands in a text where an opening tag is followed by a closing one; its
body goes up to the nearest closing tag.  The elements of a component are those that are
met from left to right, each search going on behind the element before.  They are
determined by the text, and blanking keeps their bodies and the line ends.
-/

namespace ScriptLint

/-- A script element: where its opening tag starts, and its parts. -/
structure ScriptElement where
  start : Nat
  opening : List Char
  attributes : List Char
  body : List Char
  closing : List Char

namespace ScriptElement

def bodyStart (element : ScriptElement) : Nat :=
  element.start + element.opening.length

def bodyStop (element : ScriptElement) : Nat :=
  element.bodyStart + element.body.length

def stop (element : ScriptElement) : Nat :=
  element.bodyStop + element.closing.length

/-- An element of a text: its tags and its body are written there, and no closing tag
starts in its body. -/
structure StandsIn (element : ScriptElement) (text : List Char) : Prop where
  opens : Component.IsOpening element.opening element.attributes
  closes : Component.IsClosing element.closing
  written : element.opening ++ (element.body ++ element.closing) <+: text.drop element.start
  nearest : ∀ index < element.body.length,
    ¬Component.Closes (text.drop (element.bodyStart + index))

/-- The elements that are met from left to right from a position on. -/
inductive Successive (text : List Char) : Nat → List ScriptElement → Prop where
  | done {position : Nat}
      (none : ∀ element : ScriptElement, element.StandsIn text → element.start < position) :
      Successive text position []
  | next {position : Nat} {element : ScriptElement} {rest : List ScriptElement}
      (stands : element.StandsIn text) (ahead : position ≤ element.start)
      (leftmost : ∀ other : ScriptElement, other.StandsIn text → position ≤ other.start →
        element.start ≤ other.start)
      (later : Successive text element.stop rest) :
      Successive text position (element :: rest)

variable {element other : ScriptElement} {text : List Char}

theorem StandsIn.read (stands : element.StandsIn text) :
    ∃ after,
      text.drop element.start = element.opening ++ (element.body ++ (element.closing ++ after)) ∧
      Component.afterOpening? (text.drop element.start) =
        some (element.attributes, element.body ++ (element.closing ++ after)) ∧
      Component.splitAtClosing? (element.body ++ (element.closing ++ after)) =
        some (element.body, element.closing ++ after, after) := by
  obtain ⟨after, whole⟩ := stands.written
  rw [List.append_assoc, List.append_assoc] at whole
  refine ⟨after, whole.symm, ?_, ?_⟩
  · rw [← whole]
    exact Component.afterOpening?_eq_some_iff.mpr ⟨_, stands.opens, rfl⟩
  · refine Component.splitAtClosing?_eq_some_iff.mpr ⟨rfl, ⟨_, stands.closes, rfl⟩, ?_⟩
    intro index inside
    have content : element.body ++ (element.closing ++ after) = text.drop element.bodyStart := by
      rw [bodyStart, ← List.drop_drop, ← whole, List.drop_left]
    rw [content, List.drop_drop]
    exact stands.nearest index inside

theorem standsIn_of_read {position : Nat} {attributes content body closing after : List Char}
    (opened : Component.afterOpening? (text.drop position) = some (attributes, content))
    (closed : Component.splitAtClosing? content = some (body, closing, after)) :
    StandsIn ⟨position, Component.lead (text.drop position) content, attributes, body,
      Component.lead closing after⟩ text := by
  obtain ⟨opening, opens, whole⟩ := Component.afterOpening?_eq_some_iff.mp opened
  obtain ⟨split, ⟨tag, closes, rfl⟩, nearest⟩ :=
    Component.splitAtClosing?_eq_some_iff.mp closed
  have content_eq : content = text.drop (position + opening.length) := by
    rw [← List.drop_drop, whole, List.drop_left]
  rw [Component.lead_append_left, whole, Component.lead_append_left]
  refine ⟨opens, closes, ?_, ?_⟩
  · rw [whole, split]
    exact ⟨after, by simp⟩
  · intro index inside
    rw [bodyStart, ← List.drop_drop, ← content_eq]
    exact nearest index inside

theorem StandsIn.eq_of_start_eq (stands : element.StandsIn text)
    (otherStands : other.StandsIn text) (same : element.start = other.start) :
    element = other := by
  obtain ⟨after, whole, opened, closed⟩ := stands.read
  obtain ⟨otherAfter, otherWhole, otherOpened, otherClosed⟩ := otherStands.read
  rw [← same, opened, Option.some.injEq, Prod.mk.injEq] at otherOpened
  obtain ⟨sameAttributes, sameContent⟩ := otherOpened
  rw [← sameContent, closed, Option.some.injEq, Prod.mk.injEq, Prod.mk.injEq] at otherClosed
  obtain ⟨sameBody, sameClosing, sameAfter⟩ := otherClosed
  rw [← same, whole, ← sameContent] at otherWhole
  have sameOpening := List.append_cancel_right otherWhole
  rw [← sameAfter] at sameClosing
  have sameTag := List.append_cancel_right sameClosing
  cases element
  cases other
  simp_all

theorem Successive.unique {position : Nat} {elements others : List ScriptElement}
    (met : Successive text position elements) (otherMet : Successive text position others) :
    elements = others := by
  induction met generalizing others with
  | done none =>
      cases otherMet with
      | done _ => rfl
      | next stands ahead _ _ => exact absurd (none _ stands) (Nat.not_lt.mpr ahead)
  | next stands ahead leftmost later induction =>
      cases otherMet with
      | done none => exact absurd (none _ stands) (Nat.not_lt.mpr ahead)
      | next otherStands otherAhead otherLeftmost otherLater =>
          -- Each of the two starts no later than the other.
          have same := Nat.le_antisymm (leftmost _ otherStands otherAhead)
            (otherLeftmost _ stands ahead)
          obtain rfl := stands.eq_of_start_eq otherStands same
          rw [induction otherLater]

theorem Successive.of_succ {position : Nat} {elements : List ScriptElement}
    (notHere : ∀ element : ScriptElement, element.StandsIn text → element.start ≠ position)
    (met : Successive text (position + 1) elements) : Successive text position elements := by
  cases met with
  | done none =>
      refine .done fun element stands => ?_
      have before := none element stands
      have differs := notHere element stands
      omega
  | next stands ahead leftmost later =>
      refine .next stands (by omega) (fun other otherStands otherAhead => ?_) later
      have differs := notHere other otherStands
      exact leftmost other otherStands (by omega)

end ScriptElement

namespace Component

/-- The elements among pieces that start at a position. -/
def elementsFrom (position : Nat) : List ComponentPiece → List ScriptElement
  | [] => []
  | .outside _ :: rest => elementsFrom (position + 1) rest
  | .script opening attributes body closing :: rest =>
      ⟨position, opening, attributes, body, closing⟩ ::
        elementsFrom (position + (opening ++ body ++ closing).length) rest

def elements (text : List Char) : List ScriptElement :=
  elementsFrom 0 (pieces text)

/-- Where nothing is read, the search goes on with the next character. -/
theorem successive_outside {text before rest : List Char} {char : Char}
    (whole : text = before ++ char :: rest)
    (unread : ∀ attributes content, afterOpening? (char :: rest) = some (attributes, content) →
      splitAtClosing? content = none)
    (later : ScriptElement.Successive text (before ++ [char]).length
      (elementsFrom (before ++ [char]).length (pieces rest))) :
    ScriptElement.Successive text before.length
      (elementsFrom before.length (.outside char :: pieces rest)) := by
  rw [List.length_append, List.length_singleton] at later
  refine .of_succ ?_ later
  intro element stands atStart
  obtain ⟨after, -, opened, closed⟩ := stands.read
  rw [atStart, whole, List.drop_left] at opened
  simp [unread _ _ opened] at closed

/-- Cutting the rest of a text into pieces meets its elements from left to right. -/
theorem successive_elementsFrom {text before rest : List Char} (whole : text = before ++ rest) :
    ScriptElement.Successive text before.length (elementsFrom before.length (pieces rest)) := by
  fun_induction pieces rest generalizing before with
  -- An element starts with a bracket, so none stands at the end of the text.
  | case1 =>
      refine .done fun element stands => ?_
      obtain ⟨after, read, -, -⟩ := stands.read
      obtain ⟨name, -, opening⟩ := stands.opens.written
      by_contra behind
      have nothing : text.drop element.start = [] := by
        rw [List.drop_eq_nil_iff, whole, List.append_nil]
        omega
      simp [nothing, opening] at read
  | case2 char rest attributes content opened body closing after split _ _ induction =>
      have cut : text = (before ++ (lead (char :: rest) content ++ body ++
          lead closing after)) ++ after := by
        rw [List.append_assoc, script_append opened split, whole]
      have later := induction cut
      have here : text.drop before.length = char :: rest := by rw [whole, List.drop_left]
      rw [← here] at opened
      have stands := ScriptElement.standsIn_of_read opened split
      rw [here] at stands
      rw [List.length_append] at later
      refine .next stands (Nat.le_refl _) (fun _ _ ahead => ahead) ?_
      simpa only [ScriptElement.stop, ScriptElement.bodyStop, ScriptElement.bodyStart,
        List.length_append, Nat.add_assoc] using later
  | case3 char rest attributes content opened unclosed induction =>
      refine successive_outside whole ?_ (induction (by simp [whole]))
      intro others otherContent read
      rw [opened, Option.some.injEq, Prod.mk.injEq] at read
      rw [← read.2, unclosed]
  | case4 char rest unopened induction =>
      refine successive_outside whole ?_ (induction (by simp [whole]))
      intro attributes content read
      simp [unopened] at read

theorem successive_elements (text : List Char) :
    ScriptElement.Successive text 0 (elements text) :=
  successive_elementsFrom (List.nil_append text).symm

theorem start_le_of_mem_elementsFrom {position : Nat} {parts : List ComponentPiece}
    {element : ScriptElement} (member : element ∈ elementsFrom position parts) :
    position ≤ element.start := by
  induction parts generalizing position with
  | nil => simp [elementsFrom] at member
  | cons piece rest induction =>
      cases piece with
      | outside char => exact Nat.le_of_succ_le (induction member)
      | script opening attributes body closing =>
          rcases List.mem_cons.mp member with rfl | later
          · exact Nat.le_refl _
          · exact Nat.le_trans (Nat.le_add_right _ _) (induction later)

end Component

def InBody (elements : List ScriptElement) (index : Nat) : Prop :=
  ∃ element ∈ elements, element.bodyStart ≤ index ∧ index < element.bodyStop

instance (elements : List ScriptElement) (index : Nat) : Decidable (InBody elements index) :=
  inferInstanceAs (Decidable (∃ element ∈ elements, _))

theorem inBody_cons {element : ScriptElement} {rest : List ScriptElement} {index : Nat} :
    InBody (element :: rest) index ↔
      element.bodyStart ≤ index ∧ index < element.bodyStop ∨ InBody rest index := by
  simp [InBody]

namespace Component

theorem not_inBody_of_lt {position index : Nat} {parts : List ComponentPiece}
    (ahead : index < position) : ¬InBody (elementsFrom position parts) index := by
  rintro ⟨element, member, starts, -⟩
  have behind := start_le_of_mem_elementsFrom member
  rw [ScriptElement.bodyStart] at starts
  omega

theorem kept_iff_of_script {opening attributes body closing : List Char} {index : Nat}
    {char : Char} {kept : Bool}
    (found : (ComponentPiece.script opening attributes body closing).marked[index]? =
      some (char, kept)) :
    kept = true ↔ opening.length ≤ index ∧ index < opening.length + body.length := by
  simp only [ComponentPiece.marked, List.getElem?_append, List.length_map, List.length_append,
    List.getElem?_map] at found
  split at found
  · split at found
    · obtain ⟨_, _, same⟩ := Option.map_eq_some_iff.mp found
      simp only [← (Prod.mk.inj same).2, Bool.false_eq_true, false_iff]
      omega
    · obtain ⟨_, _, same⟩ := Option.map_eq_some_iff.mp found
      simp only [← (Prod.mk.inj same).2, true_iff]
      omega
  · obtain ⟨_, _, same⟩ := Option.map_eq_some_iff.mp found
    simp only [← (Prod.mk.inj same).2, Bool.false_eq_true, false_iff]
    omega

theorem kept_iff_inBody {position index : Nat} {parts : List ComponentPiece} {char : Char}
    {kept : Bool}
    (found : (parts.flatMap ComponentPiece.marked)[index]? = some (char, kept)) :
    kept = true ↔ InBody (elementsFrom position parts) (position + index) := by
  induction parts generalizing position index with
  | nil => simp at found
  | cons piece rest induction =>
      rw [List.flatMap_cons, List.getElem?_append] at found
      split at found
      · -- A character of the first piece lies before all later elements.
        rename_i inside
        cases piece with
        | outside other =>
            obtain rfl : index = 0 := by simpa [ComponentPiece.marked] using inside
            obtain ⟨-, rfl⟩ : other = char ∧ false = kept := by
              simpa [ComponentPiece.marked] using found
            simp [elementsFrom, not_inBody_of_lt]
        | script opening attributes body closing =>
            have ahead : ¬InBody (elementsFrom (position + (opening ++ body ++ closing).length)
                rest) (position + index) := by
              apply not_inBody_of_lt
              simpa [ComponentPiece.marked] using inside
            rw [kept_iff_of_script found, elementsFrom, inBody_cons, or_iff_left ahead]
            simp only [ScriptElement.bodyStop, ScriptElement.bodyStart]
            omega
      · rename_i beyond
        cases piece with
        | outside other =>
            have later : kept = true ↔ InBody (elementsFrom (position + 1) rest)
                (position + 1 + (index - 1)) := induction found
            have shifted : position + 1 + (index - 1) = position + index := by
              simp [ComponentPiece.marked] at beyond
              omega
            rwa [shifted] at later
        | script opening attributes body closing =>
            have length_eq : (ComponentPiece.script opening attributes body closing).marked.length =
                (opening ++ body ++ closing).length := by
              simp [ComponentPiece.marked]
            rw [length_eq] at found beyond
            have later : kept = true ↔
                InBody (elementsFrom (position + (opening ++ body ++ closing).length) rest)
                  (position + (opening ++ body ++ closing).length +
                    (index - (opening ++ body ++ closing).length)) := induction found
            have shifted : position + (opening ++ body ++ closing).length +
                (index - (opening ++ body ++ closing).length) = position + index := by
              omega
            have behind : ¬(position + opening.length ≤ position + index ∧
                position + index < position + opening.length + body.length) := by
              simp only [List.length_append] at beyond
              omega
            rw [later, shifted, elementsFrom, inBody_cons]
            exact (or_iff_right behind).symm

/-- Each character of a text is marked as kept exactly if it lies in the body of an
element. -/
theorem exists_mark {text : List Char} {index : Nat} {char : Char}
    (held : text[index]? = some char) :
    ∃ kept, (marks text)[index]? = some (char, kept) ∧
      (kept = true ↔ InBody (elements text) index) := by
  obtain ⟨⟨_, kept⟩, found, rfl⟩ : ∃ mark, (marks text)[index]? = some mark ∧ mark.1 = char := by
    rw [← Option.map_eq_some_iff, ← List.getElem?_map, map_fst_marks, held]
  have isKept : kept = true ↔ InBody (elements text) (0 + index) := kept_iff_inBody found
  rw [Nat.zero_add] at isKept
  exact ⟨kept, found, isKept⟩

/-- A character of a script is the one of the text if it is part of a line end or lies in
the body of an element, and a space otherwise. -/
theorem getElem?_script {text : List Char} {index : Nat} {char : Char}
    (held : text[index]? = some char) :
    (ComponentScript.ofText text).text[index]? =
      some (if char = '\r' ∨ char = '\n' ∨ InBody (elements text) index then char else ' ') := by
  obtain ⟨kept, found, isKept⟩ := exists_mark held
  rw [← map_shown_marks, List.getElem?_map, found, Option.map_some, Option.some.injEq]
  simp only [← isKept]
  cases kept with
  | true => simp [shown]
  | false => simp [shown, blanked]

theorem length_script (text : List Char) :
    (ComponentScript.ofText text).text.length = text.length := by
  have marked := congrArg List.length (map_fst_marks text)
  rw [← map_shown_marks, List.length_map, ← marked, List.length_map]

theorem rowOf_cons (char : Char) (text : List Char) (index : Nat) :
    Text.rowOf (char :: text) (index + 1) =
      Text.rowOf text index + if char = '\n' then 1 else 0 := by
  simp [Text.rowOf, List.count_cons]

theorem mem_scriptRowsFrom_iff {row first : Nat} {marked : List (Char × Bool)} :
    row ∈ scriptRowsFrom first marked ↔
      ∃ index char, marked[index]? = some (char, true) ∧ Text.isBlank char = false ∧
        row = first + Text.rowOf (marked.map Prod.fst) index := by
  induction marked generalizing first with
  | nil => simp [scriptRowsFrom]
  | cons mark rest induction =>
      obtain ⟨char, kept⟩ := mark
      have later : row ∈ scriptRowsFrom (first + if char = '\n' then 1 else 0) rest ↔
          ∃ index other, rest[index]? = some (other, true) ∧ Text.isBlank other = false ∧
            row = first + Text.rowOf (char :: rest.map Prod.fst) (index + 1) := by
        simp only [induction, rowOf_cons, Nat.add_assoc, Nat.add_comm (ite _ _ _)]
      rw [← Nat.or_exists_add_one]
      simp only [List.getElem?_cons_zero, List.getElem?_cons_succ, List.map_cons,
        Option.some.injEq, Prod.mk.injEq, scriptRowsFrom]
      split
      · -- A line end is a blank, so it lists no row of its own.
        rename_i feed
        rw [if_pos feed] at later
        rw [later, or_iff_right]
        rintro ⟨other, ⟨rfl, -⟩, visible, -⟩
        simp [feed, show Text.isBlank '\n' = true by decide] at visible
      · rename_i plain
        rw [if_neg plain, Nat.add_zero] at later
        split
        · rename_i keeps
          rw [Bool.and_eq_true, Bool.not_eq_true'] at keeps
          rw [List.mem_cons, later]
          exact or_congr_left (by simp [keeps, Text.rowOf])
        · rename_i drops
          rw [Bool.and_eq_true, Bool.not_eq_true'] at drops
          rw [later, or_iff_right]
          rintro ⟨other, ⟨rfl, isKept⟩, visible, -⟩
          exact drops ⟨isKept, visible⟩

theorem mem_rows_iff {text : List Char} {row : Nat} :
    row ∈ (ComponentScript.ofText text).rows ↔
      ∃ index char, text[index]? = some char ∧ InBody (elements text) index ∧
        Text.isBlank char = false ∧ row = Text.rowOf text index := by
  have rows : (ComponentScript.ofText text).rows = (scriptRowsFrom 0 (marks text)).eraseDups :=
    rfl
  rw [rows, List.mem_eraseDups, mem_scriptRowsFrom_iff]
  simp only [Nat.zero_add, map_fst_marks]
  refine exists_congr fun index => exists_congr fun char => ?_
  rw [← and_assoc (b := InBody _ _)]
  refine and_congr_left fun _ => ?_
  constructor
  · intro found
    have held : text[index]? = some char := by
      rw [← map_fst_marks text, List.getElem?_map, found, Option.map_some]
    obtain ⟨kept, again, isKept⟩ := exists_mark held
    rw [found, Option.some.injEq, Prod.mk.injEq] at again
    exact ⟨held, isKept.mp again.2.symm⟩
  · rintro ⟨held, inside⟩
    obtain ⟨kept, found, isKept⟩ := exists_mark held
    rw [found, isKept.mpr inside]

theorem grammar_eq_foldl (position : Nat) (parts : List ComponentPiece) :
    grammar parts = (elementsFrom position parts).foldl
      (fun current element => (grammarOf? element.attributes).getD current) .javascript := by
  unfold grammar
  generalize Grammar.javascript = current
  induction parts generalizing position current with
  | nil => rfl
  | cons piece rest induction =>
      cases piece with
      | outside char => exact induction (position + 1) current
      | script opening attributes body closing => exact induction _ _

/-- Taking over every answer comes to the last one. -/
theorem foldl_getD_eq {α β : Type} (answer : α → Option β) (initial : β) (items : List α) :
    (∃ before item after, items = before ++ item :: after ∧
      answer item = some (items.foldl (fun current item => (answer item).getD current) initial) ∧
      ∀ later ∈ after, answer later = none) ∨
    items.foldl (fun current item => (answer item).getD current) initial = initial ∧
      ∀ item ∈ items, answer item = none := by
  induction items generalizing initial with
  | nil => exact .inr ⟨rfl, by simp⟩
  | cons first rest induction =>
      rw [List.foldl_cons]
      rcases induction ((answer first).getD initial) with
        ⟨before, item, after, rfl, decides, silent⟩ | ⟨same, silent⟩
      · exact .inl ⟨first :: before, item, after, rfl, decides, silent⟩
      · rw [same]
        cases answered : answer first with
        | some value => exact .inl ⟨[], first, rest, rfl, answered, silent⟩
        | none => exact .inr ⟨rfl, List.forall_mem_cons.mpr ⟨answered, silent⟩⟩

end Component

/-- The grammar that is asked for by the last of some elements that asks for one at all. -/
inductive LastAsksFor : List ScriptElement → Grammar → Prop where
  | asked {before after : List ScriptElement} {element : ScriptElement} {grammar : Grammar}
      (asks : Component.AsksFor element.attributes grammar)
      (silent : ∀ later ∈ after, ∀ other, ¬Component.AsksFor later.attributes other) :
      LastAsksFor (before ++ element :: after) grammar
  | unasked {elements : List ScriptElement}
      (silent : ∀ element ∈ elements, ∀ other, ¬Component.AsksFor element.attributes other) :
      LastAsksFor elements .javascript

theorem Component.lastAsksFor_grammar (text : List Char) :
    LastAsksFor (elements text) (grammar (pieces text)) := by
  have unanswered : ∀ element : ScriptElement, grammarOf? element.attributes = none →
      ∀ other, ¬AsksFor element.attributes other := by
    intro element silent other asks
    rw [← grammarOf?_eq_some_iff, silent] at asks
    simp at asks
  rw [grammar_eq_foldl 0]
  rcases foldl_getD_eq (fun element : ScriptElement => grammarOf? element.attributes) .javascript
    (elementsFrom 0 (pieces text)) with ⟨before, element, after, split, asks, silent⟩ |
      ⟨same, silent⟩
  · rw [elements, split]
    rw [split] at asks
    exact .asked (grammarOf?_eq_some_iff.mp asks)
      fun later member => unanswered later (silent later member)
  · rw [same]
    exact .unasked fun element member => unanswered element (silent element member)

/-- The script of a component has the characters of its line ends and of the bodies of its
elements where they are, and spaces everywhere else.  Its rows are those of the characters
in bodies that are no blanks, and the last element that asks for a grammar decides on it. -/
theorem ComponentScript.ofText_keeps_bodies (text : List Char) :
    ∃ elements,
      ScriptElement.Successive text 0 elements ∧
      (∀ others, ScriptElement.Successive text 0 others → others = elements) ∧
      (ComponentScript.ofText text).text.length = text.length ∧
      (∀ index char, text[index]? = some char →
        (ComponentScript.ofText text).text[index]? =
          some (if char = '\r' ∨ char = '\n' ∨ InBody elements index then char else ' ')) ∧
      (∀ row, row ∈ (ComponentScript.ofText text).rows ↔
        ∃ index char, text[index]? = some char ∧ InBody elements index ∧
          Text.isBlank char = false ∧ row = Text.rowOf text index) ∧
      LastAsksFor elements (ComponentScript.ofText text).grammar := by
  have met := Component.successive_elements text
  refine ⟨Component.elements text, met, fun others otherMet => otherMet.unique met,
    Component.length_script text, fun _ _ => Component.getElem?_script,
    fun _ => Component.mem_rows_iff, Component.lastAsksFor_grammar text⟩

end ScriptLint
