import Mathlib.Data.List.Basic
import ScriptLint.Proofs.Source.Position
import ScriptLint.Text.Blank

/-!
# Lines between two places of a text

The row of an offset is the number of line feeds before it.  Whether a blank line lies
strictly between the rows of two offsets depends on nothing but the text between them:
one of its inner lines has to be blank.
-/

namespace ScriptLint.Text

/-- The row of an offset, counted from zero. -/
def rowOf (text : List Char) (offset : Nat) : Nat :=
  (text.take offset).count '\n'

/-- A blank line lies strictly between the rows of two offsets. -/
def BlankBetween (text : List Char) (first last : Nat) : Prop :=
  ∃ row line, rowOf text first < row ∧ row < rowOf text last ∧
    (lines text)[row]? = some line ∧ allBlank line = true

/-- A line of a text that is neither its first nor its last one is blank. -/
def HasInnerBlank (text : List Char) : Prop :=
  ∃ row line, 0 < row ∧ row < text.count '\n' ∧
    (rawLines text)[row]? = some line ∧ allBlank line = true

section Rows

variable {before after line : List Char} {row : Nat}

theorem rawLines_feed (rest : List Char) : rawLines ('\n' :: rest) = [] :: rawLines rest := by
  rw [rawLines, if_pos rfl]

theorem exists_rawLines_cons_of_ne {char : Char} (plain : char ≠ '\n') (rest : List Char) :
    ∃ line others, rawLines rest = line :: others ∧
      rawLines (char :: rest) = (char :: line) :: others := by
  cases cut : rawLines rest with
  | nil => exact absurd cut (rawLines_ne_nil rest)
  | cons line others => exact ⟨line, others, rfl, by rw [rawLines, if_neg plain, cut]⟩

theorem rawLines_line (noFeed : '\n' ∉ line) (rest : List Char) :
    rawLines (line ++ '\n' :: rest) = line :: rawLines rest := by
  induction line with
  | nil => exact rawLines_feed rest
  | cons char line induction =>
      have plain : char ≠ '\n' := by
        rintro rfl
        exact noFeed List.mem_cons_self
      rw [List.cons_append, rawLines, if_neg plain,
        induction fun member => noFeed (List.mem_cons_of_mem _ member)]

/-- Rows that end before a place are the same whatever comes behind it. -/
theorem getElem?_rawLines_append_left (after : List Char) (upTo : row < before.count '\n') :
    (rawLines (before ++ after))[row]? = (rawLines before)[row]? := by
  induction before generalizing row with
  | nil => simp at upTo
  | cons char rest induction =>
      rw [List.cons_append]
      by_cases feed : char = '\n'
      · subst feed
        rw [rawLines_feed, rawLines_feed]
        cases row with
        | zero => rfl
        | succ row =>
            rw [List.count_cons_self] at upTo
            exact induction (by omega)
      · obtain ⟨line, others, ofRest, whole⟩ := exists_rawLines_cons_of_ne feed (rest ++ after)
        obtain ⟨own, ownOthers, ofOwn, wholeOwn⟩ := exists_rawLines_cons_of_ne feed rest
        rw [List.count_cons_of_ne feed] at upTo
        have same := induction upTo
        rw [ofRest, ofOwn] at same
        rw [whole, wholeOwn]
        cases row with
        | zero => simpa using same
        | succ row => exact same

/-- Rows that start behind a place are the same whatever comes before it. -/
theorem getElem?_rawLines_append_right (before after : List Char) (behind : 0 < row) :
    (rawLines (before ++ after))[before.count '\n' + row]? = (rawLines after)[row]? := by
  induction before with
  | nil => rw [List.count_nil, Nat.zero_add, List.nil_append]
  | cons char rest induction =>
      rw [List.cons_append]
      by_cases feed : char = '\n'
      · subst feed
        have next : rest.count '\n' + 1 + row = rest.count '\n' + row + 1 := by omega
        rw [rawLines_feed, List.count_cons_self, next, List.getElem?_cons_succ]
        exact induction
      · -- The first row is longer by a character; the row in question is a later one.
        obtain ⟨line, others, ofRest, whole⟩ := exists_rawLines_cons_of_ne feed (rest ++ after)
        obtain ⟨less, isNext⟩ : ∃ less, rest.count '\n' + row = less + 1 :=
          ⟨rest.count '\n' + row - 1, by omega⟩
        rw [ofRest, isNext, List.getElem?_cons_succ] at induction
        rw [whole, List.count_cons_of_ne feed, isNext, List.getElem?_cons_succ]
        exact induction

theorem rowOf_mono (text : List Char) {first last : Nat} (ordered : first ≤ last) :
    rowOf text first ≤ rowOf text last := by
  have shorter : text.take first = (text.take last).take first := by
    rw [List.take_take, Nat.min_eq_left ordered]
  rw [rowOf, shorter]
  exact (List.take_sublist _ _).count_le _

/-- A line other than the first starts behind a line feed. -/
theorem of_getElem?_lineStartsFrom {text : List Char} {base start : Nat}
    (starts : (lineStartsFrom base (rawLines text))[row + 1]? = some start) :
    ∃ before after, text = before ++ '\n' :: after ∧ start = base + before.length + 1 := by
  induction text generalizing base row with
  | nil => simp [rawLines, lineStartsFrom] at starts
  | cons char rest induction =>
      by_cases feed : char = '\n'
      · subst feed
        rw [rawLines_feed, lineStartsFrom, List.getElem?_cons_succ] at starts
        cases row with
        | zero =>
            refine ⟨[], rest, rfl, ?_⟩
            cases cut : rawLines rest with
            | nil => exact absurd cut (rawLines_ne_nil rest)
            | cons line others =>
                rw [cut, lineStartsFrom, List.getElem?_cons_zero] at starts
                exact (Option.some.inj starts).symm
        | succ row =>
            obtain ⟨before, after, rfl, isStart⟩ := induction starts
            refine ⟨'\n' :: before, after, rfl, ?_⟩
            simp only [List.length_nil, List.length_cons] at isStart ⊢
            omega
      · obtain ⟨line, others, ofRest, whole⟩ := exists_rawLines_cons_of_ne feed rest
        have inRest : (lineStartsFrom (base + 1) (rawLines rest))[row + 1]? = some start := by
          rw [whole, lineStartsFrom, List.getElem?_cons_succ, List.length_cons] at starts
          rw [ofRest, lineStartsFrom, List.getElem?_cons_succ, ← starts]
          congr 2
          omega
        obtain ⟨before, after, rfl, isStart⟩ := induction inRest
        refine ⟨char :: before, after, rfl, ?_⟩
        rw [List.length_cons]
        omega

end Rows

section Blanks

variable {before middle after line : List Char}

theorem allBlank_dropReturns (line : List Char) :
    allBlank (dropReturns line) = allBlank line := by
  obtain ⟨returns, whole, areReturns⟩ := exists_dropReturns_append line
  have blankReturns : allBlank returns = true := by
    apply List.all_eq_true.mpr
    intro char member
    rw [areReturns char member]
    decide
  conv_rhs => rw [whole]
  unfold allBlank at blankReturns ⊢
  rw [List.all_append, blankReturns, Bool.and_true]

theorem blankBetween_append_iff :
    BlankBetween (before ++ (middle ++ after)) before.length (before.length + middle.length) ↔
      HasInnerBlank middle := by
  have first : rowOf (before ++ (middle ++ after)) before.length = before.count '\n' := by
    rw [rowOf, List.take_left]
  have last : rowOf (before ++ (middle ++ after)) (before.length + middle.length) =
      before.count '\n' + middle.count '\n' := by
    rw [rowOf, List.take_append, List.take_of_length_le (by omega), Nat.add_sub_cancel_left,
      List.take_left, List.count_append]
  have inner : ∀ row, 0 < row → row < middle.count '\n' →
      (rawLines (before ++ (middle ++ after)))[before.count '\n' + row]? =
        (rawLines middle)[row]? := by
    intro row behind upTo
    rw [getElem?_rawLines_append_right _ _ behind, getElem?_rawLines_append_left _ upTo]
  unfold BlankBetween HasInnerBlank
  rw [first, last]
  constructor
  · rintro ⟨row, line, behind, upTo, onLine, blank⟩
    obtain ⟨down, rfl⟩ : ∃ down, row = before.count '\n' + down :=
      ⟨row - before.count '\n', by omega⟩
    rw [lines, List.getElem?_map, inner down (by omega) (by omega)] at onLine
    obtain ⟨raw, onRaw, rfl⟩ := Option.map_eq_some_iff.mp onLine
    exact ⟨down, raw, by omega, by omega, onRaw, by rwa [allBlank_dropReturns] at blank⟩
  · rintro ⟨row, line, behind, upTo, onLine, blank⟩
    refine ⟨before.count '\n' + row, dropReturns line, by omega, by omega, ?_, ?_⟩
    · rw [lines, List.getElem?_map, inner row behind upTo, onLine, Option.map_some]
    · rw [allBlank_dropReturns]
      exact blank

theorem blankBetween_iff {text : List Char} {first last : Nat} (ordered : first ≤ last)
    (within : last ≤ text.length) :
    BlankBetween text first last ↔ HasInnerBlank (slice text first last) := by
  have cut := List.take_append_drop first (text.take last)
  rw [List.take_take, Nat.min_eq_left ordered] at cut
  have whole : text.take first ++ ((text.take last).drop first ++ text.drop last) = text := by
    rw [← List.append_assoc, cut, List.take_append_drop]
  have start : (text.take first).length = first := by
    rw [List.length_take]
    omega
  have stop : first + ((text.take last).drop first).length = last := by
    rw [List.length_drop, List.length_take]
    omega
  have between : BlankBetween
      (text.take first ++ ((text.take last).drop first ++ text.drop last))
      (text.take first).length
      ((text.take first).length + ((text.take last).drop first).length) ↔
        HasInnerBlank ((text.take last).drop first) := blankBetween_append_iff
  rw [whole, start, stop] at between
  rw [slice_of_nat ordered within]
  exact between

theorem hasInnerBlank_of_feeds (noFeed : '\n' ∉ line) (blank : allBlank line = true) :
    HasInnerBlank (before ++ '\n' :: (line ++ '\n' :: after)) := by
  refine ⟨before.count '\n' + 1, line, by omega, ?_, ?_, blank⟩
  · simp only [List.count_append, List.count_cons_self]
    omega
  · rw [getElem?_rawLines_append_right _ _ (by omega), rawLines_feed, List.getElem?_cons_succ]
    rw [rawLines_line noFeed, List.getElem?_cons_zero]

end Blanks

end ScriptLint.Text
