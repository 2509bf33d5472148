import ScriptLint.Proofs.Report
import ScriptLint.Proofs.Text.Lines

/-!
# Reading reports

A report can be read back: if no line feed occurs in what it shows, each of its rows
stands for the start of a section, for a diagnostic or for the end of a section.  The
row of a diagnostic is read up to its first comma and its first closing bracket, and
from its end to the last opening parenthesis.
-/

namespace ScriptLint.Report

/-- What a report shows of a diagnostic. -/
structure Shown where
  line : Int
  column : Int
  message : String
  rule : Option String
deriving DecidableEq, Repr

def shown (diagnostic : Diagnostic) : Shown :=
  ⟨diagnostic.startLine, diagnostic.startColumn, diagnostic.message, diagnostic.rule⟩

/-- What a report shows, file by file. -/
def contents (groups : List (String × List Diagnostic)) : List (String × List Shown) :=
  (groups.filter fun entry => !entry.2.isEmpty).map fun entry => (entry.1, entry.2.map shown)

/-- Names and messages that keep to their rows, and rule names that can be told from
what stands before them and from a missing one. -/
structure IsPlain (groups : List (String × List Diagnostic)) : Prop where
  paths : ∀ entry ∈ groups, '\n' ∉ entry.1.toList
  messages : ∀ entry ∈ groups, ∀ diagnostic ∈ entry.2, '\n' ∉ diagnostic.message.toList
  rules : ∀ entry ∈ groups, ∀ diagnostic ∈ entry.2, ∀ rule, diagnostic.rule = some rule →
    '\n' ∉ rule.toList ∧ '(' ∉ rule.toList ∧ rule ≠ "null"

section Separators

variable {α : Type} {separator : α} {left right after behind : List α}

theorem eq_and_eq_of_first (notLeft : separator ∉ left) (notRight : separator ∉ right)
    (same : left ++ separator :: after = right ++ separator :: behind) :
    left = right ∧ after = behind := by
  induction left generalizing right with
  | nil =>
      cases right with
      | nil => exact ⟨rfl, (List.cons.inj same).2⟩
      | cons first rest =>
          obtain ⟨rfl, -⟩ := List.cons.inj same
          exact absurd List.mem_cons_self notRight
  | cons first rest induction =>
      cases right with
      | nil =>
          obtain ⟨rfl, -⟩ := List.cons.inj same
          exact absurd List.mem_cons_self notLeft
      | cons second others =>
          obtain ⟨rfl, sameRest⟩ := List.cons.inj same
          obtain ⟨rfl, sameEnd⟩ := induction
            (fun member => notLeft (List.mem_cons_of_mem _ member))
            (fun member => notRight (List.mem_cons_of_mem _ member)) sameRest
          exact ⟨rfl, sameEnd⟩

theorem eq_and_eq_of_last (notAfter : separator ∉ after) (notBehind : separator ∉ behind)
    (same : left ++ separator :: after = right ++ separator :: behind) :
    left = right ∧ after = behind := by
  have reversed : after.reverse ++ separator :: left.reverse =
      behind.reverse ++ separator :: right.reverse := by
    simpa using congrArg List.reverse same
  obtain ⟨sameEnd, sameStart⟩ := eq_and_eq_of_first
    (fun member => notAfter (List.mem_reverse.mp member))
    (fun member => notBehind (List.mem_reverse.mp member)) reversed
  exact ⟨List.reverse_inj.mp sameStart, List.reverse_inj.mp sameEnd⟩

end Separators

section Rows

theorem toList_toString (number : Int) :
    (toString number).toList =
      if 0 ≤ number then Nat.toDigits 10 number.toNat
      else '-' :: Nat.toDigits 10 (-number).toNat := by
  rw [Int.toString_eq_repr, Int.repr_eq_if]
  split
  · exact Nat.toList_repr
  · rw [String.toList_append, Nat.toList_repr]
    rfl

theorem of_mem_toString {number : Int} {char : Char} (member : char ∈ (toString number).toList) :
    char = '-' ∨ char.isDigit = true := by
  rw [toList_toString] at member
  split at member
  · exact Or.inr (Nat.isDigit_of_mem_toDigits (by decide) (by decide) member)
  · rcases List.mem_cons.mp member with sign | digit
    · exact Or.inl sign
    · exact Or.inr (Nat.isDigit_of_mem_toDigits (by decide) (by decide) digit)

theorem notMem_toString {char : Char} (notSign : char ≠ '-') (notDigit : char.isDigit = false)
    (number : Int) : char ∉ (toString number).toList := by
  intro member
  rcases of_mem_toString member with sign | digit
  · exact notSign sign
  · rw [notDigit] at digit
    exact Bool.false_ne_true digit

theorem toDigits_inj {left right : Nat} (same : Nat.toDigits 10 left = Nat.toDigits 10 right) :
    left = right := by
  have read := congrArg (Nat.ofDigitChars 10 · 0) same
  simpa only [Nat.ofDigitChars_toDigits (by decide : 1 < 10) (by decide : 10 ≤ 10)] using read

theorem sign_notMem_toDigits (number : Nat) : '-' ∉ Nat.toDigits 10 number := by
  intro member
  have digit := Nat.isDigit_of_mem_toDigits (by decide) (by decide) member
  exact absurd digit (by decide)

theorem toString_inj {left right : Int}
    (same : (toString left).toList = (toString right).toList) : left = right := by
  have noSign : ∀ {number other : Nat}, Nat.toDigits 10 number ≠ '-' :: Nat.toDigits 10 other :=
    fun written => sign_notMem_toDigits _ (written ▸ List.mem_cons_self)
  rw [toList_toString, toList_toString] at same
  split at same <;> split at same
  · have := toDigits_inj same
    omega
  · exact absurd same noSign
  · exact absurd same.symm noSign
  · have := toDigits_inj (List.cons.inj same).2
    omega

namespace Shown

def row (shown : Shown) : List Char :=
  [' ', ' ', '['] ++ ((toString shown.line).toList ++ ',' :: ' ' ::
    ((toString shown.column).toList ++ ']' :: ' ' ::
      (shown.message.toList ++ ' ' :: '(' :: ((shown.rule.getD "null").toList ++ [')']))))

structure IsPlain (shown : Shown) : Prop where
  message : '\n' ∉ shown.message.toList
  rule : ∀ rule, shown.rule = some rule →
    '\n' ∉ rule.toList ∧ '(' ∉ rule.toList ∧ rule ≠ "null"

variable {left right shown : Shown}

theorem IsPlain.notMem_getD (plain : shown.IsPlain) {char : Char}
    (special : char = '\n' ∨ char = '(') : char ∉ (shown.rule.getD "null").toList := by
  cases named : shown.rule with
  | none => rcases special with rfl | rfl <;> decide
  | some rule =>
      obtain ⟨noFeed, noParenthesis, -⟩ := plain.rule rule named
      rcases special with rfl | rfl
      · exact noFeed
      · exact noParenthesis

theorem IsPlain.notMem_row (plain : shown.IsPlain) : '\n' ∉ shown.row := by
  have noFeed : ∀ number : Int, '\n' ∉ (toString number).toList :=
    notMem_toString (by decide) (by decide)
  have rule := plain.notMem_getD (Or.inl rfl)
  simp only [row, List.mem_append, List.mem_cons, noFeed, plain.message, rule]
  decide

theorem IsPlain.rule_inj (plainLeft : left.IsPlain) (plainRight : right.IsPlain)
    (same : left.rule.getD "null" = right.rule.getD "null") : left.rule = right.rule := by
  cases ofLeft : left.rule with
  | none =>
      cases ofRight : right.rule with
      | none => rfl
      | some rule =>
          rw [ofLeft, ofRight] at same
          exact absurd same.symm (plainRight.rule rule ofRight).2.2
  | some rule =>
      cases ofRight : right.rule with
      | none =>
          rw [ofLeft, ofRight] at same
          exact absurd same (plainLeft.rule rule ofLeft).2.2
      | some other =>
          rw [ofLeft, ofRight] at same
          exact congrArg some same

theorem IsPlain.row_inj (plainLeft : left.IsPlain) (plainRight : right.IsPlain)
    (same : left.row = right.row) : left = right := by
  have noComma : ∀ number : Int, ',' ∉ (toString number).toList :=
    notMem_toString (by decide) (by decide)
  have noBracket : ∀ number : Int, ']' ∉ (toString number).toList :=
    notMem_toString (by decide) (by decide)
  obtain ⟨line, afterLine⟩ :=
    eq_and_eq_of_first (noComma _) (noComma _) (List.append_cancel_left same)
  obtain ⟨column, afterColumn⟩ :=
    eq_and_eq_of_first (noBracket _) (noBracket _) (List.cons.inj afterLine).2
  -- The message may hold parentheses, but nothing behind the last one that opens.
  have noParenthesis : ∀ {shown : Shown}, shown.IsPlain →
      '(' ∉ (shown.rule.getD "null").toList ++ [')'] := by
    intro shown plain member
    rcases List.mem_append.mp member with inRule | closing
    · exact plain.notMem_getD (Or.inr rfl) inRule
    · exact absurd (List.mem_singleton.mp closing) (by decide)
  have ending : (left.message.toList ++ [' ']) ++ '(' :: ((left.rule.getD "null").toList ++ [')']) =
      (right.message.toList ++ [' ']) ++ '(' :: ((right.rule.getD "null").toList ++ [')']) := by
    simpa using (List.cons.inj afterColumn).2
  obtain ⟨message, rule⟩ :=
    eq_and_eq_of_last (noParenthesis plainLeft) (noParenthesis plainRight) ending
  have sameMessage := String.toList_inj.mp (List.append_cancel_right message)
  have sameRule := plainLeft.rule_inj plainRight
    (String.toList_inj.mp (List.append_cancel_right rule))
  obtain ⟨leftLine, leftColumn, leftMessage, leftRule⟩ := left
  obtain ⟨rightLine, rightColumn, rightMessage, rightRule⟩ := right
  rw [Shown.mk.injEq]
  exact ⟨toString_inj line, toString_inj column, sameMessage, sameRule⟩

end Shown

end Rows

section Sections

/-- The rows of a section: the path, the diagnostics and an empty row. -/
def sectionRows (entry : String × List Shown) : List (List Char) :=
  ("File: ".toList ++ entry.1.toList) :: (entry.2.map Shown.row ++ [[]])

def headerRows : List (List Char) := ["ESLint Report".toList, []]

theorem toList_line (diagnostic : Diagnostic) :
    (line diagnostic).toList = (shown diagnostic).row ++ ['\n'] := by
  simp [line, Shown.row, shown]

theorem toList_fileSection {path : String} {diagnostics : List Diagnostic}
    (some : diagnostics ≠ []) :
    (fileSection path diagnostics).toList =
      (sectionRows (path, diagnostics.map shown)).flatMap (· ++ ['\n']) := by
  have rows : (String.join (diagnostics.map line)).toList =
      ((diagnostics.map shown).map Shown.row).flatMap (· ++ ['\n']) := by
    rw [String.toList_join, List.flatMap_map, List.flatMap_map, List.flatMap_map]
    exact List.flatMap_congr fun diagnostic _ => toList_line diagnostic
  simp [fileSection, sectionRows, some, rows]

theorem toList_render (groups : List (String × List Diagnostic)) :
    (render groups).toList =
      (headerRows ++ (contents groups).flatMap sectionRows).flatMap (· ++ ['\n']) := by
  rw [← render_filter, render, String.toList_append, String.toList_join, List.flatMap_map,
    List.flatMap_append, List.flatMap_assoc, contents, List.flatMap_map]
  refine congrArg₂ (· ++ ·) rfl (List.flatMap_congr ?_)
  intro entry kept
  have some : entry.2 ≠ [] := by simpa using (List.mem_filter.mp kept).2
  exact toList_fileSection some

theorem rawLines_flatMap {rows : List (List Char)} (noFeed : ∀ row ∈ rows, '\n' ∉ row) :
    Text.rawLines (rows.flatMap (· ++ ['\n'])) = rows ++ [[]] := by
  induction rows with
  | nil => rfl
  | cons row rest induction =>
      obtain ⟨here, later⟩ := List.forall_mem_cons.mp noFeed
      rw [List.flatMap_cons, List.append_assoc, List.singleton_append,
        Text.rawLines_line here, induction later, List.cons_append]

theorem map_row_inj {left right : List Shown} (plainLeft : ∀ shown ∈ left, shown.IsPlain)
    (plainRight : ∀ shown ∈ right, shown.IsPlain)
    (same : left.map Shown.row = right.map Shown.row) : left = right := by
  induction left generalizing right with
  | nil => exact (List.map_eq_nil_iff.mp same.symm).symm
  | cons first rest induction =>
      cases right with
      | nil => simp at same
      | cons second others =>
          obtain ⟨plainFirst, plainRest⟩ := List.forall_mem_cons.mp plainLeft
          obtain ⟨plainSecond, plainOthers⟩ := List.forall_mem_cons.mp plainRight
          obtain ⟨sameRow, sameRows⟩ := List.cons.inj same
          rw [plainFirst.row_inj plainSecond sameRow, induction plainRest plainOthers sameRows]

/-- The rows of sections tell the sections: an empty row ends each of them, and a row
of a diagnostic is not empty. -/
theorem flatMap_sectionRows_inj {left right : List (String × List Shown)}
    (plainLeft : ∀ entry ∈ left, ∀ shown ∈ entry.2, shown.IsPlain)
    (plainRight : ∀ entry ∈ right, ∀ shown ∈ entry.2, shown.IsPlain)
    (same : left.flatMap sectionRows = right.flatMap sectionRows) : left = right := by
  have notEmpty : ∀ held : List Shown, [] ∉ held.map Shown.row := by
    intro held member
    obtain ⟨shown, -, empty⟩ := List.mem_map.mp member
    exact List.cons_ne_nil _ _ empty
  induction left generalizing right with
  | nil =>
      cases right with
      | nil => rfl
      | cons second others => exact absurd same (List.cons_ne_nil _ _).symm
  | cons first rest induction =>
      cases right with
      | nil => exact absurd same (List.cons_ne_nil _ _)
      | cons second others =>
          obtain ⟨path, held⟩ := first
          obtain ⟨other, heldToo⟩ := second
          obtain ⟨plainFirst, plainRest⟩ := List.forall_mem_cons.mp plainLeft
          obtain ⟨plainSecond, plainOthers⟩ := List.forall_mem_cons.mp plainRight
          simp only [List.flatMap_cons, sectionRows, List.cons_append, List.append_assoc,
            List.nil_append, List.cons.injEq] at same
          obtain ⟨samePath, sameRows⟩ := same
          obtain rfl : path = other := String.toList_inj.mp (List.append_cancel_left samePath)
          obtain ⟨sameHeld, sameRest⟩ :=
            eq_and_eq_of_first (notEmpty held) (notEmpty heldToo) sameRows
          obtain rfl : held = heldToo := map_row_inj plainFirst plainSecond sameHeld
          rw [induction plainRest plainOthers sameRest]

end Sections

variable {groups left right : List (String × List Diagnostic)}

theorem IsPlain.of_mem_contents (plain : IsPlain groups) :
    ∀ entry ∈ contents groups, '\n' ∉ entry.1.toList ∧ ∀ shown ∈ entry.2, shown.IsPlain := by
  intro entry member
  obtain ⟨group, kept, rfl⟩ := List.mem_map.mp member
  have among := (List.mem_filter.mp kept).1
  refine ⟨plain.paths group among, ?_⟩
  intro shown listed
  obtain ⟨diagnostic, held, rfl⟩ := List.mem_map.mp listed
  exact ⟨plain.messages group among diagnostic held, plain.rules group among diagnostic held⟩

theorem IsPlain.noFeed (plain : IsPlain groups) :
    ∀ row ∈ headerRows ++ (contents groups).flatMap sectionRows, '\n' ∉ row := by
  intro row member
  rcases List.mem_append.mp member with inHeader | inSections
  · have header : ∀ row ∈ headerRows, '\n' ∉ row := by decide
    exact header row inHeader
  · obtain ⟨entry, listed, inSection⟩ := List.mem_flatMap.mp inSections
    obtain ⟨path, held⟩ := plain.of_mem_contents entry listed
    rcases List.mem_cons.mp inSection with rfl | later
    · simpa using path
    · rcases List.mem_append.mp later with isRow | isEnd
      · obtain ⟨shown, isHeld, rfl⟩ := List.mem_map.mp isRow
        exact (held shown isHeld).notMem_row
      · rw [List.mem_singleton.mp isEnd]
        exact List.not_mem_nil

/-- Reports on plain groups are the same exactly if they show the same. -/
theorem render_eq_iff_contents_eq (plainLeft : IsPlain left) (plainRight : IsPlain right) :
    render left = render right ↔ contents left = contents right := by
  rw [← String.toList_inj, toList_render, toList_render]
  constructor
  · intro same
    have rows := congrArg Text.rawLines same
    rw [rawLines_flatMap plainLeft.noFeed, rawLines_flatMap plainRight.noFeed] at rows
    have sections := List.append_cancel_left (List.append_cancel_right rows)
    exact flatMap_sectionRows_inj
      (fun entry member => (plainLeft.of_mem_contents entry member).2)
      (fun entry member => (plainRight.of_mem_contents entry member).2) sections
  · intro same
    rw [same]

/-- A file whose messages look like other parts of a report. -/
def misleading (severity : Severity) : String × List Diagnostic :=
  ("(a] .js",
    [⟨"(a] .js", 1, 12, 1, 15, "] File: b (no-var)", severity, none⟩,
      ⟨"(a] .js", 12, -1, 12, 15, "  [1, 2] (", severity, some ")"⟩])

theorem isPlain_misleading (severity : Severity) (paths : List String)
    (noFeed : ∀ path ∈ paths, '\n' ∉ path.toList) :
    IsPlain (misleading severity :: paths.map (·, [])) := by
  constructor
  · rw [List.forall_mem_cons, List.forall_mem_map]
    exact ⟨(by decide : '\n' ∉ "(a] .js".toList), noFeed⟩
  · rw [List.forall_mem_cons, List.forall_mem_map]
    exact ⟨by simp [misleading], by simp⟩
  · rw [List.forall_mem_cons, List.forall_mem_map]
    exact ⟨by simp [misleading], by simp⟩

theorem render_eq_iff_contents_eq_misleading :
    IsPlain [misleading .error, ("b.js", [])] ∧ IsPlain [misleading .warning] ∧
      contents [misleading .error, ("b.js", [])] = contents [misleading .warning] ∧
      (render [misleading .error, ("b.js", [])] = render [misleading .warning] ↔
        contents [misleading .error, ("b.js", [])] = contents [misleading .warning]) := by
  have plain : IsPlain [misleading .error, ("b.js", [])] :=
    isPlain_misleading .error ["b.js"] (by decide)
  have plainToo : IsPlain [misleading .warning] := isPlain_misleading .warning [] (by decide)
  exact ⟨plain, plainToo, rfl, render_eq_iff_contents_eq plain plainToo⟩

end ScriptLint.Report
