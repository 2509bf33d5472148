import Mathlib.Data.List.Forall2
import ScriptLint.Source.Component

/-!
# Tags and language attributes

What the parts of a script element look like, said without the functions that read them:
names in any case, an opening tag up to its first closing angle bracket, a closing tag
with blanks before its bracket, and an attribute that names a language.  The functions
read exactly these.
-/

namespace ScriptLint

namespace Text

/-- The characters that stand for a small letter where case does not matter: the letter
and its capital, for an s also the long s, and for an i also the dotted capital and the
dotless small one. -/
inductive StandsFor (letter : Char) : Char → Prop where
  | small : StandsFor letter letter
  | capital : StandsFor letter letter.toUpper
  | longS (isS : letter = 's') : StandsFor letter '\u017f'
  | dottedI (isI : letter = 'i') : StandsFor letter '\u0130'
  | dotlessI (isI : letter = 'i') : StandsFor letter '\u0131'

theorem toNat_toLower (char : Char) :
    char.toLower.toNat =
      if 65 ≤ char.toNat ∧ char.toNat ≤ 90 then char.toNat + 32 else char.toNat := by
  unfold Char.toLower
  split
  · rename_i upper
    have bounds : 65 ≤ char.toNat ∧ char.toNat ≤ 90 := upper
    rw [if_pos bounds]
    calc (char.val + 32).toNat = (char.toNat + 32) % 4294967296 := UInt32.toNat_add _ _
      _ = char.toNat + 32 := by omega
  · rename_i other
    exact (if_neg other).symm

theorem toNat_toUpper (char : Char) :
    char.toUpper.toNat =
      if 97 ≤ char.toNat ∧ char.toNat ≤ 122 then char.toNat - 32 else char.toNat := by
  unfold Char.toUpper
  split
  · rename_i lower
    have bounds : 97 ≤ char.toNat ∧ char.toNat ≤ 122 := lower
    rw [if_pos bounds]
    calc (char.val + 4294967264).toNat = (char.toNat + 4294967264) % 4294967296 :=
          UInt32.toNat_add _ _
      _ = char.toNat - 32 := by omega
  · rename_i other
    exact (if_neg other).symm

theorem toLower_eq_iff {letter char : Char} (small : letter.isLower = true) :
    char.toLower = letter ↔ char = letter ∨ char = letter.toUpper := by
  have bounds : 97 ≤ letter.toNat ∧ letter.toNat ≤ 122 := by
    obtain ⟨atLeast, atMost⟩ := Bool.and_eq_true_iff.mp small
    exact ⟨of_decide_eq_true atLeast, of_decide_eq_true atMost⟩
  simp only [← Char.toNat_inj, toNat_toLower, toNat_toUpper, if_pos bounds]
  split <;> omega

theorem isLetter_eq_true_iff {letter char : Char} (small : letter.isLower = true) :
    isLetter letter char = true ↔ StandsFor letter char := by
  simp only [isLetter, Bool.or_eq_true, Bool.and_eq_true, decide_eq_true_eq,
    toLower_eq_iff small]
  constructor
  · rintro (((rfl | rfl) | ⟨rfl, rfl⟩) | ⟨rfl, rfl | rfl⟩)
    · exact .small
    · exact .capital
    · exact .longS rfl
    · exact .dottedI rfl
    · exact .dotlessI rfl
  · rintro (_ | _ | isS | isI | isI)
    · simp
    · simp
    · simp [isS]
    · simp [isI]
    · simp [isI]

/-- A text is a word of small letters, written in any case. -/
def Spells (word text : List Char) : Prop :=
  List.Forall₂ StandsFor word text

theorem dropWord?_eq_some_iff {word text rest : List Char}
    (small : word.all Char.isLower = true) :
    dropWord? word text = some rest ↔ ∃ name, Spells word name ∧ text = name ++ rest := by
  induction word generalizing text with
  | nil => simp [dropWord?, Spells]
  | cons letter word induction =>
      obtain ⟨smallFirst, smallRest⟩ := Bool.and_eq_true_iff.mp (List.all_cons ▸ small)
      cases text with
      | nil =>
          simp only [dropWord?, reduceCtorEq, false_iff]
          rintro ⟨name, spelled, whole⟩
          cases spelled with
          | cons _ _ => simp at whole
      | cons char text =>
          simp only [dropWord?, Option.ite_none_right_eq_some, induction smallRest,
            isLetter_eq_true_iff smallFirst]
          constructor
          · rintro ⟨same, name, spelled, rfl⟩
            exact ⟨char :: name, .cons same spelled, rfl⟩
          · rintro ⟨name, spelled, whole⟩
            cases spelled with
            | cons same spelled =>
                obtain ⟨rfl, rfl⟩ := List.cons.inj whole
                exact ⟨same, _, spelled, rfl⟩

theorem isBlank_of_mem_takeWhile {char : Char} {text : List Char}
    (member : char ∈ text.takeWhile isBlank) : isBlank char = true :=
  List.all_eq_true.mp List.all_takeWhile char member

/-- Trimming takes off the blanks before a character that is none. -/
theorem trimStart_append {blanks rest : List Char} {char : Char}
    (all : ∀ blank ∈ blanks, isBlank blank = true) (other : isBlank char = false) :
    trimStart (blanks ++ char :: rest) = char :: rest := by
  rw [trimStart, List.dropWhile_append_of_pos all, List.dropWhile_cons_of_neg]
  simp [other]

theorem exists_append_trimStart (text : List Char) :
    ∃ blanks, (∀ blank ∈ blanks, isBlank blank = true) ∧ text = blanks ++ trimStart text :=
  ⟨text.takeWhile isBlank, fun _ => isBlank_of_mem_takeWhile,
    List.takeWhile_append_dropWhile.symm⟩

end Text

namespace Component

/-- An opening tag of a script with these attributes. -/
structure IsOpening (tag attributes : List Char) : Prop where
  written : ∃ name, Text.Spells "script".toList name ∧
    tag = '<' :: (name ++ (attributes ++ ['>']))
  wordEnds : Text.wordEndsBefore (attributes ++ ['>']) = true
  unclosed : '>' ∉ attributes

def IsClosing (tag : List Char) : Prop :=
  ∃ name blanks, Text.Spells "script".toList name ∧
    (∀ blank ∈ blanks, Text.isBlank blank = true) ∧
    tag = '<' :: '/' :: (name ++ (blanks ++ ['>']))

def Closes (text : List Char) : Prop :=
  ∃ tag, IsClosing tag ∧ tag <+: text

theorem splitAtBracket?_eq_some_iff {text before after : List Char} :
    splitAtBracket? text = some (before, after) ↔
      '>' ∉ before ∧ text = before ++ '>' :: after := by
  induction text generalizing before with
  | nil => simp [splitAtBracket?]
  | cons char rest induction =>
      unfold splitAtBracket?
      split
      · rename_i isBracket
        subst isBracket
        simp only [Option.some.injEq, Prod.mk.injEq]
        constructor
        · rintro ⟨rfl, rfl⟩
          simp
        · rintro ⟨inside, whole⟩
          cases before with
          | nil => simpa using whole
          | cons first others =>
              obtain ⟨rfl, -⟩ := List.cons.inj whole
              simp at inside
      · rename_i other
        cases before with
        | nil =>
            have differs : ¬char :: rest = [] ++ '>' :: after := by
              intro whole
              exact other (List.cons.inj whole).1
            simp only [differs, and_false, iff_false]
            split
            · simp
            · simp
        | cons first others =>
            have readOn : splitAtBracket? rest = some (others, after) ∧ char = first ↔
                '>' ∉ first :: others ∧ char :: rest = first :: others ++ '>' :: after := by
              rw [induction]
              constructor
              · rintro ⟨⟨inside, rfl⟩, rfl⟩
                exact ⟨by simp [Ne.symm other, inside], rfl⟩
              · rintro ⟨inside, whole⟩
                obtain ⟨rfl, rfl⟩ := List.cons.inj whole
                exact ⟨⟨fun member => inside (List.mem_cons_of_mem _ member), rfl⟩, rfl⟩
            rw [← readOn]
            cases splitAtBracket? rest with
            | none => simp
            | some found =>
                obtain ⟨start, remaining⟩ := found
                simp only [Option.some.injEq, Prod.mk.injEq, List.cons.injEq]
                tauto

theorem afterOpening?_eq_some_iff {text attributes content : List Char} :
    afterOpening? text = some (attributes, content) ↔
      ∃ tag, IsOpening tag attributes ∧ text = tag ++ content := by
  constructor
  · intro read
    unfold afterOpening? at read
    split at read
    · rename_i rest
      split at read
      · rename_i after dropped
        split at read
        · rename_i wordEnds
          obtain ⟨unclosed, rfl⟩ := splitAtBracket?_eq_some_iff.mp read
          obtain ⟨name, spelled, rfl⟩ := (Text.dropWord?_eq_some_iff rfl).mp dropped
          refine ⟨'<' :: (name ++ (attributes ++ ['>'])), ⟨⟨name, spelled, rfl⟩, ?_, unclosed⟩,
            by simp⟩
          cases attributes with
          | nil => exact wordEnds
          | cons _ _ => exact wordEnds
        · simp at read
      · simp at read
    · simp at read
  · rintro ⟨tag, ⟨⟨name, spelled, rfl⟩, wordEnds, unclosed⟩, rfl⟩
    have dropped : Text.dropWord? "script".toList
        (name ++ (attributes ++ ['>']) ++ content) = some (attributes ++ '>' :: content) :=
      (Text.dropWord?_eq_some_iff rfl).mpr ⟨name, spelled, by simp⟩
    have ends : Text.wordEndsBefore (attributes ++ '>' :: content) = true := by
      cases attributes with
      | nil => exact wordEnds
      | cons _ _ => exact wordEnds
    simp only [List.cons_append, afterOpening?, dropped, ends, if_true]
    exact splitAtBracket?_eq_some_iff.mpr ⟨unclosed, rfl⟩

theorem afterClosing?_eq_some_iff {text after : List Char} :
    afterClosing? text = some after ↔ ∃ tag, IsClosing tag ∧ text = tag ++ after := by
  constructor
  · intro read
    unfold afterClosing? at read
    split at read
    · rename_i rest
      split at read
      · rename_i left dropped
        split at read
        · rename_i remaining trimmed
          obtain rfl := Option.some.inj read
          obtain ⟨name, spelled, rfl⟩ := (Text.dropWord?_eq_some_iff rfl).mp dropped
          obtain ⟨blanks, all, whole⟩ := Text.exists_append_trimStart left
          rw [trimmed] at whole
          exact ⟨_, ⟨name, blanks, spelled, all, rfl⟩, by simp [whole]⟩
        · simp at read
      · simp at read
    · simp at read
  · rintro ⟨tag, ⟨name, blanks, spelled, all, rfl⟩, rfl⟩
    have dropped : Text.dropWord? "script".toList (name ++ (blanks ++ ['>']) ++ after) =
        some (blanks ++ '>' :: after) :=
      (Text.dropWord?_eq_some_iff rfl).mpr ⟨name, spelled, by simp⟩
    have trimmed : Text.trimStart (blanks ++ '>' :: after) = '>' :: after :=
      Text.trimStart_append all (by decide)
    simp only [List.cons_append, afterClosing?, dropped, trimmed]

theorem afterClosing?_eq_none_iff {text : List Char} :
    afterClosing? text = none ↔ ¬Closes text := by
  rw [Option.eq_none_iff_forall_ne_some]
  constructor
  · rintro unread ⟨tag, isClosing, after, rfl⟩
    exact unread after (afterClosing?_eq_some_iff.mpr ⟨tag, isClosing, rfl⟩)
  · intro noTag after read
    obtain ⟨tag, isClosing, rfl⟩ := afterClosing?_eq_some_iff.mp read
    exact noTag ⟨tag, isClosing, after, rfl⟩

/-- A text is split at its first closing tag: none starts earlier. -/
theorem splitAtClosing?_eq_some_iff {text body closing after : List Char} :
    splitAtClosing? text = some (body, closing, after) ↔
      text = body ++ closing ∧ (∃ tag, IsClosing tag ∧ closing = tag ++ after) ∧
        ∀ index < body.length, ¬Closes (text.drop index) := by
  induction text generalizing body with
  | nil =>
      simp only [splitAtClosing?, reduceCtorEq, false_iff]
      rintro ⟨whole, ⟨tag, ⟨name, blanks, -, -, rfl⟩, rfl⟩, -⟩
      simp at whole
  | cons char rest induction =>
      unfold splitAtClosing?
      split
      · rename_i remaining closed
        obtain ⟨tag, isClosing, whole⟩ := afterClosing?_eq_some_iff.mp closed
        simp only [Option.some.injEq, Prod.mk.injEq]
        constructor
        · rintro ⟨rfl, rfl, rfl⟩
          exact ⟨rfl, ⟨tag, isClosing, whole⟩, by simp⟩
        · rintro ⟨split, ⟨other, otherClosing, rfl⟩, noEarlier⟩
          cases body with
          | nil =>
              rw [List.nil_append] at split
              have read := afterClosing?_eq_some_iff.mpr ⟨other, otherClosing, split⟩
              exact ⟨rfl, split, Option.some.inj (closed.symm.trans read)⟩
          -- A longer body would pass over the tag that stands here.
          | cons _ _ => exact absurd ⟨tag, isClosing, remaining, whole.symm⟩ (noEarlier 0 (by simp))
      · rename_i unclosed
        have notHere := afterClosing?_eq_none_iff.mp unclosed
        cases body with
        | nil =>
            have differs : ¬(char :: rest = [] ++ closing ∧
                (∃ tag, IsClosing tag ∧ closing = tag ++ after) ∧
                ∀ index < ([] : List Char).length, ¬Closes ((char :: rest).drop index)) := by
              rintro ⟨whole, ⟨tag, isClosing, rfl⟩, -⟩
              exact notHere ⟨tag, isClosing, after, whole.symm⟩
            simp only [differs, iff_false]
            split
            · simp
            · simp
        | cons first others =>
            have readOn : splitAtClosing? rest = some (others, closing, after) ∧ char = first ↔
                char :: rest = first :: others ++ closing ∧
                  (∃ tag, IsClosing tag ∧ closing = tag ++ after) ∧
                  ∀ index < (first :: others).length, ¬Closes ((char :: rest).drop index) := by
              rw [induction, List.cons_append, List.cons.injEq]
              constructor
              · rintro ⟨⟨whole, tagged, noEarlier⟩, rfl⟩
                refine ⟨⟨rfl, whole⟩, tagged, ?_⟩
                intro index inside
                cases index with
                | zero => exact notHere
                | succ index => exact noEarlier index (by simpa using inside)
              · rintro ⟨⟨rfl, whole⟩, tagged, noEarlier⟩
                refine ⟨⟨whole, tagged, ?_⟩, rfl⟩
                intro index inside
                exact noEarlier (index + 1) (by simpa using inside)
            rw [← readOn]
            cases splitAtClosing? rest with
            | none => simp
            | some found =>
                obtain ⟨start, tagged, remaining⟩ := found
                simp only [Option.some.injEq, Prod.mk.injEq, List.cons.injEq]
                tauto

/-- A text starts with a language attribute whose value starts with a word.  Blanks may
stand around the equals sign and a quote before the value. -/
def NamesLanguage (text : List Char) (word : String) : Prop :=
  ∃ name gap space quote value after,
    text = name ++ (gap ++ '=' :: (space ++ (quote ++ (value ++ after)))) ∧
    Text.Spells "lang".toList name ∧
    (∀ blank ∈ gap, Text.isBlank blank = true) ∧
    (∀ blank ∈ space, Text.isBlank blank = true) ∧
    (quote = [] ∨ quote = ['\x22'] ∨ quote = ['\x27']) ∧
    Text.Spells word.toList value ∧ Text.wordEndsBefore after = true

/-- Attributes with a language attribute of a value that starts with a word.  Its name
starts at a word boundary. -/
def Carries (attributes : List Char) (word : String) : Prop :=
  ∃ before rest, attributes = before ++ rest ∧
    (∀ char ∈ before.getLast?, Text.isWordChar char = false) ∧ NamesLanguage rest word

/-- The grammar that the attributes of a script ask for. -/
inductive AsksFor (attributes : List Char) : Grammar → Prop where
  | tsx (carries : Carries attributes "tsx") : AsksFor attributes .tsx
  | typescript (noTsx : ¬Carries attributes "tsx")
      (carries : Carries attributes "ts" ∨ Carries attributes "typescript") :
      AsksFor attributes .typescript

theorem startsWithWord_eq_true_iff {word : String} {text : List Char}
    (small : word.toList.all Char.isLower = true) :
    startsWithWord word text = true ↔
      ∃ value after, text = value ++ after ∧ Text.Spells word.toList value ∧
        Text.wordEndsBefore after = true := by
  unfold startsWithWord
  constructor
  · intro starts
    split at starts
    · rename_i after dropped
      obtain ⟨value, spelled, rfl⟩ := (Text.dropWord?_eq_some_iff small).mp dropped
      exact ⟨value, after, rfl, spelled, starts⟩
    · simp at starts
  · rintro ⟨value, after, rfl, spelled, ends⟩
    rw [(Text.dropWord?_eq_some_iff small).mpr ⟨value, spelled, rfl⟩]
    exact ends

theorem not_isBlank_of_standsFor_t {char : Char} (same : Text.StandsFor 't' char) :
    Text.isBlank char = false ∧ (char = '\x22' || char = '\x27') = false := by
  cases same with
  | small => decide
  | capital => decide
  | longS isS => exact absurd isS (by decide)
  | dottedI isI => exact absurd isI (by decide)
  | dotlessI isI => exact absurd isI (by decide)

theorem exists_languageValue?_iff {word : String} {letters text : List Char}
    (small : word.toList.all Char.isLower = true)
    (startsWithT : word.toList = 't' :: letters) :
    (∃ value, languageValue? text = some value ∧ startsWithWord word value = true) ↔
      NamesLanguage text word := by
  constructor
  · rintro ⟨read, found, starts⟩
    obtain ⟨value, after, rfl, spelled, ends⟩ := (startsWithWord_eq_true_iff small).mp starts
    unfold languageValue? at found
    split at found
    · simp at found
    · rename_i left dropped
      obtain ⟨name, named, rfl⟩ := (Text.dropWord?_eq_some_iff rfl).mp dropped
      obtain ⟨gap, allGap, gapped⟩ := Text.exists_append_trimStart left
      split at found
      · rename_i rest trimmed
        rw [trimmed] at gapped
        obtain ⟨space, allSpace, spaced⟩ := Text.exists_append_trimStart rest
        split at found
        · rename_i nothing
          rw [nothing, Option.some.inj found] at spaced
          exact ⟨name, gap, space, [], value, after, by rw [gapped, spaced]; rfl, named, allGap,
            allSpace, .inl rfl, spelled, ends⟩
        · rename_i char rest trimmedAgain
          rw [trimmedAgain] at spaced
          split at found
          · rename_i isQuote
            obtain rfl := Option.some.inj found
            refine ⟨name, gap, space, [char], value, after, by rw [gapped, spaced]; rfl, named,
              allGap, allSpace, .inr ?_, spelled, ends⟩
            simpa using isQuote
          · rw [Option.some.inj found] at spaced
            exact ⟨name, gap, space, [], value, after, by rw [gapped, spaced]; rfl, named,
              allGap, allSpace, .inl rfl, spelled, ends⟩
      · simp at found
  · rintro ⟨name, gap, space, quote, value, after, rfl, named, allGap, allSpace, quoted,
      spelled, ends⟩
    have starts := (startsWithWord_eq_true_iff small).mpr ⟨value, after, rfl, spelled, ends⟩
    refine ⟨value ++ after, ?_, starts⟩
    rw [languageValue?, (Text.dropWord?_eq_some_iff rfl).mpr ⟨name, named, rfl⟩]
    simp only [Text.trimStart_append allGap (show Text.isBlank '=' = false by decide)]
    rcases quoted with rfl | rfl | rfl
    · rw [startsWithT] at spelled
      cases spelled with
      | @cons _ first _ others same _ =>
          obtain ⟨visible, noQuote⟩ := not_isBlank_of_standsFor_t same
          rw [List.nil_append, List.cons_append, Text.trimStart_append allSpace visible]
          simp only [noQuote, Bool.false_eq_true, if_false]
    · rw [List.singleton_append, Text.trimStart_append allSpace (by decide)]
      simp
    · rw [List.singleton_append, Text.trimStart_append allSpace (by decide)]
      simp

/-- The search for a language attribute tries every word boundary. -/
theorem hasLanguage_eq_true_iff {words : List String} {afterWord : Bool}
    {attributes : List Char} :
    hasLanguage words afterWord attributes = true ↔
      ∃ before rest, attributes = before ++ rest ∧ (before = [] → afterWord = false) ∧
        (∀ char ∈ before.getLast?, Text.isWordChar char = false) ∧
        ∃ word ∈ words, ∃ value, languageValue? rest = some value ∧
          startsWithWord word value = true := by
  -- Whether a word ends before the attributes changes with each character that is passed.
  induction attributes generalizing afterWord with
  | nil =>
      simp only [hasLanguage, Bool.false_eq_true, false_iff]
      rintro ⟨before, rest, whole, -, -, word, -, value, found, -⟩
      obtain ⟨rfl, rfl⟩ := List.append_eq_nil_iff.mp whole.symm
      simp [languageValue?, Text.dropWord?] at found
  | cons char rest induction =>
      rw [hasLanguage, Bool.or_eq_true, induction, Bool.and_eq_true, Bool.not_eq_true']
      constructor
      · rintro (⟨fresh, here⟩ | ⟨before, later, rfl, atStart, boundary, found⟩)
        · split at here
          · rename_i value found
            obtain ⟨word, member, starts⟩ := List.any_eq_true.mp here
            exact ⟨[], char :: rest, rfl, fun _ => fresh, by simp, word, member, value, found,
              starts⟩
          · simp at here
        · refine ⟨char :: before, later, rfl, by simp, ?_, found⟩
          intro last isLast
          cases before with
          | nil =>
              obtain rfl : char = last := by simpa using isLast
              exact atStart rfl
          | cons first others => exact boundary last (by simpa using isLast)
      · rintro ⟨before, later, whole, atStart, boundary, word, member, value, found, starts⟩
        cases before with
        | nil =>
            rw [List.nil_append] at whole
            subst whole
            refine .inl ⟨atStart rfl, ?_⟩
            rw [found]
            exact List.any_eq_true.mpr ⟨word, member, starts⟩
        | cons first others =>
            obtain ⟨rfl, rfl⟩ := List.cons.inj whole
            refine .inr ⟨others, later, rfl, ?_, ?_, word, member, value, found, starts⟩
            · rintro rfl
              exact boundary char (by simp)
            · intro last isLast
              apply boundary last
              cases others with
              | nil => simp at isLast
              | cons second others => simpa using isLast

theorem hasLanguage_iff_carries {words : List String} {attributes : List Char}
    (small : ∀ word ∈ words, word.toList.all Char.isLower = true)
    (startWithT : ∀ word ∈ words, ∃ letters, word.toList = 't' :: letters) :
    hasLanguage words false attributes = true ↔ ∃ word ∈ words, Carries attributes word := by
  rw [hasLanguage_eq_true_iff]
  constructor
  · rintro ⟨before, rest, whole, -, boundary, word, member, found⟩
    obtain ⟨letters, startsWithT⟩ := startWithT word member
    exact ⟨word, member, before, rest, whole, boundary,
      (exists_languageValue?_iff (small word member) startsWithT).mp found⟩
  · rintro ⟨word, member, before, rest, whole, boundary, names⟩
    obtain ⟨letters, startsWithT⟩ := startWithT word member
    exact ⟨before, rest, whole, fun _ => rfl, boundary, word, member,
      (exists_languageValue?_iff (small word member) startsWithT).mpr names⟩

theorem grammarOf?_eq_some_iff {attributes : List Char} {grammar : Grammar} :
    grammarOf? attributes = some grammar ↔ AsksFor attributes grammar := by
  have tsx : hasLanguage ["tsx"] false attributes = true ↔ Carries attributes "tsx" := by
    rw [hasLanguage_iff_carries (by simp) (by simp)]
    simp
  have typescript : hasLanguage ["ts", "typescript"] false attributes = true ↔
      Carries attributes "ts" ∨ Carries attributes "typescript" := by
    rw [hasLanguage_iff_carries (by simp) (by simp)]
    simp
  unfold grammarOf?
  constructor
  · intro asked
    split at asked
    · rename_i found
      rw [← Option.some.inj asked]
      exact .tsx (tsx.mp found)
    · rename_i noTsx
      split at asked
      · rename_i found
        rw [← Option.some.inj asked]
        exact .typescript (fun carries => noTsx (tsx.mpr carries)) (typescript.mp found)
      · simp at asked
  · intro asked
    cases asked with
    | tsx carries => rw [if_pos (tsx.mpr carries)]
    | typescript noTsx carries =>
        rw [if_neg (fun found => noTsx (tsx.mp found)), if_pos (typescript.mpr carries)]

end Component

end ScriptLint
