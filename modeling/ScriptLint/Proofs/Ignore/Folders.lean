import ScriptLint.Proofs.Ignore
import ScriptLint.Proofs.PathText

/-!
# Verdicts on folders

A path is matched by a pattern if its start can be cut into pieces that the parts of the
pattern take one after the other.  So what matches a path also matches it with a slash
behind it, unless the path ends in a line feed.  Of the patterns that match a path one
decides: the last without a marked folder, or else the last of all.

A folder is asked about under both spellings, and it is ignored if one of them is.  This
differs from the verdict on the spelling with the slash if another pattern decides there.
-/

namespace ScriptLint

/-! ## What parts match -/

namespace IgnorePart

/-- What a part takes from the start of a text, given what is left of it. -/
inductive Takes : IgnorePart → List Char → List Char → Prop
  | anywhere {rest : List Char} : Takes .leading [] rest
  | folders {above rest : List Char} : above ≠ [] → '\n' ∉ above →
      Takes .leading (above ++ ['/']) rest
  | adjacent {rest : List Char} : Takes .inner [] rest
  | between {names rest : List Char} : names ≠ [] → '\n' ∉ names →
      Takes .inner ('/' :: names) rest
  | below {marks : Bool} {rest : List Char} : Takes (.below marks) ['/'] rest
  | atEnd : Takes .final [] []
  | beforeFeed : Takes .final [] ['\n']
  | atFolder {rest : List Char} : Takes .final ['/'] rest
  | char {char : Char} {rest : List Char} : Takes (.char char) [char] rest
  | one {char : Char} {rest : List Char} : char ≠ '/' → Takes .one [char] rest
  | many {chars rest : List Char} : '/' ∉ chars → Takes .many chars rest
  | name {chars rest : List Char} : chars ≠ [] → '/' ∉ chars → Takes .name chars rest
  | set {set : CharSet} {char : Char} {rest : List Char} : set.contains char = true →
      Takes (.set set) [char] rest

/-- Parts take pieces from the start of a text, one after the other. -/
inductive Matches : List IgnorePart → List Char → Prop
  | nil {text : List Char} : Matches [] text
  | cons {part : IgnorePart} {parts : List IgnorePart} {used rest : List Char} :
      part.Takes used rest → Matches parts rest → Matches (part :: parts) (used ++ rest)

/-- A part takes a piece from the start of a text and leaves one with a property. -/
def LeadsTo (part : IgnorePart) (holds : List Char → Prop) (text : List Char) : Prop :=
  ∃ used rest, text = used ++ rest ∧ part.Takes used rest ∧ holds rest

theorem matches_cons_iff {part : IgnorePart} {parts : List IgnorePart} {text : List Char} :
    Matches (part :: parts) text ↔ part.LeadsTo (Matches parts) text := by
  constructor
  · intro found
    cases found with
    | cons taken onward => exact ⟨_, _, rfl, taken, onward⟩
  · rintro ⟨used, rest, rfl, taken, onward⟩
    exact .cons taken onward

end IgnorePart

namespace Outcomes

/-- Outcomes for all ends of a text tell which of them have a property. -/
inductive Tells (holds : List Char → Prop) : List Char → Outcomes → Prop
  | nil {here : Option Bool} : (here.isSome = true ↔ holds []) → Tells holds [] [here]
  | cons {here : Option Bool} {char : Char} {rest : List Char} {later : Outcomes} :
      (here.isSome = true ↔ holds (char :: rest)) → Tells holds rest later →
        Tells holds (char :: rest) (here :: later)

namespace Tells

variable {holds others : List Char → Prop} {text : List Char} {outcomes more : Outcomes}

theorem whole (tells : Tells holds text outcomes) :
    outcomes.whole.isSome = true ↔ holds text := by
  cases tells with
  | nil here => exact here
  | cons here _ => exact here

theorem congr (tells : Tells holds text outcomes) (same : ∀ text, holds text ↔ others text) :
    Tells others text outcomes := by
  induction tells with
  | nil here => exact .nil (here.trans (same _))
  | cons here _ induction => exact .cons (here.trans (same _)) induction

theorem afterOne (tells : Tells holds text outcomes) (accepts : Char → Bool) :
    Tells (fun text => ∃ char rest, text = char :: rest ∧ accepts char = true ∧ holds rest)
      text (Outcomes.afterOne accepts text outcomes) := by
  induction tells with
  | nil => exact .nil (by simp)
  | @cons here char rest later _ onward induction =>
      refine .cons ?_ induction
      have next := onward.whole
      by_cases accepted : accepts char = true
      · simp [accepted, next]
      · simp [accepted]

theorem afterRun (tells : Tells holds text outcomes) (accepts : Char → Bool) :
    Tells (fun text => ∃ used rest, text = used ++ rest ∧
        (∀ char ∈ used, accepts char = true) ∧ holds rest)
      text (Outcomes.afterRun accepts text outcomes) := by
  induction tells with
  | nil here => exact .nil (by simp [here])
  | @cons here char rest later atHere onward induction =>
      refine .cons ?_ induction
      simp only [Option.orElse_eq_orElse, Option.orElse_eq_or, Option.isSome_or, Bool.or_eq_true,
        atHere]
      have next := induction.whole
      constructor
      · rintro (run | now)
        · have accepted : accepts char = true := by
            by_contra refused
            simp [refused] at run
          rw [if_pos accepted] at run
          obtain ⟨used, left, rfl, all, held⟩ := next.mp run
          exact ⟨char :: used, left, rfl, List.forall_mem_cons.mpr ⟨accepted, all⟩, held⟩
        · exact ⟨[], _, rfl, by simp, now⟩
      · rintro ⟨used, left, whole, all, held⟩
        cases used with
        | nil => exact Or.inr (by rwa [whole])
        | cons first used =>
            obtain ⟨rfl, rfl⟩ := List.cons.inj whole
            obtain ⟨accepted, others⟩ := List.forall_mem_cons.mp all
            refine Or.inl ?_
            rw [if_pos accepted]
            exact next.mpr ⟨used, left, rfl, others, held⟩

theorem afterSome (tells : Tells holds text outcomes) (accepts : Char → Bool) :
    Tells (fun text => ∃ used rest, text = used ++ rest ∧ used ≠ [] ∧
        (∀ char ∈ used, accepts char = true) ∧ holds rest)
      text (Outcomes.afterSome accepts text outcomes) := by
  refine ((tells.afterRun accepts).afterOne accepts).congr ?_
  intro text
  constructor
  · rintro ⟨char, _, rfl, accepted, used, rest, rfl, all, held⟩
    exact ⟨char :: used, rest, rfl, List.cons_ne_nil _ _,
      List.forall_mem_cons.mpr ⟨accepted, all⟩, held⟩
  · rintro ⟨used, rest, rfl, nonempty, all, held⟩
    cases used with
    | nil => exact absurd rfl nonempty
    | cons char used =>
        obtain ⟨accepted, others⟩ := List.forall_mem_cons.mp all
        exact ⟨char, _, rfl, accepted, used, rest, rfl, others, held⟩

theorem orElse (tells : Tells holds text outcomes) (tellsMore : Tells others text more) :
    Tells (fun text => holds text ∨ others text) text (outcomes.orElse more) := by
  induction tells generalizing more with
  | nil here =>
      cases tellsMore with
      | nil otherHere => exact .nil (by simp [here, otherHere])
  | cons here _ induction =>
      cases tellsMore with
      | cons otherHere onward =>
          exact .cons (by simp [here, otherHere]) (induction onward)

theorem marking (tells : Tells holds text outcomes) (marks : Bool) :
    Tells holds text (outcomes.marking marks) := by
  induction tells with
  | nil here => exact .nil (by simpa using here)
  | cons here _ induction => exact .cons (by simpa using here) induction

theorem atEnd (tells : Tells holds text outcomes) :
    Tells (fun text => (text = [] ∨ text = ['\n']) ∧ holds text) text
      (Outcomes.atEnd text outcomes) := by
  induction tells with
  | nil here => exact .nil (by simpa using here)
  | @cons here char rest later atHere _ induction =>
      refine .cons ?_ induction
      by_cases lastFeed : char = '\n' ∧ rest = []
      · obtain ⟨rfl, rfl⟩ := lastFeed
        simpa using atHere
      · simp [lastFeed]

end Tells

end Outcomes

namespace IgnorePart

variable {parts : List IgnorePart} {text : List Char}

private theorem forall_mem_ne_iff {avoided : Char} {chars : List Char} :
    (∀ char ∈ chars, decide (char ≠ avoided) = true) ↔ avoided ∉ chars := by
  simp only [decide_eq_true_eq]
  exact ⟨fun others member => others avoided member rfl,
    fun absent char member same => absent (same ▸ member)⟩

section Before

variable {holds : List Char → Prop} {later : Outcomes} {part : IgnorePart}

theorem tells_afterOne {accepts : Char → Bool} (tells : later.Tells holds text)
    (takes : ∀ used rest, part.Takes used rest ↔ ∃ char, accepts char = true ∧ used = [char]) :
    (Outcomes.afterOne accepts text later).Tells (part.LeadsTo holds) text := by
  refine (tells.afterOne accepts).congr ?_
  intro text
  constructor
  · rintro ⟨char, rest, rfl, accepted, held⟩
    exact ⟨[char], rest, rfl, (takes _ _).mpr ⟨char, accepted, rfl⟩, held⟩
  · rintro ⟨used, rest, rfl, taken, held⟩
    obtain ⟨char, accepted, rfl⟩ := (takes used rest).mp taken
    exact ⟨char, rest, rfl, accepted, held⟩

theorem tells_leading (tells : later.Tells holds text) :
    (before text later .leading).Tells (LeadsTo .leading holds) text := by
  refine (((tells.afterOne _).afterSome _).orElse tells).congr ?_
  intro text
  constructor
  · rintro (⟨above, _, rfl, nonempty, inLine, slash, rest, rfl, isSlash, held⟩ | held)
    · obtain rfl : slash = '/' := by simpa using isSlash
      exact ⟨above ++ ['/'], rest, by simp, .folders nonempty (forall_mem_ne_iff.mp inLine), held⟩
    · exact ⟨[], text, rfl, .anywhere, held⟩
  · rintro ⟨used, rest, rfl, taken, held⟩
    cases taken with
    | anywhere => exact Or.inr held
    | @folders above _ nonempty inLine =>
        exact Or.inl ⟨above, '/' :: rest, by simp, nonempty, forall_mem_ne_iff.mpr inLine,
          '/', rest, rfl, by simp, held⟩

theorem tells_inner (tells : later.Tells holds text) :
    (before text later .inner).Tells (LeadsTo .inner holds) text := by
  refine (((tells.afterSome _).afterOne _).orElse tells).congr ?_
  intro text
  constructor
  · rintro (⟨slash, _, rfl, isSlash, names, rest, rfl, nonempty, inLine, held⟩ | held)
    · obtain rfl : slash = '/' := by simpa using isSlash
      exact ⟨'/' :: names, rest, rfl, .between nonempty (forall_mem_ne_iff.mp inLine), held⟩
    · exact ⟨[], text, rfl, .adjacent, held⟩
  · rintro ⟨used, rest, rfl, taken, held⟩
    cases taken with
    | adjacent => exact Or.inr held
    | @between names _ nonempty inLine =>
        exact Or.inl ⟨'/', names ++ rest, rfl, by simp, names, rest, rfl, nonempty,
          forall_mem_ne_iff.mpr inLine, held⟩

theorem tells_final (tells : later.Tells holds text) :
    (before text later .final).Tells (LeadsTo .final holds) text := by
  refine (tells.atEnd.orElse ((tells.afterOne _).marking true)).congr ?_
  intro text
  constructor
  · rintro (⟨rfl | rfl, held⟩ | ⟨slash, rest, rfl, isSlash, held⟩)
    · exact ⟨[], [], rfl, .atEnd, held⟩
    · exact ⟨[], ['\n'], rfl, .beforeFeed, held⟩
    · obtain rfl : slash = '/' := by simpa using isSlash
      exact ⟨['/'], rest, rfl, .atFolder, held⟩
  · rintro ⟨used, rest, rfl, taken, held⟩
    cases taken with
    | atEnd => exact Or.inl ⟨Or.inl rfl, held⟩
    | beforeFeed => exact Or.inl ⟨Or.inr rfl, held⟩
    | atFolder => exact Or.inr ⟨'/', rest, rfl, by simp, held⟩

theorem tells_many (tells : later.Tells holds text) :
    (before text later .many).Tells (LeadsTo .many holds) text := by
  refine (tells.afterRun _).congr ?_
  intro text
  constructor
  · rintro ⟨used, rest, rfl, inside, held⟩
    exact ⟨used, rest, rfl, .many (forall_mem_ne_iff.mp inside), held⟩
  · rintro ⟨used, rest, rfl, taken, held⟩
    cases taken with
    | many inside => exact ⟨used, rest, rfl, forall_mem_ne_iff.mpr inside, held⟩

theorem tells_name (tells : later.Tells holds text) :
    (before text later .name).Tells (LeadsTo .name holds) text := by
  refine (tells.afterSome _).congr ?_
  intro text
  constructor
  · rintro ⟨used, rest, rfl, nonempty, inside, held⟩
    exact ⟨used, rest, rfl, .name nonempty (forall_mem_ne_iff.mp inside), held⟩
  · rintro ⟨used, rest, rfl, taken, held⟩
    cases taken with
    | name nonempty inside =>
        exact ⟨used, rest, rfl, nonempty, forall_mem_ne_iff.mpr inside, held⟩

theorem takes_below_iff {marks : Bool} {used rest : List Char} :
    Takes (.below marks) used rest ↔ ∃ char, decide (char = '/') = true ∧ used = [char] := by
  constructor
  · rintro ⟨⟩
    exact ⟨'/', by simp, rfl⟩
  · rintro ⟨char, isSlash, rfl⟩
    obtain rfl : char = '/' := by simpa using isSlash
    exact .below

theorem takes_char_iff {expected : Char} {used rest : List Char} :
    Takes (.char expected) used rest ↔
      ∃ char, decide (char = expected) = true ∧ used = [char] := by
  constructor
  · rintro ⟨⟩
    exact ⟨expected, by simp, rfl⟩
  · rintro ⟨char, same, rfl⟩
    obtain rfl : char = expected := by simpa using same
    exact .char

theorem takes_one_iff {used rest : List Char} :
    Takes .one used rest ↔ ∃ char, decide (char ≠ '/') = true ∧ used = [char] := by
  constructor
  · intro taken
    cases taken with
    | one inside => exact ⟨_, by simpa using inside, rfl⟩
  · rintro ⟨char, inside, rfl⟩
    exact .one (by simpa using inside)

theorem takes_set_iff {chars : CharSet} {used rest : List Char} :
    Takes (.set chars) used rest ↔ ∃ char, chars.contains char = true ∧ used = [char] := by
  constructor
  · intro taken
    cases taken with
    | set held => exact ⟨_, held, rfl⟩
  · rintro ⟨char, held, rfl⟩
    exact .set held

theorem tells_before (tells : later.Tells holds text) (part : IgnorePart) :
    (part.before text later).Tells (part.LeadsTo holds) text := by
  cases part with
  | leading => exact tells_leading tells
  | inner => exact tells_inner tells
  | below marks => exact (tells_afterOne tells fun _ _ => takes_below_iff).marking marks
  | final => exact tells_final tells
  | char expected => exact tells_afterOne tells fun _ _ => takes_char_iff
  | one => exact tells_afterOne tells fun _ _ => takes_one_iff
  | many => exact tells_many tells
  | name => exact tells_name tells
  | set chars => exact tells_afterOne tells fun _ _ => takes_set_iff

end Before

theorem tells_outcomes (parts : List IgnorePart) (text : List Char) :
    (outcomes text parts).Tells (Matches parts) text := by
  induction parts with
  | nil =>
      induction text with
      | nil => exact .nil (by simp [Matches.nil])
      | cons char rest induction => exact .cons (by simp [Matches.nil]) induction
  | cons part parts induction =>
      exact (tells_before induction part).congr fun _ => matches_cons_iff.symm

theorem isSome_match?_iff : (match? parts text).isSome = true ↔ Matches parts text :=
  (tells_outcomes parts text).whole

/-- What parts match they also match with a slash behind it, as the end of a text may as well
be that of a folder's name. -/
theorem Matches.slash (found : Matches parts text) (noFeed : text.getLast? ≠ some '\n') :
    Matches parts (text ++ ['/']) := by
  induction found with
  | nil => exact .nil
  | @cons part parts used rest taken onward induction =>
      have restNoFeed : rest.getLast? ≠ some '\n' := by
        intro feed
        rw [List.getLast?_append, feed] at noFeed
        exact noFeed rfl
      have later := induction restNoFeed
      rw [List.append_assoc]
      cases taken with
      | atEnd => exact matches_cons_iff.mpr ⟨['/'], [], rfl, .atFolder, onward⟩
      | beforeFeed => exact absurd rfl restNoFeed
      | anywhere => exact .cons .anywhere later
      | folders nonempty inLine => exact .cons (.folders nonempty inLine) later
      | adjacent => exact .cons .adjacent later
      | between nonempty inLine => exact .cons (.between nonempty inLine) later
      | below => exact .cons .below later
      | atFolder => exact .cons .atFolder later
      | char => exact .cons .char later
      | one inside => exact .cons (.one inside) later
      | many inside => exact .cons (.many inside) later
      | name nonempty inside => exact .cons (.name nonempty inside) later
      | set held => exact .cons (.set held) later

end IgnorePart

theorem IgnoreShape.isSome_match?_slash {shape : IgnoreShape} {path : List Char}
    (found : (shape.match? path).isSome = true) (noFeed : path.getLast? ≠ some '\n') :
    (shape.match? (path ++ ['/'])).isSome = true := by
  cases shape with
  | everything => simp [match?]
  | nested marks => simp [match?]
  | parts list =>
      exact IgnorePart.isSome_match?_iff.mpr
        ((IgnorePart.isSome_match?_iff.mp found).slash noFeed)

/-! ## The pattern that decides -/

namespace IgnorePattern

/-- The pattern that decides about a path: the last that matches it without a marked folder,
or else the last that matches it. -/
def decider? (patterns : List IgnorePattern) (path : List Char) : Option IgnorePattern :=
  (patterns.reverse.find? fun pattern => pattern.shape.match? path = some false).or
    (patterns.reverse.find? fun pattern => (pattern.shape.match? path).isSome)

variable {patterns : List IgnorePattern} {path : List Char}

theorem decideFrom_eq (best : Option Bool) :
    decideFrom path best patterns =
      ((patterns.find? fun pattern => pattern.shape.match? path = some false).map
        (!·.negated)).or (best.or
          ((patterns.find? fun pattern => (pattern.shape.match? path).isSome).map
            (!·.negated))) := by
  induction patterns generalizing best with
  | nil => simp [decideFrom]
  | cons pattern rest induction =>
      rw [decideFrom, List.find?_cons, List.find?_cons]
      cases found : pattern.shape.match? path with
      | none => simpa [found] using induction best
      | some marks =>
          cases marks with
          | false => simp
          | true => simp [induction]

theorem verdict_eq_any_decider? (patterns : List IgnorePattern) (path : List Char) :
    verdict patterns path = (decider? patterns (dropRoot path)).any (!·.negated) := by
  rw [verdict, decideFrom_eq, Option.none_or, decider?, ← Option.map_or]
  cases (patterns.reverse.find? _).or _ with
  | none => rfl
  | some pattern => rfl

theorem isSome_decider?_iff :
    (decider? patterns path).isSome = true ↔
      ∃ pattern ∈ patterns, (pattern.shape.match? path).isSome = true := by
  simp only [decider?, Option.isSome_or, Bool.or_eq_true, List.find?_isSome, List.mem_reverse,
    decide_eq_true_eq]
  constructor
  · rintro (⟨pattern, member, found⟩ | found)
    · exact ⟨pattern, member, by simp [found]⟩
    · exact found
  · exact Or.inr

theorem mem_of_decider? {pattern : IgnorePattern}
    (decided : decider? patterns path = some pattern) : pattern ∈ patterns := by
  rcases Option.or_eq_some_iff.mp decided with found | ⟨-, found⟩
  · exact List.mem_reverse.mp (List.mem_of_find?_eq_some found)
  · exact List.mem_reverse.mp (List.mem_of_find?_eq_some found)

theorem isSome_decider?_slash (decided : (decider? patterns path).isSome = true)
    (noFeed : path.getLast? ≠ some '\n') :
    (decider? patterns (path ++ ['/'])).isSome = true := by
  obtain ⟨pattern, member, found⟩ := isSome_decider?_iff.mp decided
  exact isSome_decider?_iff.mpr
    ⟨pattern, member, IgnoreShape.isSome_match?_slash found noFeed⟩

theorem dropRoot_append {name : String} (proper : Path.isName name = true) (rest : List Char) :
    dropRoot (name.toList ++ rest) = name.toList ++ rest := by
  obtain ⟨nonempty, noDot, slashFree⟩ := Path.isName_eq_true_iff.mp proper
  cases spelled : name.toList with
  | nil => exact absurd (String.toList_eq_nil_iff.mp spelled) nonempty
  | cons first others =>
      rw [spelled] at slashFree
      unfold dropRoot
      split
      · rename_i root
        simp_all
      · rename_i root
        -- The first name is no dot, so what follows a dot is not the slash after it.
        cases others with
        | nil =>
            obtain ⟨rfl, -⟩ := List.cons.inj root
            exact absurd (String.toList_inj.mp (by rw [spelled]; rfl)) noDot
        | cons second others => simp_all
      · rfl

end IgnorePattern

/-! ## Folders -/

namespace IgnoreRules

variable {names : List String}

theorem namesText_cons (first : String) (rest : List String) :
    namesText (first :: rest) = first.toList ++ rest.flatMap fun name => '/' :: name.toList := by
  rw [namesText, if_neg (by simp), String.toList_intercalate]
  induction rest generalizing first with
  | nil => simp
  | cons second rest induction =>
      have later := induction second
      simpa using later

theorem trimSlashes_eq_self {text : List Char} (first : text.head? ≠ some '/')
    (last : text.getLast? ≠ some '/') : trimSlashes text = text := by
  have kept {text : List Char} (first : text.head? ≠ some '/') :
      text.dropWhile (· = '/') = text := by
    cases text with
    | nil => rfl
    | cons char rest => exact List.dropWhile_cons_of_neg (by simpa using first)
  rw [trimSlashes, kept first, kept (by rwa [List.head?_reverse]), List.reverse_reverse]

theorem trimSlashes_namesText (nonempty : names ≠ [])
    (proper : ∀ name ∈ names, Path.isName name = true) :
    trimSlashes (namesText names) = namesText names := by
  have inside (name : String) (member : name ∈ names) :
      name.toList ≠ [] ∧ '/' ∉ name.toList := by
    obtain ⟨spelled, -, slashFree⟩ := Path.isName_eq_true_iff.mp (proper name member)
    exact ⟨fun empty => spelled (String.toList_eq_nil_iff.mp empty), slashFree⟩
  apply trimSlashes_eq_self
  · obtain ⟨first, rest, rfl⟩ := List.exists_cons_of_ne_nil nonempty
    obtain ⟨spelled, slashFree⟩ := inside first List.mem_cons_self
    rw [namesText_cons, List.head?_append_of_ne_nil _ spelled]
    exact fun slash => slashFree (List.mem_of_head? slash)
  · obtain ⟨first, rest, rfl⟩ := List.exists_cons_of_ne_nil nonempty
    rw [namesText_cons]
    rcases rest.eq_nil_or_concat with rfl | ⟨before, last, rfl⟩
    · rw [List.flatMap_nil, List.append_nil]
      exact fun slash => (inside first List.mem_cons_self).2 (List.mem_of_getLast? slash)
    · obtain ⟨spelled, slashFree⟩ := inside last (by simp)
      rw [List.concat_eq_append, List.flatMap_append, List.flatMap_singleton, List.append_cons,
        ← List.append_assoc, List.getLast?_append_of_ne_nil _ spelled]
      exact fun slash => slashFree (List.mem_of_getLast? slash)

/-- The verdict on a path with proper names is that of the pattern that decides about it,
with a slash behind it or without one. -/
theorem verdict_namesText (rules : IgnoreRules) (nonempty : names ≠ [])
    (proper : ∀ name ∈ names, Path.isName name = true) (rest : List Char) :
    rules.verdict (namesText names ++ rest) =
      (IgnorePattern.decider? rules.patterns (namesText names ++ rest)).any (!·.negated) := by
  obtain ⟨first, others, rfl⟩ := List.exists_cons_of_ne_nil nonempty
  rw [verdict, IgnorePattern.verdict_eq_any_decider?, namesText_cons, List.append_assoc,
    IgnorePattern.dropRoot_append (proper first List.mem_cons_self)]

/-- Asked about a folder, patterns are asked about both of its spellings. -/
theorem accepts_folder (rules : IgnoreRules) (nonempty : names ≠ [])
    (proper : ∀ name ∈ names, Path.isName name = true) :
    rules.accepts (namesText names) true =
      (rules.verdict (namesText names) || rules.verdict (namesText names ++ ['/'])) := by
  have spelled : (namesText names).isEmpty = false := by
    obtain ⟨first, others, rfl⟩ := List.exists_cons_of_ne_nil nonempty
    obtain ⟨named, -, -⟩ := Path.isName_eq_true_iff.mp (proper first List.mem_cons_self)
    simp [namesText_cons, named]
  simp [accepts, holdsFor, trimSlashes_namesText nonempty proper, spelled]

/-- A folder is judged differently from its spelling with a slash exactly if an ordinary
pattern decides about its name while none does about the spelling with a slash.  Unless the
name ends in a line feed, a negation decides there. -/
theorem accepts_folder_ne_verdict_iff (rules : IgnoreRules) (nonempty : names ≠ [])
    (proper : ∀ name ∈ names, Path.isName name = true) :
    (rules.verdict (namesText names ++ ['/']) =
      (IgnorePattern.decider? rules.patterns (namesText names ++ ['/'])).any (!·.negated)) ∧
    (rules.accepts (namesText names) true ≠ rules.verdict (namesText names ++ ['/']) ↔
      ∃ ordinary, IgnorePattern.decider? rules.patterns (namesText names) = some ordinary ∧
        ordinary.negated = false ∧
        ∀ pattern, IgnorePattern.decider? rules.patterns (namesText names ++ ['/']) =
          some pattern → pattern.negated = true) ∧
    ((namesText names).getLast? ≠ some '\n' →
      rules.accepts (namesText names) true ≠ rules.verdict (namesText names ++ ['/']) →
        ∃ negation ∈ rules.patterns, negation.negated = true ∧
          IgnorePattern.decider? rules.patterns (namesText names ++ ['/']) =
            some negation) := by
  have onName := rules.verdict_namesText nonempty proper []
  rw [List.append_nil] at onName
  have onFolder := rules.verdict_namesText nonempty proper ['/']
  have differs : rules.accepts (namesText names) true ≠
      rules.verdict (namesText names ++ ['/']) ↔
        ∃ ordinary, IgnorePattern.decider? rules.patterns (namesText names) = some ordinary ∧
          ordinary.negated = false ∧
          ∀ pattern, IgnorePattern.decider? rules.patterns (namesText names ++ ['/']) =
            some pattern → pattern.negated = true := by
    rw [accepts_folder rules nonempty proper, onName, onFolder]
    cases IgnorePattern.decider? rules.patterns (namesText names) with
    | none => simp
    | some ordinary =>
        cases IgnorePattern.decider? rules.patterns (namesText names ++ ['/']) with
        | none => simp
        | some pattern => simp
  refine ⟨onFolder, differs, ?_⟩
  intro noFeed different
  obtain ⟨ordinary, decided, -, negations⟩ := differs.mp different
  obtain ⟨negation, decidedFolder⟩ := Option.isSome_iff_exists.mp
    (IgnorePattern.isSome_decider?_slash (Option.isSome_of_eq_some decided) noFeed)
  exact ⟨negation, IgnorePattern.mem_of_decider? decidedFolder, negations negation decidedFolder,
    decidedFolder⟩

/-- The rules of an ignore file with the lines `b` and `!b/`. -/
def reincluding : IgnoreRules :=
  ⟨⟨"/", ["tmp", "lintsync"]⟩, [.packages, ⟨false, .parts [.leading, .char 'b', .final]⟩,
    ⟨true, .parts [.leading, .char 'b', .below true]⟩]⟩

theorem accepts_folder_ne_verdict_iff_reincluding :
    (∀ name ∈ ["a", "b"], Path.isName name = true) ∧
      reincluding.accepts (namesText ["a", "b"]) true ≠
        reincluding.verdict (namesText ["a", "b"] ++ ['/']) ∧
      ∃ negation ∈ reincluding.patterns, negation.negated = true ∧
        IgnorePattern.decider? reincluding.patterns (namesText ["a", "b"] ++ ['/']) =
          some negation := by
  have proper : ∀ name ∈ ["a", "b"], Path.isName name = true := by decide
  obtain ⟨-, differs, negated⟩ :=
    accepts_folder_ne_verdict_iff reincluding (List.cons_ne_nil "a" ["b"]) proper
  have decided : IgnorePattern.decider? reincluding.patterns (namesText ["a", "b"]) =
      some ⟨false, .parts [.leading, .char 'b', .final]⟩ := by decide +kernel
  have decidedFolder : IgnorePattern.decider? reincluding.patterns
      (namesText ["a", "b"] ++ ['/']) =
        some ⟨true, .parts [.leading, .char 'b', .below true]⟩ := by decide +kernel
  have different := differs.mpr ⟨_, decided, rfl, fun pattern found => by
    rw [decidedFolder] at found
    obtain rfl := Option.some.inj found
    rfl⟩
  exact ⟨proper, different, negated (by decide +kernel) different⟩

/-- A folder that one line has ignored stays ignored, although a later line for folders takes
it back. -/
theorem accepts_reincluded_folder :
    ofText ⟨"/", ["tmp", "lintsync"]⟩ (some "b\n!b/\n".toList) = .ok reincluding ∧
      reincluding.accepts ['b'] true = true ∧ reincluding.verdict ['b', '/'] = false := by
  refine ⟨?_, ?_, ?_⟩
  · decide +kernel
  · decide +kernel
  · decide +kernel

end IgnoreRules

end ScriptLint
