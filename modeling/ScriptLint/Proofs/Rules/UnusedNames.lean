import Mathlib.Data.List.Flatten
import ScriptLint.Proofs.Engine.Reports
import ScriptLint.Proofs.Rules.Located
import ScriptLint.Proofs.Rules.NameBindings

/-!
# Names that are never read

An identifier reads a name if it is no binding and is not only written to.  The rule reports
a name of the file exactly if nothing in the file reads it.
-/

namespace ScriptLint.UnusedNames

/-- A place is only written to: it stands on the left of an assignment, or it is the operand
of an update that is a statement of its own. -/
inductive IsOnlyWritten (place : Place) : Prop where
  | assigned {parent : Place} (below : place.parent? = some parent)
      (isAssignment : parent.kind = "assignment_expression")
      (isLeft : parent.field? "left" = some place) : IsOnlyWritten place
  | updated {parent statement : Place} {field : String} (below : place.parent? = some parent)
      (isUpdate : (parent.kind, field) ∈
        [("augmented_assignment_expression", "left"), ("update_expression", "argument")])
      (isOperand : parent.field? field = some place)
      (inStatement : parent.parent? = some statement)
      (dropped : statement.kind = "expression_statement") : IsOnlyWritten place

/-- An identifier that is read: it is no binding and not only written to. -/
structure IsReader (source : Source) (place : Place) : Prop where
  isIdentifier : place.kind ∈ ["identifier", "shorthand_property_identifier", "type_identifier"]
  free : ∀ owner ∈ source.walk, ∀ name, Introduces owner name →
    name.node.range ≠ place.node.range
  used : ¬IsOnlyWritten place

/-- Somewhere at or below a place an identifier with the text of a name is read. -/
def Reads (source : Source) (region name : Place) : Prop :=
  ∃ reader ∈ region.walk, IsReader source reader ∧
    source.nodeText reader.node = source.nodeText name.node

/-- The name is the identifier on the left of some assignment. -/
def IsAssigned (source : Source) (name : Place) : Prop :=
  ∃ assignment ∈ source.walk, assignment.kind = "assignment_expression" ∧
    ∃ target, assignment.node.field? "left" = some target ∧ target.kind = "identifier" ∧
      source.nodeText target = source.nodeText name.node

theorem placed_rootPlace (source : Source) : source.rootPlace.Placed := by
  intro parent below
  simp [Source.rootPlace, Place.ofRoot, Place.parent?] at below

theorem isTarget_eq_true_iff {place parent : Place} {field : String}
    (isChild : place ∈ parent.children) :
    isTarget place parent field = true ↔ parent.field? field = some place := by
  unfold isTarget
  cases found : parent.field? field with
  | none => simp
  | some target =>
      simp only [Place.same, decide_eq_true_eq, Option.some.injEq]
      constructor
      · exact Place.eq_of_address_eq (Place.mem_children_of_field? found) isChild
      · rintro rfl
        rfl

theorem parentIn_singleton_iff {place : Place} {kind : String} :
    place.parentIn [kind] = true ↔
      ∃ parent, place.parent? = some parent ∧ parent.kind = kind := by
  unfold Place.parentIn
  cases place.parent? with
  | none => simp
  | some parent => simp

theorem isWriteOnly_eq_true_iff {place : Place} (placed : place.Placed) :
    isWriteOnly place = true ↔ IsOnlyWritten place := by
  constructor
  · unfold isWriteOnly
    split
    · simp
    · rename_i parent below
      have isChild := placed parent below
      split
      · rename_i isAssignment
        intro isLeft
        exact .assigned below isAssignment ((isTarget_eq_true_iff isChild).mp isLeft)
      split
      · rename_i isUpdate
        rw [Bool.and_eq_true, isTarget_eq_true_iff isChild, parentIn_singleton_iff]
        rintro ⟨isOperand, statement, inStatement, dropped⟩
        exact .updated below (by simp [isUpdate]) isOperand inStatement dropped
      split
      · rename_i isUpdate
        rw [Bool.and_eq_true, isTarget_eq_true_iff isChild, parentIn_singleton_iff]
        rintro ⟨isOperand, statement, inStatement, dropped⟩
        exact .updated below (by simp [isUpdate]) isOperand inStatement dropped
      · simp
  · intro isTarget
    cases isTarget with
    | assigned below isAssignment isLeft =>
        rw [isWriteOnly, below]
        simp only [isAssignment, if_true]
        exact (isTarget_eq_true_iff (placed _ below)).mpr isLeft
    | updated below isUpdate isOperand inStatement dropped =>
        have operand := (isTarget_eq_true_iff (placed _ below)).mpr isOperand
        have alone := parentIn_singleton_iff.mpr ⟨_, inStatement, dropped⟩
        simp only [List.mem_cons, Prod.mk.injEq, List.not_mem_nil, or_false] at isUpdate
        rcases isUpdate with ⟨kind, rfl⟩ | ⟨kind, rfl⟩
        · simp [isWriteOnly, below, kind, operand, alone]
        · simp [isWriteOnly, below, kind, operand, alone]

theorem isRead_eq_true_iff {source : Source} {place : Place} (placed : place.Placed) :
    isRead (bindingRanges source.walk) place = true ↔ IsReader source place := by
  have isFree : (!(bindingRanges source.walk).contains place.node.range) = true ↔
      ∀ owner ∈ source.walk, ∀ name, Introduces owner name →
        name.node.range ≠ place.node.range := by
    rw [Bool.not_eq_true', ← Bool.not_eq_true, List.contains_iff_mem, mem_bindingRanges_iff]
    constructor
    · intro free owner visited name introduces same
      exact free ⟨owner, visited, name, introduces, same⟩
    · rintro free ⟨owner, visited, name, introduces, same⟩
      exact free owner visited name introduces same
  have isUsed : (!isWriteOnly place) = true ↔ ¬IsOnlyWritten place := by
    rw [Bool.not_eq_true', ← Bool.not_eq_true, isWriteOnly_eq_true_iff placed]
  rw [isRead, Bool.and_eq_true, Bool.and_eq_true, List.contains_iff_mem, isFree, isUsed]
  constructor
  · rintro ⟨⟨isIdentifier, free⟩, used⟩
    exact ⟨isIdentifier, free, used⟩
  · rintro ⟨isIdentifier, free, used⟩
    exact ⟨⟨isIdentifier, free⟩, used⟩

theorem mem_readNames_iff {source : Source} {region name : Place} (placed : region.Placed) :
    source.nodeText name.node ∈ readNames source (bindingRanges source.walk) region.walk ↔
      Reads source region name := by
  simp only [readNames, List.mem_map, List.mem_filter]
  constructor
  · rintro ⟨reader, ⟨within, reads⟩, same⟩
    have readerPlaced := Place.placed_of_reaches placed (Place.mem_walk_iff.mp within)
    exact ⟨reader, within, (isRead_eq_true_iff readerPlaced).mp reads, same⟩
  · rintro ⟨reader, within, reads, same⟩
    have readerPlaced := Place.placed_of_reaches placed (Place.mem_walk_iff.mp within)
    exact ⟨reader, ⟨within, (isRead_eq_true_iff readerPlaced).mpr reads⟩, same⟩

theorem mem_assignedNames_iff {source : Source} {name : Place} :
    source.nodeText name.node ∈ assignedNames source source.walk ↔ IsAssigned source name := by
  rw [assignedNames, List.mem_filterMap]
  refine exists_congr fun assignment => and_congr_right fun _ => ?_
  by_cases isAssignment : assignment.kind = "assignment_expression"
  · simp only [isAssignment, if_true, true_and]
    cases assignment.node.field? "left" with
    | none => simp
    | some target => simp
  · simp [isAssignment]

/-- What is said about an unused name that was given a value. -/
def assignedText (source : Source) (name : Place) : String :=
  "'" ++ source.nodeText name.node ++ "' is assigned a value but never used."

/-- What is said about an unused name that was never given a value. -/
def definedText (source : Source) (name : Place) : String :=
  "'" ++ source.nodeText name.node ++ "' is defined but never used."

/-- The unused names of the file, each with what is said about it. -/
def declarationReports (source : Source) : List (Place × String) :=
  ((declarations source.walk).filter fun declaration =>
      !(readNames source (bindingRanges source.walk) source.walk).contains
        (source.nodeText declaration.name.node)).map
    fun declaration =>
      (declaration.name,
        if declaration.hasValue ||
            (assignedNames source source.walk).contains (source.nodeText declaration.name.node)
        then assignedText source declaration.name
        else definedText source declaration.name)

def bodyReads (source : Source) (function : Place) : List String :=
  match function.field? "body" with
  | some body => readNames source (bindingRanges source.walk) body.walk
  | none => []

def unusedOf (source : Source) (function : Place) : List Place :=
  let isUsed (name : Place) : Bool :=
    (bodyReads source function).contains (source.nodeText name.node)
  let groups := function.parameterGroups.filter (!·.any isMember)
  (afterLastUsed (·.any isUsed) groups).flatten.filter fun name =>
    source.nodeText name.node ≠ "this" && !isUsed name

theorem unusedOf_sublist (source : Source) (function : Place) :
    (unusedOf source function).Sublist function.parameterGroups.flatten := by
  have trailing : ∀ (used : List Place → Bool) (groups : List (List Place)),
      (afterLastUsed used groups).Sublist groups := by
    intro used groups
    have fromEnd := (List.takeWhile_sublist (!used ·) (l := groups.reverse)).reverse
    rwa [List.reverse_reverse] at fromEnd
  exact List.filter_sublist.trans ((trailing _ _).trans List.filter_sublist).flatten

/-- The unused parameters of all functions, each with what is said about it. -/
def parameterReports (source : Source) : List (Place × String) :=
  (source.walk.filter (·.node.isFunction)).flatMap fun function =>
    (unusedOf source function).map fun name => (name, definedText source name)

theorem unusedDeclarations_eq (context : RuleContext) :
    unusedDeclarations context context.source.walk (bindingRanges context.source.walk) =
      (declarationReports context.source).map fun report =>
        context.about report.1.node report.2 := by
  rw [declarationReports, List.map_map, ← List.filterMap_eq_map, List.filterMap_filter]
  refine List.filterMap_congr fun declaration _ => ?_
  dsimp only
  cases (readNames context.source (bindingRanges context.source.walk)
      context.source.walk).contains (context.source.nodeText declaration.name.node) with
  | true => rfl
  | false =>
      simp only [Bool.false_eq_true, if_false, Bool.not_false, if_true, Function.comp_apply]
      split
      · rfl
      · rfl

theorem flatMap_unusedParameters_eq (context : RuleContext) :
    (context.source.walk.filter (·.node.isFunction)).flatMap
        (unusedParameters context (bindingRanges context.source.walk)) =
      (parameterReports context.source).map fun report =>
        context.about report.1.node report.2 := by
  rw [parameterReports, List.map_flatMap]
  refine List.flatMap_congr fun function _ => ?_
  rw [List.map_map]
  rfl

/-- The rule reports the unused names of the file and the unused parameters, provided that
all patterns can be followed. -/
theorem reports_noUnusedVars_iff {parse : Parser} {path : String} {text : List Char}
    (clean : (Source.ofText parse (Path.ofString path) text).problem? = none) :
    Reports parse path text "no-unused-vars"
        (declarationReports (Source.ofText parse (Path.ofString path) text) ++
          parameterReports (Source.ofText parse (Path.ofString path) text)) ↔
      ∀ place ∈ (Source.ofText parse (Path.ofString path) text).walk,
        isFollowed place = true := by
  have known : RuleBook.standard.rule? "no-unused-vars" = some noUnusedVars := rfl
  constructor
  · intro reports
    have success := reports.alone ⟨.int 2, []⟩ .error rfl rfl (by decide)
    obtain ⟨-, last, findings, finished⟩ :=
      of_lintText known clean List.mem_cons_self rfl (by decide) success
    obtain ⟨followed, -⟩ := (finish_eq_ok_iff last).mp finished
    dsimp only at followed
    exact followed
  · intro followed
    refine Reports.of_atEnd known clean ?_
    intro level settings
    rw [List.map_append, ← unusedDeclarations_eq ⟨_, level, settings, _, false⟩,
      ← flatMap_unusedParameters_eq ⟨_, level, settings, _, false⟩]
    refine (finish_eq_ok_iff ()).mpr ⟨?_, rfl⟩
    dsimp only
    exact followed

theorem mem_declarationReports_iff {source : Source} {report : Place × String} :
    report ∈ declarationReports source ↔
      ∃ owner ∈ source.walk, Declares owner report.1 ∧
        ¬Reads source source.rootPlace report.1 ∧
        ((GivesValue owner ∨ IsAssigned source report.1) ∧
            report.2 = assignedText source report.1 ∨
          ¬(GivesValue owner ∨ IsAssigned source report.1) ∧
            report.2 = definedText source report.1) := by
  obtain ⟨name, message⟩ := report
  have isUnread : ∀ place : Place,
      (!(readNames source (bindingRanges source.walk) source.walk).contains
        (source.nodeText place.node)) = true ↔ ¬Reads source source.rootPlace place := by
    intro place
    rw [Bool.not_eq_true', ← Bool.not_eq_true, List.contains_iff_mem, Source.walk,
      ← mem_readNames_iff (placed_rootPlace source), Source.walk]
  have isGiven : ∀ (declaration : Declaration) (owner : Place),
      declaration.hasValue = decide (GivesValue owner) →
      ((declaration.hasValue || (assignedNames source source.walk).contains
          (source.nodeText declaration.name.node)) = true ↔
        GivesValue owner ∨ IsAssigned source declaration.name) := by
    intro declaration owner value
    rw [Bool.or_eq_true, value, decide_eq_true_eq, List.contains_iff_mem, mem_assignedNames_iff]
  rw [declarationReports, List.mem_map]
  constructor
  · rintro ⟨declaration, member, same⟩
    obtain ⟨member, unread⟩ := List.mem_filter.mp member
    obtain ⟨owner, visited, member⟩ := List.mem_flatMap.mp member
    obtain ⟨declares, value⟩ := mem_declared_iff.mp member
    obtain ⟨rfl, rfl⟩ := Prod.mk.inj same
    refine ⟨owner, visited, declares, (isUnread _).mp unread, ?_⟩
    split
    · rename_i given
      exact .inl ⟨(isGiven declaration owner value).mp given, rfl⟩
    · rename_i bare
      exact .inr ⟨fun given => bare ((isGiven declaration owner value).mpr given), rfl⟩
  · rintro ⟨owner, visited, declares, unread, worded⟩
    refine ⟨⟨name, decide (GivesValue owner)⟩, List.mem_filter.mpr
      ⟨List.mem_flatMap.mpr ⟨owner, visited, mem_declared_iff.mpr ⟨declares, rfl⟩⟩,
        (isUnread name).mpr unread⟩, ?_⟩
    have givenIff := isGiven ⟨name, decide (GivesValue owner)⟩ owner rfl
    rcases worded with ⟨given, worded⟩ | ⟨bare, worded⟩
    · rw [if_pos (givenIff.mpr given)]
      exact Prod.ext rfl worded.symm
    · rw [if_neg (fun given => bare (givenIff.mp given))]
      exact Prod.ext rfl worded.symm

end ScriptLint.UnusedNames
