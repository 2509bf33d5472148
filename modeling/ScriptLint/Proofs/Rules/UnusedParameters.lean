import Mathlib.Data.List.Basic
import ScriptLint.Proofs.Rules.UnusedNames

/-!
# Parameters that are never read

A parameter is judged together with the parameters after it: as long as one of these is
used, it has to stay.  The rule looks for uses in the body of the function alone and among
the parameters without a modifier, so it also reports parameters that only a default value
reads.
-/

namespace ScriptLint.UnusedNames

theorem mem_afterLastUsed_iff {used : List Place → Bool} {groups : List (List Place)}
    {group : List Place} :
    group ∈ afterLastUsed used groups ↔
      ∃ before after, groups = before ++ group :: after ∧
        ∀ other ∈ group :: after, used other = false := by
  rw [afterLastUsed, List.mem_reverse]
  constructor
  · intro member
    obtain ⟨later, earlier, split⟩ := List.append_of_mem member
    refine ⟨(earlier ++ groups.reverse.dropWhile (!used ·)).reverse, later.reverse, ?_, ?_⟩
    · have whole := groups.reverse.takeWhile_append_dropWhile (p := (!used ·))
      rw [split] at whole
      simpa using (congrArg List.reverse whole).symm
    · intro other isLater
      have taken : other ∈ groups.reverse.takeWhile (!used ·) := by
        rw [split]
        rcases List.mem_cons.mp isLater with rfl | isLater
        · simp
        · exact List.mem_append_left _ (List.mem_reverse.mp isLater)
      simpa using List.all_eq_true.mp List.all_takeWhile other taken
  · rintro ⟨before, after, rfl, unused⟩
    -- Read from the end, the unused groups come first.
    have trailing : ∀ other ∈ (group :: after).reverse, (!used other) = true := by
      intro other isLater
      rw [unused other (List.mem_reverse.mp isLater)]
      rfl
    rw [List.reverse_append, List.takeWhile_append_of_pos trailing]
    exact List.mem_append_left _ (List.mem_reverse.mpr List.mem_cons_self)

/-- One of the names that a parameter binds stands beside an accessibility modifier. -/
def HasModifier (parameter : Place) : Prop :=
  ∃ name parent, parameter.Binds name ∧ name.parent? = some parent ∧
    ∃ child ∈ parent.node.children, child.kind = "accessibility_modifier"

/-- A default value in a pattern. -/
inductive HasDefault : Place → Place → Prop where
  | own {pattern value : Place} {field : String}
      (takes : (pattern.kind, field) ∈
        [("assignment_pattern", "right"), ("object_assignment_pattern", "right"),
          ("required_parameter", "value"), ("optional_parameter", "value")])
      (found : pattern.field? field = some value) : HasDefault pattern value
  | within {pattern inner value : Place} (handed : inner ∈ pattern.handedOn)
      (takes : HasDefault inner value) : HasDefault pattern value

def ReadInBody (source : Source) (function name : Place) : Prop :=
  ∃ body, function.field? "body" = some body ∧ Reads source body name

/-- A name is read in a function: in the body or in a default value of a parameter. -/
def ReadWithin (source : Source) (function name : Place) : Prop :=
  ReadInBody source function name ∨
    ∃ parameter ∈ function.parameters, ∃ value, HasDefault parameter value ∧
      Reads source value name

/-- A name of one of the parameters is read in the function. -/
def UsedWithin (source : Source) (function : Place) (parameters : List Place) : Prop :=
  ∃ parameter ∈ parameters, ∃ name, parameter.Binds name ∧ ReadWithin source function name

/-- A name of one of the parameters without a modifier is read in the body. -/
def UsedInBody (source : Source) (function : Place) (parameters : List Place) : Prop :=
  ∃ parameter ∈ parameters, ¬HasModifier parameter ∧
    ∃ name, parameter.Binds name ∧ ReadInBody source function name

theorem UsedInBody.usedWithin {source : Source} {function : Place} {parameters : List Place}
    (used : UsedInBody source function parameters) : UsedWithin source function parameters := by
  obtain ⟨parameter, isParameter, -, name, binds, read⟩ := used
  exact ⟨parameter, isParameter, name, binds, .inl read⟩

theorem any_isMember_iff {parameter : Place} :
    parameter.boundNames.any isMember = true ↔ HasModifier parameter := by
  have member_iff : ∀ name : Place, isMember name = true ↔
      ∃ parent, name.parent? = some parent ∧
        ∃ child ∈ parent.node.children, child.kind = "accessibility_modifier" := by
    intro name
    unfold isMember
    cases name.parent? with
    | none => simp
    | some parent => simp
  rw [List.any_eq_true]
  constructor
  · rintro ⟨name, bound, isMember⟩
    obtain ⟨parent, below, modified⟩ := (member_iff name).mp isMember
    exact ⟨name, parent, Place.mem_boundNames_iff.mp bound, below, modified⟩
  · rintro ⟨name, parent, binds, below, modified⟩
    exact ⟨name, Place.mem_boundNames_iff.mpr binds,
      (member_iff name).mpr ⟨parent, below, modified⟩⟩

theorem mem_bodyReads_iff {source : Source} {function name : Place} :
    source.nodeText name.node ∈ bodyReads source function ↔
      ReadInBody source function name := by
  unfold bodyReads ReadInBody
  cases found : function.field? "body" with
  | none => simp
  | some body =>
      have placed := Place.placed_of_mem_children (Place.mem_children_of_field? found)
      simpa using mem_readNames_iff placed

/-- The parameters that are judged: those without a modifier. -/
def judged (parameters : List Place) : List Place :=
  parameters.filter fun parameter => !parameter.boundNames.any isMember

theorem mem_judged_iff {parameters : List Place} {parameter : Place} :
    parameter ∈ judged parameters ↔ parameter ∈ parameters ∧ ¬HasModifier parameter := by
  rw [judged, List.mem_filter, ← any_isMember_iff, Bool.not_eq_true', Bool.not_eq_true]

theorem judged_append_cons {before after : List Place} {parameter : Place}
    (plain : ¬HasModifier parameter) :
    judged (before ++ parameter :: after) = judged before ++ parameter :: judged after := by
  rw [← any_isMember_iff, Bool.not_eq_true] at plain
  rw [judged, List.filter_append, List.filter_cons_of_pos (by rw [plain]; rfl)]
  rfl

theorem nodup_parameters (function : Place) : function.parameters.Nodup := by
  obtain ⟨place, sideBySide⟩ := function.exists_parameters_sublist
  exact place.nodup_children.sublist sideBySide

theorem mem_unusedOf_iff {source : Source} {function name : Place} :
    name ∈ unusedOf source function ↔
      source.nodeText name.node ≠ "this" ∧
        ∃ before parameter after, judged function.parameters = before ++ parameter :: after ∧
          parameter.Binds name ∧
          ∀ other ∈ parameter :: after, ∀ bound, other.Binds bound →
            ¬ReadInBody source function bound := by
  have groups : function.parameterGroups.filter (!·.any isMember) =
      (judged function.parameters).map Place.boundNames := by
    rw [Place.parameterGroups, List.filter_map]
    rfl
  have unused_iff : ∀ parameter : Place,
      (parameter.boundNames.any fun bound =>
        (bodyReads source function).contains (source.nodeText bound.node)) = false ↔
      ∀ bound, parameter.Binds bound → ¬ReadInBody source function bound := by
    intro parameter
    simp only [List.any_eq_false, List.contains_iff_mem, mem_bodyReads_iff,
      Place.mem_boundNames_iff]
  rw [unusedOf, groups, List.mem_filter, List.mem_flatten, Bool.and_eq_true, decide_eq_true_eq]
  constructor
  · rintro ⟨⟨group, trailing, bound⟩, notThis, -⟩
    obtain ⟨earlier, later, split, unused⟩ := mem_afterLastUsed_iff.mp trailing
    obtain ⟨before, rest, parted, rfl, isRest⟩ := List.map_eq_append_iff.mp split
    obtain ⟨parameter, after, rfl, rfl, rfl⟩ := List.map_eq_cons_iff.mp isRest
    refine ⟨notThis, before, parameter, after, parted, Place.mem_boundNames_iff.mp bound, ?_⟩
    intro other isLater
    exact (unused_iff other).mp (unused other.boundNames (List.mem_map_of_mem isLater))
  · rintro ⟨notThis, before, parameter, after, parted, binds, unused⟩
    refine ⟨⟨parameter.boundNames, mem_afterLastUsed_iff.mpr
      ⟨before.map Place.boundNames, after.map Place.boundNames, ?_, ?_⟩,
      Place.mem_boundNames_iff.mpr binds⟩, notThis, ?_⟩
    · rw [parted, List.map_append, List.map_cons]
    · intro group isLater
      rw [← List.map_cons] at isLater
      obtain ⟨other, listed, rfl⟩ := List.mem_map.mp isLater
      exact (unused_iff other).mpr (unused other listed)
    · rw [Bool.not_eq_true', ← Bool.not_eq_true, List.contains_iff_mem, mem_bodyReads_iff]
      exact unused parameter List.mem_cons_self name binds

/-- A name of a parameter is unused exactly if the parameter is judged and neither it nor a
later one is used in the body. -/
theorem mem_unusedOf_iff_of_split (source : Source) {function parameter name : Place}
    {before after : List Place} (split : function.parameters = before ++ parameter :: after)
    (binds : parameter.Binds name) :
    name ∈ unusedOf source function ↔
      source.nodeText name.node ≠ "this" ∧ ¬HasModifier parameter ∧
        ¬UsedInBody source function (parameter :: after) := by
  rw [mem_unusedOf_iff]
  constructor
  · rintro ⟨notThis, earlier, own, later, parted, ownBinds, unused⟩
    have isOwn : own ∈ judged function.parameters := by
      rw [parted]
      exact List.mem_append_right _ List.mem_cons_self
    obtain ⟨isParameter, plain⟩ := mem_judged_iff.mp isOwn
    obtain ⟨place, sideBySide⟩ := function.exists_parameters_sublist
    have isGiven : parameter ∈ function.parameters := by
      rw [split]
      exact List.mem_append_right _ List.mem_cons_self
    obtain rfl : own = parameter := Place.eq_of_binds (sideBySide.subset isParameter)
      (sideBySide.subset isGiven) ownBinds binds
    refine ⟨notThis, plain, ?_⟩
    rintro ⟨other, isLater, otherPlain, bound, otherBinds, read⟩
    -- No parameter stands twice, so the two ways to part the parameters agree.
    have once : (judged function.parameters).Nodup := (nodup_parameters function).filter _
    rw [parted] at once
    have absent := (List.nodup_cons.mp (List.nodup_middle.mp once)).1
    rw [List.mem_append, not_or] at absent
    rw [split, judged_append_cons plain] at parted
    have sameLater : later = judged after :=
      ((List.append_cons_inj_of_notMem absent.1 absent.2).mp parted.symm).2.2
    refine unused other ?_ bound otherBinds read
    rw [sameLater]
    rcases List.mem_cons.mp isLater with rfl | isLater
    · exact List.mem_cons_self
    · exact List.mem_cons_of_mem _ (mem_judged_iff.mpr ⟨isLater, otherPlain⟩)
  · rintro ⟨notThis, plain, unused⟩
    refine ⟨notThis, judged before, parameter, judged after, ?_, binds, ?_⟩
    · rw [split, judged_append_cons plain]
    · intro other isLater bound otherBinds read
      refine unused ⟨other, ?_, ?_, bound, otherBinds, read⟩
      · exact (List.filter_sublist.cons_cons parameter).subset isLater
      · rcases List.mem_cons.mp isLater with rfl | isLater
        · exact plain
        · exact (mem_judged_iff.mp isLater).2

/-- There are reports exactly if all patterns can be followed.  Then a name of a parameter is
reported exactly if it is not `this`, its parameter has no modifier, and no name of this or a
later parameter without a modifier is read in the body.  Judging the function as a whole,
default values and parameters with a modifier included, comes to the same exactly if each
parameter that is used there is also used in the body. -/
theorem lintText_unused_parameters {parse : Parser} {path : String} {text : List Char}
    {source : Source} (sourced : Source.ofText parse (Path.ofString path) text = source)
    (clean : source.problem? = none) :
    ∃ (declared : List (Place × String)) (unused : Place → List Place),
      (Reports parse path text "no-unused-vars"
          (declared ++ (source.walk.filter (·.node.isFunction)).flatMap fun function =>
            (unused function).map fun name => (name, definedText source name)) ↔
        ∀ place ∈ source.walk, isFollowed place = true) ∧
      (∀ report ∈ declared, ∃ owner ∈ source.walk, Declares owner report.1) ∧
      ∀ function ∈ source.walk, function.node.isFunction = true →
        (unused function).Sublist (function.parameters.flatMap Place.boundNames) ∧
        ∀ before parameter after, function.parameters = before ++ parameter :: after →
          ∀ name, parameter.Binds name →
            (name ∈ unused function ↔
              source.nodeText name.node ≠ "this" ∧ ¬HasModifier parameter ∧
                ¬UsedInBody source function (parameter :: after)) ∧
            (source.nodeText name.node ≠ "this" → ¬HasModifier parameter →
              ((name ∈ unused function ↔ ¬UsedWithin source function (parameter :: after)) ↔
                (UsedWithin source function (parameter :: after) →
                  UsedInBody source function (parameter :: after)))) := by
  subst sourced
  refine ⟨_, _, reports_noUnusedVars_iff clean, ?_, ?_⟩
  · intro report reported
    obtain ⟨owner, visited, declares, -⟩ := mem_declarationReports_iff.mp reported
    exact ⟨owner, visited, declares⟩
  · intro function _ _
    refine ⟨?_, ?_⟩
    · rw [List.flatMap_def, ← Place.parameterGroups]
      exact unusedOf_sublist _ function
    · intro before parameter after split name binds
      have reported := mem_unusedOf_iff_of_split (Source.ofText parse (Path.ofString path) text)
        split binds
      refine ⟨reported, ?_⟩
      intro notThis plain
      rw [reported]
      constructor
      · intro whole used
        by_contra unused
        exact whole.mp ⟨notThis, plain, unused⟩ used
      · intro inBody
        constructor
        · rintro ⟨-, -, unused⟩ used
          exact unused (inBody used)
        · intro unused
          exact ⟨notThis, plain, fun used => unused used.usedWithin⟩

section Arrow

variable (parameters : List Node) (body : Node)

-- Both sample files are ten bytes long, with the parameters in the first seven.

def arrowParameters : Node :=
  ⟨"formal_parameters", true, false, false, 0, 7, some "parameters", parameters⟩

def arrow : Node :=
  ⟨"arrow_function", true, false, false, 0, 10, none,
    [arrowParameters parameters, ⟨"=>", false, false, false, 7, 9, none, []⟩, body]⟩

def arrowStatement : Node :=
  ⟨"expression_statement", true, false, false, 0, 10, none, [arrow parameters body]⟩

def arrowFile : Node :=
  ⟨"program", true, false, false, 0, 10, none, [arrowStatement parameters body]⟩

def arrowPlace : Place :=
  ⟨arrow parameters body, [⟨arrowStatement parameters body, 0⟩, ⟨arrowFile parameters body, 0⟩]⟩

def arrowParameter (index : Nat) (parameter : Node) : Place :=
  ⟨parameter, ⟨arrowParameters parameters, index⟩ :: ⟨arrow parameters body, 0⟩ ::
    (arrowPlace parameters body).above⟩

theorem reaches_arrowPlace :
    (Place.ofRoot (arrowFile parameters body)).Reaches (arrowPlace parameters body) :=
  .down (.head _) (.down (.head _) (.here _))

end Arrow

def plainParameter (start : Nat) : Node :=
  ⟨"identifier", true, false, false, start, start + 1, none, []⟩

def threeParameters : List Node :=
  [⟨"(", false, false, false, 0, 1, none, []⟩, plainParameter 1,
    ⟨",", false, false, false, 2, 3, none, []⟩, plainParameter 3,
    ⟨",", false, false, false, 4, 5, none, []⟩, plainParameter 5,
    ⟨")", false, false, false, 6, 7, none, []⟩]

def plainBody : Node :=
  ⟨"identifier", true, false, false, 9, 10, some "body", []⟩

/-- Of three parameters the second is used: the first stays, the third is reported. -/
theorem lintText_unused_parameters_threeParameters :
    ∃ (declared : List (Place × String)) (unused : Place → List Place),
      Reports (fun _ _ => arrowFile threeParameters plainBody) "a.js" "(a,b,c)=>b".toList
        "no-unused-vars"
        (declared ++ ((Place.ofRoot (arrowFile threeParameters plainBody)).walk.filter
          (·.node.isFunction)).flatMap fun function =>
            (unused function).map fun name =>
              (name, definedText ⟨"(a,b,c)=>b".toList, "(a,b,c)=>b".toList, .javascript,
                arrowFile threeParameters plainBody, none⟩ name)) ∧
      arrowParameter threeParameters plainBody 1 (plainParameter 1) ∉
        unused (arrowPlace threeParameters plainBody) ∧
      arrowParameter threeParameters plainBody 5 (plainParameter 5) ∈
        unused (arrowPlace threeParameters plainBody) := by
  have sourced : Source.ofText (fun _ _ => arrowFile threeParameters plainBody)
      (Path.ofString "a.js") "(a,b,c)=>b".toList =
      ⟨"(a,b,c)=>b".toList, "(a,b,c)=>b".toList, .javascript,
        arrowFile threeParameters plainBody, none⟩ := rfl
  obtain ⟨declared, unused, reports, -, told⟩ := lintText_unused_parameters sourced rfl
  obtain ⟨-, told⟩ := told (arrowPlace threeParameters plainBody)
    (Place.mem_walk_iff.mpr (reaches_arrowPlace _ _)) rfl
  refine ⟨declared, unused, reports.mpr (by decide +kernel), ?_, ?_⟩
  · have first := (told [] _ _ rfl (arrowParameter threeParameters plainBody 1 (plainParameter 1))
      (.itself rfl)).1
    intro reported
    refine (first.mp reported).2.2
      ⟨arrowParameter threeParameters plainBody 3 (plainParameter 3), .tail _ (.head _), ?_,
        _, .itself rfl, mem_bodyReads_iff.mp ?_⟩
    · rw [← any_isMember_iff]
      decide +kernel
    · decide +kernel
  · have third := (told [_, _] _ [] rfl
      (arrowParameter threeParameters plainBody 5 (plainParameter 5)) (.itself rfl)).1
    refine third.mpr ⟨by decide +kernel, ?_, ?_⟩
    · rw [← any_isMember_iff]
      decide +kernel
    · rintro ⟨other, isLast, -, name, binds, read⟩
      rw [List.mem_singleton.mp isLast] at binds
      rw [Place.eq_of_binds_itself rfl binds, ← mem_bodyReads_iff] at read
      revert read
      decide +kernel

def defaultedParameter : Node :=
  ⟨"assignment_pattern", true, false, false, 3, 6, none,
    [⟨"identifier", true, false, false, 3, 4, some "left", []⟩,
      ⟨"=", false, false, false, 4, 5, none, []⟩,
      ⟨"identifier", true, false, false, 5, 6, some "right", []⟩]⟩

/-- Two parameters, the second with a default value. -/
def defaultedParameters : List Node :=
  [⟨"(", false, false, false, 0, 1, none, []⟩, plainParameter 1,
    ⟨",", false, false, false, 2, 3, none, []⟩, defaultedParameter,
    ⟨")", false, false, false, 6, 7, none, []⟩]

def digitBody : Node :=
  ⟨"number", true, false, false, 9, 10, some "body", []⟩

def defaultValue : Place :=
  ⟨⟨"identifier", true, false, false, 5, 6, some "right", []⟩,
    ⟨defaultedParameter, 2⟩ ::
      (arrowParameter defaultedParameters digitBody 3 defaultedParameter).above⟩

/-- A parameter that the default value of a later one reads is reported all the same. -/
theorem lintText_reports_default_read :
    lintText (fun _ _ => arrowFile defaultedParameters digitBody) RuleBook.standard
        [("no-unused-vars", ⟨.int 2, []⟩)] "a.js" "(a,b=a)=>0".toList =
      .ok ⟨[⟨some "no-unused-vars", 2, "'a' is defined but never used.", 1, 2, some 1, some 3,
          none, false⟩,
        ⟨some "no-unused-vars", 2, "'b' is defined but never used.", 1, 4, some 1, some 5,
          none, false⟩], none⟩ ∧
      ReadWithin ⟨"(a,b=a)=>0".toList, "(a,b=a)=>0".toList, .javascript,
          arrowFile defaultedParameters digitBody, none⟩
        (arrowPlace defaultedParameters digitBody)
        (arrowParameter defaultedParameters digitBody 1 (plainParameter 1)) := by
  constructor
  · have clean : (Source.ofText (fun _ _ => arrowFile defaultedParameters digitBody)
        (Path.ofString "a.js") "(a,b=a)=>0".toList).problem? = none := rfl
    have reports := (reports_noUnusedVars_iff clean).mpr (by decide +kernel)
    refine (reports.alone ⟨.int 2, []⟩ .error rfl rfl (by decide)).trans ?_
    congr 2
    refine (List.mergeSort_of_pairwise ?_).trans ?_
    · decide +kernel
    · decide +kernel
  · have found : (arrowParameter defaultedParameters digitBody 3 defaultedParameter).field?
        "right" = some defaultValue := rfl
    have placed := Place.placed_of_mem_children (Place.mem_children_of_field? found)
    exact .inr ⟨_, .tail _ (.head _), defaultValue, .own (.head _) found,
      (mem_readNames_iff placed).mp (by decide +kernel)⟩

end ScriptLint.UnusedNames
