import ScriptLint.Proofs.Tree.Patterns
import ScriptLint.Rules.UnusedNames

/-!
# Where names are bound

Which places bind identifiers, and which of these are names of the file.  Both are said
about the tree; the lists that the rule collects hold these identifiers, each declared name
once.
-/

namespace ScriptLint.UnusedNames

/-- What a declaration declares is meant for other files: going up, the first place that
is no list of declarators exports it or merely announces it. -/
def IsExported (owner : Place) : Prop :=
  ∃ between holder above, owner.ancestors = between ++ holder :: above ∧
    (∀ place ∈ between, place.kind ∈ declarationKinds) ∧
    holder.kind ∈ ["export_statement", "ambient_declaration"]

/-- A place declares a name of the file. -/
inductive Declares (owner : Place) : Place → Prop where
  | declarator {pattern name : Place} (isDeclarator : owner.kind = "variable_declarator")
      (listed : owner.parentIn declarationKinds = true) (own : ¬IsExported owner)
      (found : owner.field? "name" = some pattern) (binds : pattern.Binds name) :
      Declares owner name
  | loop {kind pattern name : Place} (isLoop : owner.kind = "for_in_statement")
      (declares : owner.field? "kind" = some kind)
      (found : owner.field? "left" = some pattern) (binds : pattern.Binds name) :
      Declares owner name
  | definition {name : Place}
      (isDefinition : owner.kind ∈
        ["function_declaration", "generator_function_declaration", "class_declaration"])
      (own : ¬IsExported owner) (found : owner.field? "name" = some name) :
      Declares owner name
  | specifier {name : Place} (isSpecifier : owner.kind = "import_specifier")
      (found : (owner.field? "alias").or (owner.field? "name") = some name) :
      Declares owner name
  | clause {name : Place} (isClause : owner.kind ∈ ["import_clause", "namespace_import"])
      (isChild : name ∈ owner.namedChildren) (isIdentifier : name.kind = "identifier") :
      Declares owner name

/-- A place binds an identifier, be it a name of the file or not. -/
inductive Introduces (owner : Place) : Place → Prop where
  | declarator {pattern name : Place} (isDeclarator : owner.kind = "variable_declarator")
      (listed : owner.parentIn declarationKinds = true)
      (found : owner.field? "name" = some pattern) (binds : pattern.Binds name) :
      Introduces owner name
  | loop {kind pattern name : Place} (isLoop : owner.kind = "for_in_statement")
      (declares : owner.field? "kind" = some kind)
      (found : owner.field? "left" = some pattern) (binds : pattern.Binds name) :
      Introduces owner name
  | definition {name : Place}
      (isDefinition : owner.kind ∈
        ["function_declaration", "generator_function_declaration", "class_declaration"])
      (found : owner.field? "name" = some name) : Introduces owner name
  | expression {name : Place}
      (isExpression : owner.kind ∈
        ["function_expression", "function", "generator_function"])
      (found : owner.field? "name" = some name) : Introduces owner name
  | specifier {name : Place} {field : String} (isSpecifier : owner.kind = "import_specifier")
      (isField : field ∈ ["alias", "name"]) (found : owner.field? field = some name) :
      Introduces owner name
  | clause {name : Place} (isClause : owner.kind ∈ ["import_clause", "namespace_import"])
      (isChild : name ∈ owner.namedChildren) (isIdentifier : name.kind = "identifier") :
      Introduces owner name
  | caught {pattern name : Place} (isClause : owner.kind = "catch_clause")
      (found : owner.field? "parameter" = some pattern) (binds : pattern.Binds name) :
      Introduces owner name
  | parameter {pattern name : Place} (isFunction : owner.node.isFunction = true)
      (isParameter : pattern ∈ owner.parameters) (binds : pattern.Binds name) :
      Introduces owner name

/-- Declarations that give a value to what they declare. -/
def GivesValue (owner : Place) : Prop :=
  owner.kind = "for_in_statement" ∨
    owner.kind = "variable_declarator" ∧ (owner.field? "value").isSome = true

instance (owner : Place) : Decidable (GivesValue owner) :=
  inferInstanceAs (Decidable (_ ∨ _ ∧ _))

theorem exportedFrom_eq_true_iff {above : List Frame} :
    exportedFrom above = true ↔
      ∃ between holder higher, Place.ancestorsOf above = between ++ holder :: higher ∧
        (∀ place ∈ between, place.kind ∈ declarationKinds) ∧
        holder.kind ∈ ["export_statement", "ambient_declaration"] := by
  induction above with
  | nil => simp [exportedFrom, Place.ancestorsOf]
  | cons frame above induction =>
      unfold exportedFrom Place.ancestorsOf
      split
      · rename_i isList
        rw [induction]
        constructor
        · rintro ⟨between, holder, higher, split, lists, holds⟩
          refine ⟨⟨frame.parent, above⟩ :: between, holder, higher, by rw [split]; rfl, ?_, holds⟩
          exact List.forall_mem_cons.mpr ⟨List.contains_iff_mem.mp isList, lists⟩
        · rintro ⟨between, holder, higher, split, lists, holds⟩
          cases between with
          | nil =>
              -- A list of declarators is no export, so it cannot be what holds the declaration.
              obtain ⟨rfl, -⟩ := List.cons.inj split
              simp only [declarationKinds, List.contains_iff_mem, List.mem_cons,
                List.not_mem_nil, or_false] at isList
              rcases isList with kind | kind
              · simp [Place.kind, kind] at holds
              · simp [Place.kind, kind] at holds
          | cons first between =>
              obtain ⟨-, split⟩ := List.cons.inj split
              exact ⟨between, holder, higher, split,
                fun place member => lists place (List.mem_cons_of_mem _ member), holds⟩
      · rename_i noList
        rw [List.contains_iff_mem]
        constructor
        · intro holds
          exact ⟨[], _, _, rfl, by simp, holds⟩
        · rintro ⟨between, holder, higher, split, lists, holds⟩
          cases between with
          | nil =>
              obtain ⟨rfl, -⟩ := List.cons.inj split
              exact holds
          | cons first between =>
              obtain ⟨rfl, -⟩ := List.cons.inj split
              exact absurd (List.contains_iff_mem.mpr (lists _ List.mem_cons_self)) noList

theorem isExported_eq_true_iff {owner : Place} : isExported owner = true ↔ IsExported owner :=
  exportedFrom_eq_true_iff

/-- The forms of bindings, each with what a place of the form binds. -/
inductive Form (owner : Place) : Bindings → Prop where
  | declarator (isDeclarator : owner.kind = "variable_declarator")
      (listed : owner.parentIn declarationKinds = true) :
      Form owner (.declaring (owner.boundInField "name") (owner.field? "value").isSome
        (isExported owner))
  | loop {kind : Place} (isLoop : owner.kind = "for_in_statement")
      (declares : owner.field? "kind" = some kind) :
      Form owner (.declaring (owner.boundInField "left") true false)
  | definition (isDefinition : owner.kind ∈
        ["function_declaration", "generator_function_declaration", "class_declaration"]) :
      Form owner (.declaring (owner.field? "name").toList false (isExported owner))
  | specifier (isSpecifier : owner.kind = "import_specifier") :
      Form owner ⟨((owner.field? "alias").or (owner.field? "name")).toList ++
          (owner.field? "name").toList,
        ((owner.field? "alias").or (owner.field? "name")).toList.map (⟨·, false⟩)⟩
  | clause (isClause : owner.kind ∈ ["import_clause", "namespace_import"]) :
      Form owner (.declaring (owner.namedChildren.filter (·.kind = "identifier")) false false)
  | expression (isExpression : owner.kind ∈
        ["function_expression", "function", "generator_function"]) :
      Form owner (.only (owner.field? "name").toList)
  | caught (isClause : owner.kind = "catch_clause") :
      Form owner (.only (owner.boundInField "parameter"))
  | nothing : Form owner (.only [])

theorem form_bindingsOf (owner : Place) : Form owner (bindingsOf owner) := by
  unfold bindingsOf
  dsimp only
  split
  · rename_i isDeclarator
    split
    · rename_i listed
      exact .declarator isDeclarator listed
    · exact .nothing
  split
  · rename_i isLoop
    split
    · rename_i declares
      obtain ⟨kind, declares⟩ := Option.isSome_iff_exists.mp declares
      exact .loop isLoop declares
    · exact .nothing
  split
  · rename_i isDefinition
    exact .definition (by simpa [or_assoc] using isDefinition)
  split
  · rename_i isSpecifier
    exact .specifier isSpecifier
  split
  · rename_i isClause
    exact .clause (by simpa using isClause)
  split
  · rename_i isExpression
    exact .expression (by simpa [or_assoc] using isExpression)
  split
  · rename_i isClause
    exact .caught isClause
  · exact .nothing

theorem Form.bindingsOf_eq {owner : Place} {bindings : Bindings} (form : Form owner bindings)
    (binds : bindings ≠ .only []) : bindingsOf owner = bindings := by
  cases form with
  | declarator isDeclarator listed => simp [bindingsOf, isDeclarator, listed]
  | loop isLoop declares => simp [bindingsOf, isLoop, declares]
  | definition isDefinition =>
      simp only [List.mem_cons, List.not_mem_nil, or_false] at isDefinition
      rcases isDefinition with kind | kind | kind
      · simp [bindingsOf, kind]
      · simp [bindingsOf, kind]
      · simp [bindingsOf, kind]
  | specifier isSpecifier => simp [bindingsOf, isSpecifier]
  | clause isClause =>
      simp only [List.mem_cons, List.not_mem_nil, or_false] at isClause
      rcases isClause with kind | kind
      · simp [bindingsOf, kind]
      · simp [bindingsOf, kind]
  | expression isExpression =>
      simp only [List.mem_cons, List.not_mem_nil, or_false] at isExpression
      rcases isExpression with kind | kind | kind
      · simp [bindingsOf, kind]
      · simp [bindingsOf, kind]
      · simp [bindingsOf, kind]
  | caught isClause => simp [bindingsOf, isClause]
  | nothing => exact absurd rfl binds

theorem Form.mem_bound {owner name : Place} {bindings : Bindings} (form : Form owner bindings)
    (member : name ∈ bindings.bound) : name ∈ (bindingsOf owner).bound := by
  rw [form.bindingsOf_eq]
  · exact member
  · rintro rfl
    exact List.not_mem_nil member

theorem Form.mem_declared {owner : Place} {declaration : Declaration} {bindings : Bindings}
    (form : Form owner bindings) (member : declaration ∈ bindings.declared) :
    declaration ∈ (bindingsOf owner).declared := by
  rw [form.bindingsOf_eq]
  · exact member
  · rintro rfl
    exact List.not_mem_nil member

theorem mem_parametersOf_iff {owner name : Place} :
    name ∈ parametersOf owner ↔
      owner.node.isFunction = true ∧ ∃ pattern ∈ owner.parameters, pattern.Binds name := by
  unfold parametersOf
  split
  · rename_i isFunction
    simp [isFunction, Place.parameterGroups, Place.mem_boundNames_iff]
  · rename_i isOther
    simp [isOther]

theorem introduces_of_mem_bound {owner name : Place} (member : name ∈ (bindingsOf owner).bound) :
    Introduces owner name := by
  have form := form_bindingsOf owner
  generalize bindingsOf owner = bindings at form member
  cases form with
  | declarator isDeclarator listed =>
      obtain ⟨pattern, found, binds⟩ := Place.mem_boundInField_iff.mp member
      exact .declarator isDeclarator listed found binds
  | loop isLoop declares =>
      obtain ⟨pattern, found, binds⟩ := Place.mem_boundInField_iff.mp member
      exact .loop isLoop declares found binds
  | definition isDefinition =>
      exact .definition isDefinition (Option.mem_toList.mp member)
  | specifier isSpecifier =>
      rcases List.mem_append.mp member with aliased | named
      · rcases Option.or_eq_some_iff.mp (Option.mem_toList.mp aliased) with found | ⟨-, found⟩
        · exact .specifier isSpecifier (by simp) found
        · exact .specifier isSpecifier (by simp) found
      · exact .specifier isSpecifier (by simp) (Option.mem_toList.mp named)
  | clause isClause =>
      obtain ⟨isChild, isIdentifier⟩ := List.mem_filter.mp member
      exact .clause isClause isChild (of_decide_eq_true isIdentifier)
  | expression isExpression =>
      exact .expression isExpression (Option.mem_toList.mp member)
  | caught isClause =>
      obtain ⟨pattern, found, binds⟩ := Place.mem_boundInField_iff.mp member
      exact .caught isClause found binds
  | nothing => exact absurd member List.not_mem_nil

theorem mem_bound_append_iff {owner name : Place} :
    name ∈ (bindingsOf owner).bound ++ parametersOf owner ↔ Introduces owner name := by
  constructor
  · intro member
    rcases List.mem_append.mp member with bound | parameter
    · exact introduces_of_mem_bound bound
    · obtain ⟨isFunction, pattern, isParameter, binds⟩ := mem_parametersOf_iff.mp parameter
      exact .parameter isFunction isParameter binds
  · intro introduces
    cases introduces with
    | declarator isDeclarator listed found binds =>
        refine List.mem_append_left _ ((Form.declarator isDeclarator listed).mem_bound ?_)
        exact Place.mem_boundInField_iff.mpr ⟨_, found, binds⟩
    | loop isLoop declares found binds =>
        refine List.mem_append_left _ ((Form.loop isLoop declares).mem_bound ?_)
        exact Place.mem_boundInField_iff.mpr ⟨_, found, binds⟩
    | definition isDefinition found =>
        exact List.mem_append_left _
          ((Form.definition isDefinition).mem_bound (Option.mem_toList.mpr found))
    | expression isExpression found =>
        exact List.mem_append_left _
          ((Form.expression isExpression).mem_bound (Option.mem_toList.mpr found))
    | @specifier name field isSpecifier isField found =>
        refine List.mem_append_left _ ((Form.specifier isSpecifier).mem_bound ?_)
        simp only [List.mem_cons, List.not_mem_nil, or_false] at isField
        rcases isField with rfl | rfl
        · simp [found]
        · exact List.mem_append_right _ (Option.mem_toList.mpr found)
    | clause isClause isChild isIdentifier =>
        refine List.mem_append_left _ ((Form.clause isClause).mem_bound ?_)
        exact List.mem_filter.mpr ⟨isChild, decide_eq_true isIdentifier⟩
    | caught isClause found binds =>
        refine List.mem_append_left _ ((Form.caught isClause).mem_bound ?_)
        exact Place.mem_boundInField_iff.mpr ⟨_, found, binds⟩
    | parameter isFunction isParameter binds =>
        exact List.mem_append_right _
          (mem_parametersOf_iff.mpr ⟨isFunction, _, isParameter, binds⟩)

theorem mem_bindingRanges_iff {places : List Place} {range : Nat × Nat} :
    range ∈ bindingRanges places ↔
      ∃ owner ∈ places, ∃ name, Introduces owner name ∧ name.node.range = range := by
  simp only [bindingRanges, List.mem_flatMap, List.mem_map, mem_bound_append_iff]

theorem mem_declaring_iff {names : List Place} {hasValue exported : Bool}
    {declaration : Declaration} :
    declaration ∈ (Bindings.declaring names hasValue exported).declared ↔
      exported = false ∧ declaration.name ∈ names ∧ declaration.hasValue = hasValue := by
  obtain ⟨name, given⟩ := declaration
  cases exported with
  | true => simp [Bindings.declaring]
  | false =>
      simp only [Bindings.declaring, Bool.false_eq_true, if_false, List.mem_map,
        Declaration.mk.injEq, true_and]
      constructor
      · rintro ⟨other, member, rfl, rfl⟩
        exact ⟨member, rfl⟩
      · rintro ⟨member, rfl⟩
        exact ⟨name, member, rfl, rfl⟩

theorem not_givesValue_of_mem {owner : Place} {kinds : List String} (isKind : owner.kind ∈ kinds)
    (others : "for_in_statement" ∉ kinds ∧ "variable_declarator" ∉ kinds) :
    decide (GivesValue owner) = false := by
  refine decide_eq_false ?_
  rintro (isLoop | ⟨isDeclarator, -⟩)
  · exact others.1 (isLoop ▸ isKind)
  · exact others.2 (isDeclarator ▸ isKind)

theorem isExported_eq_false_iff {owner : Place} : isExported owner = false ↔ ¬IsExported owner := by
  rw [← isExported_eq_true_iff, Bool.not_eq_true]

theorem mem_declared_iff {owner : Place} {declaration : Declaration} :
    declaration ∈ (bindingsOf owner).declared ↔
      Declares owner declaration.name ∧ declaration.hasValue = decide (GivesValue owner) := by
  constructor
  · intro member
    have form := form_bindingsOf owner
    generalize bindingsOf owner = bindings at form member
    cases form with
    | declarator isDeclarator listed =>
        obtain ⟨own, member, value⟩ := mem_declaring_iff.mp member
        obtain ⟨pattern, found, binds⟩ := Place.mem_boundInField_iff.mp member
        refine ⟨.declarator isDeclarator listed (isExported_eq_false_iff.mp own) found binds, ?_⟩
        simp [value, GivesValue, isDeclarator]
    | loop isLoop declares =>
        obtain ⟨-, member, value⟩ := mem_declaring_iff.mp member
        obtain ⟨pattern, found, binds⟩ := Place.mem_boundInField_iff.mp member
        exact ⟨.loop isLoop declares found binds, by simp [value, GivesValue, isLoop]⟩
    | definition isDefinition =>
        obtain ⟨own, member, value⟩ := mem_declaring_iff.mp member
        refine ⟨.definition isDefinition (isExported_eq_false_iff.mp own)
          (Option.mem_toList.mp member), ?_⟩
        rw [value, not_givesValue_of_mem isDefinition (by decide)]
    | specifier isSpecifier =>
        obtain ⟨name, located, rfl⟩ := List.mem_map.mp member
        refine ⟨.specifier isSpecifier (Option.mem_toList.mp located), ?_⟩
        rw [not_givesValue_of_mem (List.mem_singleton.mpr isSpecifier) (by decide)]
    | clause isClause =>
        obtain ⟨-, member, value⟩ := mem_declaring_iff.mp member
        obtain ⟨isChild, isIdentifier⟩ := List.mem_filter.mp member
        refine ⟨.clause isClause isChild (of_decide_eq_true isIdentifier), ?_⟩
        rw [value, not_givesValue_of_mem isClause (by decide)]
    | expression isExpression => exact absurd member List.not_mem_nil
    | caught isClause => exact absurd member List.not_mem_nil
    | nothing => exact absurd member List.not_mem_nil
  · rintro ⟨declares, value⟩
    cases declares with
    | declarator isDeclarator listed own found binds =>
        refine (Form.declarator isDeclarator listed).mem_declared (mem_declaring_iff.mpr ?_)
        refine ⟨isExported_eq_false_iff.mpr own,
          Place.mem_boundInField_iff.mpr ⟨_, found, binds⟩, ?_⟩
        simp [value, GivesValue, isDeclarator]
    | loop isLoop declares found binds =>
        refine (Form.loop isLoop declares).mem_declared (mem_declaring_iff.mpr ?_)
        refine ⟨rfl, Place.mem_boundInField_iff.mpr ⟨_, found, binds⟩, ?_⟩
        simp [value, GivesValue, isLoop]
    | definition isDefinition own found =>
        refine (Form.definition isDefinition).mem_declared (mem_declaring_iff.mpr ?_)
        refine ⟨isExported_eq_false_iff.mpr own, Option.mem_toList.mpr found, ?_⟩
        rw [value, not_givesValue_of_mem isDefinition (by decide)]
    | specifier isSpecifier found =>
        refine (Form.specifier isSpecifier).mem_declared (List.mem_map.mpr ?_)
        rw [not_givesValue_of_mem (List.mem_singleton.mpr isSpecifier) (by decide)] at value
        exact ⟨declaration.name, Option.mem_toList.mpr found, by rw [← value]⟩
    | clause isClause isChild isIdentifier =>
        refine (Form.clause isClause).mem_declared (mem_declaring_iff.mpr ?_)
        refine ⟨rfl, List.mem_filter.mpr ⟨isChild, decide_eq_true isIdentifier⟩, ?_⟩
        rw [value, not_givesValue_of_mem isClause (by decide)]

end ScriptLint.UnusedNames
