import ScriptLint.Proofs.Engine.Voice
import ScriptLint.Rules.CamelCase
import ScriptLint.Rules.DuplicateBlocks
import ScriptLint.Rules.Limits
import ScriptLint.Rules.Statements
import ScriptLint.Rules.Switches
import ScriptLint.Rules.UnusedNames

/-!
# Where rules over the tree find something

A finding is about a node of the tree, about the head of a function, about a
part of a line, or about a node with a fix inside the text.  The rules that only
look at the tree report findings of the first two kinds and answer everywhere;
those with a stack put an entry on it for each node from whose leaving they take
one.
-/

namespace ScriptLint

/-- The places that findings about a source have. -/
inductive Finding.Located (source : Source) (fixable : Bool) : Finding → Prop where
  | node {node : Node} (text : String) (held : node ∈ source.root.nodes) :
      Located source fixable
        ⟨text, some (source.start node), some (source.stop node), none⟩
  | head {function body : Node} (text : String) (held : function ∈ source.root.nodes)
      (inside : body ∈ function.children) :
      Located source fixable
        ⟨text, some (source.start function), some (source.start body), none⟩
  | line {row length : Nat} {line : List Char} (text : String)
      (onLine : source.lines[row]? = some line) (within : length ≤ line.length) :
      Located source fixable
        ⟨text, some ⟨row + 1, 1⟩, some ⟨row + 1, length + 1⟩, none⟩
  | fixed {node : Node} {fix : Fix} (text : String) (held : node ∈ source.root.nodes)
      (declared : fixable = true) (starts : 0 ≤ fix.start) (ordered : fix.start ≤ fix.stop)
      (ends : fix.stop ≤ source.text.length) :
      Located source fixable
        ⟨text, some (source.start node), some (source.stop node), some fix⟩

theorem Finding.Located.exists_message {context : RuleContext} {finding : Finding}
    (located : finding.Located context.source context.fixable) :
    ∃ message, context.message finding = .ok message := by
  cases located with
  | node text held => exact ⟨_, rfl⟩
  | head text held inside => exact ⟨_, rfl⟩
  | line text onLine within => exact ⟨_, rfl⟩
  | fixed text held declared starts ordered ends =>
      exact ⟨_, if_neg (by simp [declared])⟩

theorem Node.mem_nodes_of_field? {node child tree : Node} {name : String}
    (found : node.field? name = some child) (held : node ∈ tree.nodes) :
    child ∈ tree.nodes :=
  mem_nodes_of_mem_children (mem_children_of_field? found) held

section Tree

variable {context : RuleContext}

/-- The property that all findings of a rule without fixes have. -/
abbrev RuleContext.Locates (context : RuleContext) : Finding → Prop :=
  Finding.Located context.source false

theorem located_of_ite {condition : Prop} [Decidable condition] {node : Node} {text : String}
    {findings : List Finding} (held : node ∈ context.source.root.nodes)
    (checked : (if condition then .ok [context.about node text] else .ok [] :
      Except Fault (List Finding)) = .ok findings) :
    ∀ finding ∈ findings, finding.Located context.source false := by
  split at checked
  · rw [← Except.ok.inj checked]
    simpa using .node text held
  · exact forall_of_ok_nil checked

namespace CamelCase

theorem node_mem_of_mem_patterns {place : Place} {tree : Node}
    (held : place.node ∈ tree.nodes) : ∀ pattern ∈ patterns place, pattern.node ∈ tree.nodes := by
  intro pattern member
  unfold patterns at member
  split at member
  · exact Place.mem_nodes_of_field? (Option.mem_toList.mp member) held
  split at member
  · exact Node.mem_nodes_of_mem_children (Place.node_mem_of_mem_namedChildren member).1 held
  · exact Place.mem_nodes_of_field? (Option.mem_toList.mp member) held

theorem mem_nodes_of_mem_checkedNodes {properties : Bool} {place : Place} {tree : Node}
    (held : place.node ∈ tree.nodes) :
    ∀ node ∈ checkedNodes properties place, node ∈ tree.nodes := by
  intro node member
  have ofField : ∀ {name child}, place.node.field? name = some child → child ∈ tree.nodes :=
    fun found => Node.mem_nodes_of_field? found held
  simp only [checkedNodes] at member
  split at member
  · obtain ⟨bound, boundMember, rfl⟩ := List.mem_map.mp member
    obtain ⟨pattern, isPattern, isBound⟩ := List.mem_flatMap.mp boundMember
    exact Place.node_mem_of_mem_boundNames (node_mem_of_mem_patterns held pattern isPattern)
      bound isBound
  split at member
  · rcases Option.or_eq_some_iff.mp (Option.mem_toList.mp member) with found | ⟨-, found⟩
    · exact ofField found
    · exact ofField found
  split at member
  · have isChild := List.mem_of_mem_filter (List.mem_of_mem_filter member)
    exact Node.mem_nodes_of_mem_children isChild held
  split at member
  · split at member
    · have key := Option.mem_toList.mp (List.mem_of_mem_filter member)
      rcases Option.or_eq_some_iff.mp key with found | ⟨-, other⟩
      · exact ofField found
      · rcases Option.or_eq_some_iff.mp other with found | ⟨-, found⟩
        · exact ofField found
        · exact ofField found
    · simp at member
  split at member
  · split at member
    · rename_i left isLeft
      split at member
      · exact Node.mem_nodes_of_field? (Option.mem_toList.mp member) (ofField isLeft)
      · simp at member
    · simp at member
  · exact ofField (Option.mem_toList.mp (List.mem_of_mem_filter member))

theorem of_mem_check {nodes : List Node} {reported : List (Nat × Nat)} :
    ∀ finding ∈ (check context nodes reported).2,
      ∃ node ∈ nodes, ∃ text, finding = context.about node text := by
  induction nodes generalizing reported with
  | nil => simp [check]
  | cons node rest induction =>
      intro finding member
      simp only [check] at member
      split at member
      · obtain ⟨other, isOther, text, rfl⟩ := induction finding member
        exact ⟨other, List.mem_cons_of_mem node isOther, text, rfl⟩
      · rcases List.mem_cons.mp member with rfl | later
        · exact ⟨node, List.mem_cons_self, _, rfl⟩
        · obtain ⟨other, isOther, text, rfl⟩ := induction finding later
          exact ⟨other, List.mem_cons_of_mem node isOther, text, rfl⟩

/-- The rule answers at a node if it can follow the patterns there. -/
theorem enter_eq_ok_iff {place : Place} {state : List (Nat × Nat)}
    {answer : List (Nat × Nat) × List Finding} :
    camelCase.enter context place state = .ok answer ↔
      isFollowed place = true ∧
        check context (checkedNodes (checksProperties context) place) state = answer := by
  simp only [camelCase]
  split
  · rename_i followed
    simp [followed]
  · rename_i tooDeep
    simp [tooDeep]

theorem camelCase_finds : camelCase.Finds context context.Locates where
  entering := by
    intro place state next findings held entered finding member
    obtain ⟨-, found⟩ := enter_eq_ok_iff.mp entered
    rw [← (Prod.mk.inj found).2] at member
    obtain ⟨node, isChecked, text, rfl⟩ := of_mem_check finding member
    exact .node text (mem_nodes_of_mem_checkedNodes held node isChecked)
  leaving := fun _ _ _ _ _ => Answer.forall_of_silent
  finishing := fun _ _ => forall_of_ok_nil

end CamelCase

namespace Limits

theorem located_aboutHead {function : Place} (text : String)
    (held : function.node ∈ context.source.root.nodes) :
    (aboutHead context function text).Located context.source false := by
  unfold aboutHead
  dsimp only
  split
  · rename_i body found
    exact .head text held (Node.mem_children_of_field? found)
  · exact .node text held

variable {others : List String} {base : Nat} {gain : Source → Node → Nat} {default : Int}
  {words : Nat → String}

theorem tally_finds :
    (tally others base gain default words).Finds context context.Locates where
  entering := by
    intro place stack next findings held entered
    simp only [tally] at entered
    split at entered
    · exact Answer.forall_of_silent entered
    · exact Answer.forall_of_silent entered
  leaving := by
    intro place stack next findings held left
    simp only [tally] at left
    split at left
    · split at left
      · simp at left
      · split at left
        · rw [← (Prod.mk.inj (Except.ok.inj left)).2]
          simpa using located_aboutHead _ held
        · exact Answer.forall_of_silent left
    · exact Answer.forall_of_silent left
  finishing := fun _ _ => forall_of_ok_nil

theorem maxDepth_finds : maxDepth.Finds context context.Locates where
  entering := by
    intro place stack next findings held entered
    simp only [maxDepth] at entered
    split at entered
    · exact Answer.forall_of_silent entered
    · split at entered
      · exact Answer.forall_of_silent entered
      · split at entered
        · split at entered
          · rw [← (Prod.mk.inj (Except.ok.inj entered)).2]
            simpa using .node _ held
          · exact Answer.forall_of_silent entered
        · exact Answer.forall_of_silent entered
  leaving := by
    intro place stack next findings held left
    simp only [maxDepth] at left
    split at left
    · split at left
      · simp at left
      · exact Answer.forall_of_silent left
    · split at left
      · exact Answer.forall_of_silent left
      · split at left
        · exact Answer.forall_of_silent left
        · exact Answer.forall_of_silent left
  finishing := fun _ _ => forall_of_ok_nil

theorem maxParams_finds : maxParams.Finds context context.Locates := by
  apply Rule.onEntering_finds
  intro place findings held checked
  dsimp only at checked
  split at checked
  · rw [← Except.ok.inj checked]
    simpa using located_aboutHead _ held
  · exact forall_of_ok_nil checked

end Limits

namespace Statements

theorem noConsole_finds : noConsole.Finds context context.Locates := by
  apply Rule.onEntering_finds
  intro place findings held checked
  split at checked
  · exact located_of_ite held checked
  · exact forall_of_ok_nil checked

theorem strictEquality_finds : strictEquality.Finds context context.Locates := by
  apply Rule.onEntering_finds
  intro place findings held checked
  split at checked
  · rename_i operator found
    exact located_of_ite (Node.mem_nodes_of_field? found held) checked
  · exact forall_of_ok_nil checked

theorem noDebugger_finds : noDebugger.Finds context context.Locates := by
  apply Rule.onEntering_finds
  intro place findings held checked
  rw [← Except.ok.inj checked]
  simpa using .node _ held

theorem noVar_finds : noVar.Finds context context.Locates := by
  apply Rule.onEntering_finds
  intro place findings held checked
  rw [← Except.ok.inj checked]
  simpa using .node _ held

theorem initDeclarations_finds : initDeclarations.Finds context context.Locates := by
  apply Rule.onEntering_finds
  intro place findings held checked
  dsimp only at checked
  split at checked
  · exact forall_of_ok_nil checked
  · split at checked
    · rw [← Except.ok.inj checked]
      simpa using .node _ held
    · exact located_of_ite held checked

end Statements

namespace Switches

theorem mem_nodes_of_mem_clauses {switch clause tree : Node} (held : switch ∈ tree.nodes)
    (member : clause ∈ clauses switch) : clause ∈ tree.nodes := by
  have inBody := List.mem_of_mem_filter member
  unfold bodyNodes at inBody
  split at inBody
  · rename_i body found
    apply Node.mem_nodes_of_mem_children (List.mem_of_mem_filter inBody)
    exact Node.mem_nodes_of_field? found held
  · simp at inBody

theorem defaultCase_finds : defaultCase.Finds context context.Locates := by
  apply Rule.onEntering_finds
  intro place findings held checked
  dsimp only at checked
  split at checked
  · exact forall_of_ok_nil checked
  · split at checked
    · exact forall_of_ok_nil checked
    · rw [← ite_not] at checked
      exact located_of_ite held checked

theorem defaultCaseLast_finds : defaultCaseLast.Finds context context.Locates := by
  apply Rule.onEntering_finds
  intro place findings held checked finding member
  rw [← Except.ok.inj checked] at member
  obtain ⟨clause, isDefault, rfl⟩ := List.mem_map.mp member
  have isClause := List.dropLast_subset _ (List.mem_of_mem_filter isDefault)
  exact .node _ (mem_nodes_of_mem_clauses held isClause)

end Switches

namespace UnusedNames

theorem mem_nodes_of_mem_declared {place : Place} {tree : Node}
    (held : place.node ∈ tree.nodes) :
    ∀ declaration ∈ (bindingsOf place).declared, declaration.name.node ∈ tree.nodes := by
  have ofNames : ∀ {names : List Place} {hasValue exported : Bool},
      (∀ name ∈ names, name.node ∈ tree.nodes) →
        ∀ declaration ∈ (Bindings.declaring names hasValue exported).declared,
          declaration.name.node ∈ tree.nodes := by
    intro names hasValue exported all declaration member
    simp only [Bindings.declaring] at member
    split at member
    · simp at member
    · obtain ⟨name, isName, rfl⟩ := List.mem_map.mp member
      exact all name isName
  intro declaration member
  simp only [bindingsOf] at member
  split at member
  · split at member
    · exact ofNames (Place.node_mem_of_mem_boundInField held) declaration member
    · simp [Bindings.only] at member
  split at member
  · split at member
    · exact ofNames (Place.node_mem_of_mem_boundInField held) declaration member
    · simp [Bindings.only] at member
  split at member
  · refine ofNames ?_ declaration member
    intro name isName
    exact Place.mem_nodes_of_field? (Option.mem_toList.mp isName) held
  split at member
  · obtain ⟨name, isLocal, rfl⟩ := List.mem_map.mp member
    rcases Option.or_eq_some_iff.mp (Option.mem_toList.mp isLocal) with found | ⟨-, found⟩
    · exact Place.mem_nodes_of_field? found held
    · exact Place.mem_nodes_of_field? found held
  split at member
  · refine ofNames ?_ declaration member
    intro name isName
    have isChild := Place.node_mem_of_mem_namedChildren (List.mem_of_mem_filter isName)
    exact Node.mem_nodes_of_mem_children isChild.1 held
  split at member
  · simp [Bindings.only] at member
  split at member
  · simp [Bindings.only] at member
  · simp [Bindings.only] at member

theorem located_unusedDeclarations {places : List Place} {bound : List (Nat × Nat)}
    (held : ∀ place ∈ places, place.node ∈ context.source.root.nodes) :
    ∀ finding ∈ unusedDeclarations context places bound,
      finding.Located context.source false := by
  intro finding member
  obtain ⟨declaration, isDeclared, found⟩ := List.mem_filterMap.mp member
  obtain ⟨place, isPlace, declaredHere⟩ := List.mem_flatMap.mp isDeclared
  have nameHeld := mem_nodes_of_mem_declared (held place isPlace) declaration declaredHere
  dsimp only at found
  split at found
  · simp at found
  · split at found
    · rw [← Option.some.inj found]
      exact .node _ nameHeld
    · rw [← Option.some.inj found]
      exact .node _ nameHeld

theorem located_unusedParameters {bound : List (Nat × Nat)} {function : Place}
    (held : function.node ∈ context.source.root.nodes) :
    ∀ finding ∈ unusedParameters context bound function,
      finding.Located context.source false := by
  intro finding member
  obtain ⟨name, isUnused, rfl⟩ := List.mem_map.mp member
  obtain ⟨group, isLast, isName⟩ := List.mem_flatten.mp (List.mem_of_mem_filter isUnused)
  have inGroups := List.mem_reverse.mp
    ((List.takeWhile_sublist _).subset (List.mem_reverse.mp isLast))
  exact .node _ (Place.node_mem_of_mem_parameterGroups held group
    (List.mem_of_mem_filter inGroups) name isName)

theorem finish_eq_ok_iff (state : noUnusedVars.State) {findings : List Finding} :
    noUnusedVars.finish context state = .ok findings ↔
      (∀ place ∈ context.source.walk, isFollowed place = true) ∧
        unusedNames context = findings := by
  simp only [noUnusedVars, Rule.atEnd, ← List.all_eq_true]
  split
  · rename_i followed
    simp [followed]
  · rename_i tooDeep
    simp [tooDeep]

theorem noUnusedVars_finds : noUnusedVars.Finds context context.Locates := by
  apply Rule.atEnd_finds
  intro findings checked finding member
  have walked : ∀ place ∈ context.source.walk,
      place.node ∈ context.source.root.nodes :=
    fun place isPlace => Place.node_mem_of_mem_walk isPlace
  rw [← ((finish_eq_ok_iff ()).mp checked).2] at member
  rcases List.mem_append.mp member with inDeclarations | inParameters
  · exact located_unusedDeclarations walked finding inDeclarations
  · obtain ⟨function, isFunction, here⟩ := List.mem_flatMap.mp inParameters
    exact located_unusedParameters (walked function (List.mem_of_mem_filter isFunction))
      finding here

end UnusedNames

namespace DuplicateBlocks

theorem noDuplicateCode_finds : noDuplicateCode.Finds context context.Locates where
  entering := by
    intro place table next findings held entered
    simp only [noDuplicateCode] at entered
    split at entered
    · exact Answer.forall_of_silent entered
    · rw [← (Prod.mk.inj (Except.ok.inj entered)).2]
      simpa using .node _ held
  leaving := fun _ _ _ _ _ => Answer.forall_of_silent
  finishing := fun _ _ => forall_of_ok_nil

end DuplicateBlocks

end Tree

end ScriptLint
