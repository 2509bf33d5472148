import Mathlib.Data.List.Triplewise
import ScriptLint.Proofs.FixOrder
import ScriptLint.Proofs.Rules.Padding
import ScriptLint.Proofs.Rules.Quotes

/-!
# Where fixes lie

Literals are replaced as a whole, and line breaks are inserted between consecutive
statements.  In a tree whose literals hold no literals or blocks, and whose blocks
hold only comments and tokens between their statements, such fixes lie apart: those
below a node stay in its range, those below different children follow each other, and
an insertion has on either side what belongs to other children.
-/

namespace ScriptLint

namespace Node

def isStatement (block child : Node) : Bool :=
  if block.kind = "switch_case" || block.kind = "switch_default" then
    child.kind ≠ "comment" && child.field = some "body"
  else child.kind ≠ "comment" && child.named

theorem statements_eq_filter (block : Node) :
    block.statements = block.children.filter block.isStatement := by
  unfold statements isStatement
  split
  · rw [inField, List.filter_filter]
  · rw [codeChildren, namedChildren, List.filter_filter]

/-- Only comments and tokens lie between the statements of a block. -/
def SeparatesStatements (block : Node) : Prop :=
  block.children.Triplewise fun first middle last =>
    block.isStatement first = true → block.isStatement last = true →
      block.isStatement middle = true ∨ middle.kind = "comment" ∨ middle.named = false

/-- Whether a node is a string, a comment or a template without substitutions. -/
def isSealed (node : Node) : Bool :=
  node.kind = "string" || node.kind = "comment" ||
    node.kind = "template_string" && Quotes.isPlainTemplate node

/-- The kinds of nodes at which fixes may arise. -/
def fixedKinds : List String :=
  "string" :: "template_string" :: Padding.containerKinds

/-- The tree is nested, only comments and tokens lie between the statements of its
blocks, and no literal, template or block lies below a sealed node. -/
structure IsTidy (tree : Node) : Prop where
  nested : tree.IsNested
  separated : ∀ block ∈ tree.nodes, Padding.containerKinds.contains block.kind = true →
    block.SeparatesStatements
  clear : ∀ node ∈ tree.nodes, node.isSealed = true →
    ∀ inner ∈ nodesOf node.children, inner.kind ∉ fixedKinds

/-- Around two consecutive statements of a block, its children are those up to the
first one, those between them and those from the second one on. -/
theorem exists_between {block previous current : Node}
    (adjacent : [previous, current] <:+: block.statements) :
    ∃ before between after,
      block.children = before ++ previous :: (between ++ current :: after) ∧
        block.isStatement previous = true ∧ block.isStatement current = true ∧
          ∀ child ∈ between, ¬ block.isStatement child = true := by
  obtain ⟨earlier, later, whole⟩ := adjacent
  rw [statements_eq_filter, List.append_assoc] at whole
  obtain ⟨first, rest, children, -, inRest⟩ := List.filter_eq_append_iff.mp whole.symm
  obtain ⟨skipped, behind, rfl, -, isPrevious, inBehind⟩ := List.filter_eq_cons_iff.mp inRest
  obtain ⟨between, after, rfl, noStatement, isCurrent, -⟩ :=
    List.filter_eq_cons_iff.mp inBehind
  refine ⟨first ++ skipped, between, after, ?_, isPrevious, isCurrent, noStatement⟩
  rw [children, List.append_assoc]

end Node

/-- A fix in the range of a node, in characters. -/
def Fix.Inside (source : Source) (node : Node) (fix : Fix) : Prop :=
  (charsEndingBy source.parsed node.startByte : Int) ≤ fix.start ∧ fix.start ≤ fix.stop ∧
    fix.stop ≤ charsEndingBy source.parsed node.endByte

theorem Fix.Inside.mono {source : Source} {inner outer : Node} {fix : Fix}
    (within : inner.IsInside outer) (inside : fix.Inside source inner) :
    fix.Inside source outer := by
  obtain ⟨starts, proper, ends⟩ := inside
  have first := charsEndingBy_mono source.parsed within.1
  have last := charsEndingBy_mono source.parsed within.2
  exact ⟨by omega, proper, by omega⟩

/-- Fixes of nodes that follow each other lie apart. -/
theorem Fix.Inside.apart {source : Source} {first second : Node} {left right : Fix}
    (ordered : first.endByte ≤ second.startByte) (inFirst : left.Inside source first)
    (inSecond : right.Inside source second) : left.Apart right := by
  have between := charsEndingBy_mono source.parsed ordered
  obtain ⟨-, -, ends⟩ := inFirst
  obtain ⟨starts, -, -⟩ := inSecond
  exact .inl (by omega)

def Rule.fixesAt (rule : Rule) (context : RuleContext) (place : Place) : List Fix :=
  (rule.foundAt context place).filterMap (·.fix)

section Places

variable {context : RuleContext} {place : Place}

theorem Quotes.of_mem_fixesAt (aligned : context.source.Aligned) {fix : Fix}
    (member : fix ∈ quotes.fixesAt context place) :
    (place.kind = "string" ∨ place.kind = "template_string") ∧
      place.node.isSealed = true ∧ fix.Inside context.source place.node ∧
      quotes.fixesAt context place = [fix] := by
  obtain ⟨finding, found, attached⟩ := List.mem_filterMap.mp member
  obtain ⟨watched, next, entered⟩ := Rule.of_mem_foundAt found
  have literal : place.kind = "string" ∨ place.kind = "template_string" := by
    simpa [quotes, Rule.onEntering] using watched
  rcases of_enter_quotes aligned entered with nothing | ⟨text, written, single, ordered, plain⟩
  · simp [nothing] at found
  · have only : quotes.fixesAt context place =
        [⟨charsEndingBy context.source.parsed place.node.startByte,
          charsEndingBy context.source.parsed place.node.endByte, written⟩] := by
      rw [Rule.fixesAt, single]
      rfl
    rw [only, List.mem_singleton] at member
    subst member
    refine ⟨literal, ?_, ⟨by dsimp only; omega, by dsimp only; omega, by dsimp only; omega⟩,
      only⟩
    rcases literal with isString | isTemplate
    · have kind : place.node.kind = "string" := isString
      simp [Node.isSealed, kind]
    · have kind : place.node.kind = "template_string" := isTemplate
      simp [Node.isSealed, kind, plain isTemplate]

/-- A blank line is inserted between two consecutive statements of a block. -/
theorem Padding.of_mem_fixesAt (aligned : context.source.Aligned) {fix : Fix}
    (member : fix ∈ paddingLines.fixesAt context place) :
    containerKinds.contains place.kind = true ∧ fix.start = fix.stop ∧
      ∃ previous current, [previous, current] <:+: place.node.statements ∧
        (charsEndingBy context.source.parsed previous.endByte : Int) ≤ fix.start ∧
        (previous.endByte ≤ current.startByte →
          fix.stop ≤ charsEndingBy context.source.parsed current.startByte) := by
  obtain ⟨finding, found, attached⟩ := List.mem_filterMap.mp member
  obtain ⟨watched, next, entered⟩ := Rule.of_mem_foundAt found
  obtain ⟨previous, current, adjacent, about⟩ := of_enter_paddingLines entered finding found
  rcases about with ⟨text, rfl⟩ | ⟨text, made, blank, rfl⟩
  · simp [RuleContext.about] at attached
  · obtain rfl : made = fix := Option.some.inj attached
    obtain ⟨offset, starts, stops, -, behind, before⟩ := of_blankLineFix aligned blank
    refine ⟨watched, starts.trans stops.symm, previous, current, adjacent, by omega, ?_⟩
    intro ordered
    have most := before ordered
    omega

end Places

/-- The fixes of both rules at a place and below it. -/
def fixesBelow (quoting padding : RuleContext) (place : Place) : List Fix :=
  place.walk.flatMap fun here =>
    Quotes.quotes.fixesAt quoting here ++ Padding.paddingLines.fixesAt padding here

section Below

variable {source : Source} {quoting padding : RuleContext} {tree : Node} {place : Place}

theorem fixesBelow_eq (quoting padding : RuleContext) (place : Place) :
    fixesBelow quoting padding place =
      (Quotes.quotes.fixesAt quoting place ++ Padding.paddingLines.fixesAt padding place) ++
        place.namedChildren.flatMap (fixesBelow quoting padding) := by
  conv_lhs => rw [fixesBelow, Place.walk_eq, List.flatMap_cons, List.flatMap_assoc]
  rfl

theorem fixesBelow_eq_nil (quotes : quoting.source.Aligned) (blanks : padding.source.Aligned)
    (clear : ∀ inner ∈ place.node.nodes, inner.kind ∉ Node.fixedKinds) :
    fixesBelow quoting padding place = [] := by
  apply List.flatMap_eq_nil_iff.mpr
  intro here member
  have unfixed := clear here.node (Place.node_mem_of_mem_walk member)
  apply List.append_eq_nil_iff.mpr
  constructor
  · apply List.eq_nil_iff_forall_not_mem.mpr
    intro fix isFix
    obtain ⟨isString | isTemplate, -⟩ := Quotes.of_mem_fixesAt quotes isFix
    · exact unfixed (List.mem_cons.mpr (.inl isString))
    · exact unfixed (List.mem_cons_of_mem _ (List.mem_cons.mpr (.inl isTemplate)))
  · apply List.eq_nil_iff_forall_not_mem.mpr
    intro fix isFix
    obtain ⟨isBlock, -⟩ := Padding.of_mem_fixesAt blanks isFix
    exact unfixed (List.mem_cons_of_mem _ (List.mem_cons_of_mem _
      (List.contains_iff_mem.mp isBlock)))

theorem fixesBelow_children_of_isSealed (quotes : quoting.source.Aligned)
    (blanks : padding.source.Aligned) (tidy : tree.IsTidy) (held : place.node ∈ tree.nodes)
    (isSealed : place.node.isSealed = true) :
    place.namedChildren.flatMap (fixesBelow quoting padding) = [] := by
  apply List.flatMap_eq_nil_iff.mpr
  intro child isChild
  apply fixesBelow_eq_nil quotes blanks
  intro inner isInner
  apply tidy.clear place.node held isSealed inner
  exact Node.mem_nodesOf.mpr
    ⟨child.node, (Place.node_mem_of_mem_namedChildren isChild).1, isInner⟩

theorem fixesBelow_of_comment (quotes : quoting.source.Aligned)
    (blanks : padding.source.Aligned) (tidy : tree.IsTidy) (held : place.node ∈ tree.nodes)
    (isComment : place.node.kind = "comment") : fixesBelow quoting padding place = [] := by
  apply fixesBelow_eq_nil quotes blanks
  intro inner isInner
  rw [Node.nodes_eq] at isInner
  rcases List.mem_cons.mp isInner with rfl | isBelow
  · rw [isComment]
    decide
  · exact tidy.clear place.node held (by simp [Node.isSealed, isComment]) inner isBelow

theorem Padding.inside_of_mem_fixesAt (blanks : padding.source.Aligned) (tidy : tree.IsTidy)
    (held : place.node ∈ tree.nodes) :
    ∀ fix ∈ paddingLines.fixesAt padding place, fix.Inside padding.source place.node := by
  intro fix member
  obtain ⟨-, empty, previous, current, adjacent, behind, before⟩ :=
    of_mem_fixesAt blanks member
  have isChild : ∀ child ∈ [previous, current], child ∈ place.node.children := by
    intro child isOne
    exact place.node.statements_sublist.subset (adjacent.subset isOne)
  have ordered : previous.endByte ≤ current.startByte := by
    have pair := (tidy.nested.1.pairwise_statements held).sublist adjacent.sublist
    exact List.rel_of_pairwise_cons pair List.mem_cons_self
  have first := tidy.nested.2 place.node held previous (isChild previous (by simp))
  have second := tidy.nested.2 place.node held current (isChild current (by simp))
  have firstProper := (tidy.nested.1 previous
    (Node.mem_nodes_of_mem_children (isChild previous (by simp)) held)).1
  have secondProper := (tidy.nested.1 current
    (Node.mem_nodes_of_mem_children (isChild current (by simp)) held)).1
  have starts := charsEndingBy_mono padding.source.parsed (first.1.trans firstProper)
  have ends := charsEndingBy_mono padding.source.parsed (secondProper.trans second.2)
  have most := before ordered
  exact ⟨by omega, by omega, by omega⟩

theorem inside_of_mem_fixesBelow {place : Place} (quotes : quoting.source = source)
    (blanks : padding.source = source) (aligned : source.Aligned) (tidy : tree.IsTidy)
    (held : place.node ∈ tree.nodes) :
    ∀ fix ∈ fixesBelow quoting padding place, fix.Inside source place.node := by
  intro fix member
  rw [fixesBelow_eq] at member
  rcases List.mem_append.mp member with own | below
  · rcases List.mem_append.mp own with isQuote | isBlank
    · subst quotes
      exact (Quotes.of_mem_fixesAt aligned isQuote).2.2.1
    · subst blanks
      exact Padding.inside_of_mem_fixesAt aligned tidy held fix isBlank
  · obtain ⟨child, isChild, isFix⟩ := List.mem_flatMap.mp below
    have childMember := (Place.node_mem_of_mem_namedChildren isChild).1
    have childHeld := Node.mem_nodes_of_mem_children childMember held
    apply (inside_of_mem_fixesBelow quotes blanks aligned tidy childHeld fix isFix).mono
    exact tidy.nested.2 place.node held child.node childMember
termination_by place.node.size
decreasing_by exact Place.mem_namedChildren_size_lt isChild

theorem Padding.apart_of_mem_fixesBelow (quotes : quoting.source = source)
    (blanks : padding.source = source) (aligned : source.Aligned) (tidy : tree.IsTidy)
    (held : place.node ∈ tree.nodes) {fix other : Fix} {child : Place}
    (isBlank : fix ∈ paddingLines.fixesAt padding place)
    (isChild : child ∈ place.namedChildren)
    (isOther : other ∈ fixesBelow quoting padding child) : fix.Apart other := by
  obtain ⟨childMember, named⟩ := Place.node_mem_of_mem_namedChildren isChild
  have childHeld := Node.mem_nodes_of_mem_children childMember held
  obtain ⟨starts, -, ends⟩ :=
    inside_of_mem_fixesBelow quotes blanks aligned tidy childHeld other isOther
  obtain ⟨isBlock, -, previous, current, adjacent, behind, before⟩ :=
    of_mem_fixesAt (blanks ▸ aligned) isBlank
  rw [blanks] at behind before
  obtain ⟨earlier, between, later, children, isPrevious, isCurrent, noStatement⟩ :=
    Node.exists_between adjacent
  have ordered := tidy.nested.1.pairwise_children held
  have separated := tidy.separated place.node held isBlock
  rw [Node.SeparatesStatements, children, List.triplewise_append, List.triplewise_cons]
    at separated
  rw [children, List.pairwise_append, List.pairwise_cons, List.pairwise_append,
    List.pairwise_cons] at ordered
  obtain ⟨-, ⟨fromPrevious, -, ⟨fromCurrent, -⟩, -⟩, upToPrevious⟩ := ordered
  have most := before (fromPrevious current (by simp))
  have atPrevious := (tidy.nested.1 previous (Node.mem_nodes_of_mem_children
    (by rw [children]; simp) held)).1
  have atCurrent := (tidy.nested.1 current (Node.mem_nodes_of_mem_children
    (by rw [children]; simp) held)).1
  rw [children, List.mem_append, List.mem_cons, List.mem_append, List.mem_cons]
    at childMember
  have mono : ∀ {first second : Nat}, first ≤ second →
      charsEndingBy source.parsed first ≤ charsEndingBy source.parsed second :=
    charsEndingBy_mono source.parsed
  -- Only a child between the two statements could have fixes around the insertion, and
  -- such a child is a comment or a token.
  rcases childMember with isEarlier | isPreviousNode | isBetween | isCurrentNode | isLater
  · have order := upToPrevious child.node isEarlier previous List.mem_cons_self
    have chars := mono (order.trans atPrevious)
    exact .inr (by omega)
  · rw [isPreviousNode] at ends
    exact .inr (by omega)
  · have unlike := (List.pairwise_append.mp separated.2.1.1).2.2 child.node isBetween
      current List.mem_cons_self isPrevious isCurrent
    rcases unlike with isStatement | isComment | unnamed
    · exact absurd isStatement (noStatement child.node isBetween)
    · rw [fixesBelow_of_comment (quotes ▸ aligned) (blanks ▸ aligned) tidy childHeld isComment]
        at isOther
      simp at isOther
    · simp [named] at unnamed
  · rw [isCurrentNode] at starts
    exact .inl (by omega)
  · have order := fromCurrent child.node isLater
    have chars := mono (atCurrent.trans order)
    exact .inl (by omega)

theorem pairwise_apart_fixesAt (quotes : quoting.source.Aligned)
    (blanks : padding.source.Aligned) :
    (Quotes.quotes.fixesAt quoting place ++
      Padding.paddingLines.fixesAt padding place).Pairwise Fix.Apart := by
  cases quoted : Quotes.quotes.fixesAt quoting place with
  | nil =>
      -- Insertions are empty, so any two of them lie apart.
      apply List.pairwise_of_forall_mem_list
      intro left isLeft right isRight
      have leftEmpty := (Padding.of_mem_fixesAt blanks isLeft).2.1
      have rightEmpty := (Padding.of_mem_fixesAt blanks isRight).2.1
      unfold Fix.Apart
      omega
  | cons fix rest =>
      have isQuote : fix ∈ Quotes.quotes.fixesAt quoting place := by
        rw [quoted]
        exact List.mem_cons_self
      obtain ⟨isLiteral, -, -, single⟩ := Quotes.of_mem_fixesAt quotes isQuote
      have noBlanks : Padding.paddingLines.fixesAt padding place = [] := by
        apply List.eq_nil_iff_forall_not_mem.mpr
        intro blank isBlank
        obtain ⟨isBlock, -⟩ := Padding.of_mem_fixesAt blanks isBlank
        rcases isLiteral with isString | isTemplate
        · simp [isString, Padding.containerKinds] at isBlock
        · simp [isTemplate, Padding.containerKinds] at isBlock
      rw [← quoted, single, noBlanks, List.append_nil]
      exact List.pairwise_singleton _ _

/-- The fixes of both rules below a node of a tidy tree lie apart. -/
theorem pairwise_apart_fixesBelow {place : Place} (quotes : quoting.source = source)
    (blanks : padding.source = source) (aligned : source.Aligned) (tidy : tree.IsTidy)
    (held : place.node ∈ tree.nodes) :
    (fixesBelow quoting padding place).Pairwise Fix.Apart := by
  rw [fixesBelow_eq, List.pairwise_append]
  refine ⟨pairwise_apart_fixesAt (quotes ▸ aligned) (blanks ▸ aligned), ?_, ?_⟩
  · rw [List.pairwise_flatMap]
    constructor
    · intro child isChild
      apply pairwise_apart_fixesBelow quotes blanks aligned tidy
      exact Node.mem_nodes_of_mem_children (Place.node_mem_of_mem_namedChildren isChild).1 held
    · apply (Place.pairwise_namedChildren tidy.nested.1 held).imp_of_mem
      intro first second isFirst isSecond ordered left isLeft right isRight
      have inTree : ∀ child ∈ place.namedChildren, child.node ∈ tree.nodes :=
        fun child isChild => Node.mem_nodes_of_mem_children
          (Place.node_mem_of_mem_namedChildren isChild).1 held
      exact Fix.Inside.apart ordered
        (inside_of_mem_fixesBelow quotes blanks aligned tidy (inTree first isFirst) left isLeft)
        (inside_of_mem_fixesBelow quotes blanks aligned tidy (inTree second isSecond) right
          isRight)
  · intro own isOwn other isOther
    rcases List.mem_append.mp isOwn with isQuote | isBlank
    · have isSealed := (Quotes.of_mem_fixesAt (quotes ▸ aligned) isQuote).2.1
      rw [fixesBelow_children_of_isSealed (quotes ▸ aligned) (blanks ▸ aligned) tidy held
        isSealed] at isOther
      simp at isOther
    · obtain ⟨child, isChild, isBelow⟩ := List.mem_flatMap.mp isOther
      exact Padding.apart_of_mem_fixesBelow quotes blanks aligned tidy held isBlank isChild
        isBelow
termination_by place.node.size
decreasing_by exact Place.mem_namedChildren_size_lt isChild

end Below

end ScriptLint
