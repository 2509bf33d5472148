import ScriptLint.Proofs.Rules.Located
import ScriptLint.Proofs.Source.Span
import ScriptLint.Rules.Quotes

/-!
# Findings about quotes

A fix replaces a whole literal, which is a string or a template without
substitutions.  The rule answers if its style is one that it knows.
-/

namespace ScriptLint

theorem Text.length_slice_le {α : Type} (items : List α) (start stop : Nat) :
    (slice items start stop).length ≤ stop - start := by
  rw [slice, sliceTo, clamp_natCast, clamp_natCast, List.length_drop, List.length_take]
  omega

namespace Quotes

variable {context : RuleContext} {place : Place} {findings : List Finding}

/-- Whether a template has no substitution among its constructs. -/
def isPlainTemplate (node : Node) : Bool :=
  !node.namedChildren.any (·.kind = "template_substitution")

/-- A literal is left alone or replaced as a whole, and only a template without
substitutions is. -/
theorem of_enter_quotes (aligned : context.source.Aligned) {state next : quotes.State}
    (entered : quotes.enter context place state = .ok (next, findings)) :
    findings = [] ∨ ∃ text written,
      findings = [context.fixing place.node text
        ⟨charsEndingBy context.source.parsed place.node.startByte,
          charsEndingBy context.source.parsed place.node.endByte, written⟩] ∧
      charsEndingBy context.source.parsed place.node.startByte ≤
        charsEndingBy context.source.parsed place.node.endByte ∧
      (place.kind = "template_string" → isPlainTemplate place.node = true) := by
  simp only [quotes, Rule.onEntering, aligned.span?_eq] at entered
  split at entered
  · rename_i found checked
    obtain ⟨-, rfl⟩ := Prod.mk.inj (Except.ok.inj entered)
    split at checked
    · simp at checked
    split at checked
    · exact .inl (Except.ok.inj checked).symm
    split at checked
    · exact .inl (Except.ok.inj checked).symm
    rename_i noTemplate
    split at checked
    · exact .inl (Except.ok.inj checked).symm
    · rename_i long
      refine .inr ⟨_, _, (Except.ok.inj checked).symm, ?_, ?_⟩
      · simp only [Bool.or_eq_true, decide_eq_true_eq, not_or] at long
        have most := Text.length_slice_le context.source.text
          (charsEndingBy context.source.parsed place.node.startByte)
          (charsEndingBy context.source.parsed place.node.endByte)
        omega
      · intro isTemplate
        simp only [isTemplate, decide_true, Bool.true_and, usesTemplateFeatures,
          Bool.or_eq_true, not_or] at noTemplate
        simpa [isPlainTemplate] using noTemplate.1.2
  · simp at entered

theorem quotes_finds (aligned : context.source.Aligned) :
    quotes.Finds context (Finding.Located context.source true) where
  entering := by
    intro place state next findings held entered
    rcases of_enter_quotes aligned entered with rfl | ⟨text, written, rfl, ordered, -⟩
    · simp
    · rw [List.forall_mem_singleton]
      have inside := charsEndingBy_le_length context.source.parsed place.node.endByte
      rw [aligned.length_eq] at inside
      exact .fixed text held rfl (by dsimp only; omega) (by dsimp only; omega)
        (by dsimp only; omega)
  leaving := fun _ _ _ _ _ => Answer.forall_of_silent
  finishing := fun _ _ => forall_of_ok_nil

end Quotes

end ScriptLint
