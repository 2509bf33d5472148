import ScriptLint.Proofs.Engine.Along
import ScriptLint.Proofs.Engine.Voice

/-!
# Rules under a maximum

What a text is told by one of the rules that measure against a maximum, once it is
known which places the rule finds along the traversal of the tree.
-/

namespace ScriptLint.Limits

def contextOf (name : String) (level : Level) (limit : Int) (source : Source) : RuleContext :=
  ⟨name, level.number, [("max", .int limit)], source, false⟩

theorem maximum_contextOf (name : String) (level : Level) (limit : Int) (source : Source)
    (default : Int) : maximum (contextOf name level limit source) default = limit := by
  simp [maximum, contextOf, Options.integer, getNamed?]

theorem validate_maximum (name : String) {limit : Int} (positive : 1 ≤ limit) :
    Options.validate maximumOption name [("max", .int limit)] = .ok () := by
  have notRefused : ¬limit ≤ 0 := by omega
  have accepted : OptionType.count.validate name "max" (.int limit) = .ok () := by
    simp [OptionType.validate, notRefused]
  have listed : getNamed? maximumOption "max" = some .count := rfl
  simp only [Options.validate, listed, accepted]
  rfl

theorem exists_lintText_maximum {parse : Parser} {name path : String} {text : List Char}
    {source : Source} {severity : Value} {level : Level} {limit : Int} {rule : Rule}
    {last : rule.State} {places : List Place} {finding : Place → Finding}
    (known : RuleBook.standard.rule? name = some rule) (unfixed : rule.fixable = false)
    (measured : rule.options = maximumOption)
    (placed : ∀ place, ∃ message,
      (contextOf name level limit source).message (finding place) = .ok message)
    (found : along (rule.step (contextOf name level limit source)) rule.initial
      (Visit.ofRoot source.root) = .ok (last, places.map finding))
    (finished : rule.finish (contextOf name level limit source) last = .ok [])
    (sourced : Source.ofText parse (Path.ofString path) text = source)
    (clean : source.problem? = none) (isLevel : severity.level? = some level)
    (on : level ≠ .off) (positive : 1 ≤ limit) :
    ∃ emitted,
      lintText parse RuleBook.standard [(name, ⟨severity, [("max", .int limit)]⟩)] path text =
        .ok (.ofMessages text emitted) ∧
      (contextOf name level limit source).messages (places.map finding) = .ok emitted ∧
      emitted.map (·.text) = places.map fun place => (finding place).text := by
  obtain ⟨emitted, told⟩ : ∃ emitted,
      (contextOf name level limit source).messages (places.map finding) = .ok emitted := by
    apply RuleContext.exists_messages
    intro found member
    obtain ⟨place, -, rfl⟩ := List.mem_map.mp member
    exact placed place
  have texts := RuleContext.map_text_messages told
  rw [List.map_map] at texts
  have ran := Pass.run_singleton found finished told
  have accepted : Options.validate rule.options name [("max", .int limit)] = .ok () := by
    rw [measured]
    exact validate_maximum name positive
  subst sourced
  rw [contextOf, ← unfixed] at ran
  exact ⟨emitted, lintText_singleton known accepted isLevel on clean ran, told, texts⟩

end ScriptLint.Limits
