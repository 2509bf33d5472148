import ScriptLint.Proofs.Config.Options
import ScriptLint.Proofs.Engine.Lint
import ScriptLint.Proofs.Rules.LineLength
import ScriptLint.Proofs.Rules.Padding
import ScriptLint.Proofs.Rules.Quotes
import ScriptLint.Rules.Book

/-!
# The rules of the book at work

Every rule of the book has its findings located in the source, and under options
that were accepted it answers along every traversal of an ordered tree if and only if it
meets no limit of calls or digits.
-/

namespace ScriptLint

namespace RuleBook

theorem mem_of_rule? {book : RuleBook} {name : String} {rule : Rule}
    (known : book.rule? name = some rule) : (name, rule) ∈ book := by
  obtain ⟨⟨first, held⟩, found, rfl⟩ := Option.map_eq_some_iff.mp known
  obtain rfl : first = name := by simpa using List.find?_some found
  exact List.mem_of_find?_eq_some found

variable {rule : Rule} {context : RuleContext}

theorem standard_finds {name : String} (member : (name, rule) ∈ standard)
    (aligned : context.source.Aligned) :
    rule.Finds context (Finding.Located context.source rule.fixable) := by
  simp only [standard, core, List.cons_append, List.nil_append, List.mem_cons,
    List.not_mem_nil, or_false, Prod.mk.injEq] at member
  rcases member with ⟨-, rfl⟩ | ⟨-, rfl⟩ | ⟨-, rfl⟩ | ⟨-, rfl⟩ | ⟨-, rfl⟩ | ⟨-, rfl⟩ |
    ⟨-, rfl⟩ | ⟨-, rfl⟩ | ⟨-, rfl⟩ | ⟨-, rfl⟩ | ⟨-, rfl⟩ | ⟨-, rfl⟩ | ⟨-, rfl⟩ |
    ⟨-, rfl⟩ | ⟨-, rfl⟩ | ⟨-, rfl⟩ | ⟨-, rfl⟩
  · exact CamelCase.camelCase_finds
  · exact Limits.tally_finds
  · exact Switches.defaultCase_finds
  · exact Switches.defaultCaseLast_finds
  · exact Statements.strictEquality_finds
  · exact Statements.initDeclarations_finds
  · exact Limits.maxDepth_finds
  · exact LineLength.maxLen_finds
  · exact Limits.maxParams_finds
  · exact Limits.tally_finds
  · exact Statements.noConsole_finds
  · exact Statements.noDebugger_finds
  · exact UnusedNames.noUnusedVars_finds
  · exact Statements.noVar_finds
  · exact Padding.paddingLines_finds aligned
  · exact Quotes.quotes_finds aligned
  · exact DuplicateBlocks.noDuplicateCode_finds

end RuleBook

/-- The messages of a pass of the book's rules come from located findings of rules
of the book. -/
theorem RuleConfig.of_mem_run {source : Source} {config : RuleConfig}
    {emitted : List Message} (aligned : source.Aligned)
    (ran : Pass.run (config.activate RuleBook.standard source) source.root = .ok emitted) :
    ∀ message ∈ emitted, ∃ (context : RuleContext) (rule : Rule) (finding : Finding),
      (context.rule, rule) ∈ RuleBook.standard ∧ context.source = source ∧
        finding.Located source rule.fixable ∧ context.message finding = .ok message := by
  intro message member
  obtain ⟨active, atWork, parts, spoken, part, isPart, said⟩ :=
    Pass.of_mem_run ran message member
  obtain ⟨name, setting, rule, level, -, known, -, -, rfl⟩ := of_mem_activate atWork
  have inBook := RuleBook.mem_of_rule? known
  have finds : rule.Finds ⟨name, level.number, setting.options, source, rule.fixable⟩
      (Finding.Located source rule.fixable) := RuleBook.standard_finds inBook aligned
  obtain ⟨finding, located, told⟩ := ActiveRule.of_mem_voice finds
    Visit.node_mem_of_mem_ofRoot spoken part isPart message said
  exact ⟨_, rule, finding, inBook, rfl, located, told⟩

end ScriptLint
