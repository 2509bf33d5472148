import ScriptLint.Config.Validation
import ScriptLint.Proofs.Named

/-!
# What accepted options are worth

The options of an accepted setting have values of the declared types.  What a rule
reads from them is therefore its own default or a value that the type admits.
-/

namespace ScriptLint

namespace Options

variable {declared : List (String × OptionType)} {rule : String} {options : Options}

theorem of_validate_eq_ok (accepted : Options.validate declared rule options = .ok ()) :
    ∀ option value, (option, value) ∈ options →
      ∃ type, getNamed? declared option = some type ∧
        type.validate rule option value = .ok () := by
  induction options with
  | nil => simp
  | cons entry rest induction =>
      obtain ⟨first, given⟩ := entry
      rw [Options.validate] at accepted
      cases known : getNamed? declared first with
      | none => simp [known] at accepted
      | some type =>
          rw [known] at accepted
          dsimp only at accepted
          cases checked : type.validate rule first given with
          | error error =>
              rw [checked] at accepted
              simp [bind, Except.bind] at accepted
          | ok done =>
              rw [checked] at accepted
              intro option value member
              rcases List.mem_cons.mp member with same | later
              · obtain ⟨rfl, rfl⟩ := Prod.mk.inj same
                exact ⟨type, known, checked⟩
              · exact induction accepted option value later

variable {name default : String}

theorem validate_of_getNamed? {type : OptionType} {value : Value}
    (accepted : Options.validate declared rule options = .ok ())
    (known : getNamed? declared name = some type)
    (held : getNamed? options name = some value) :
    type.validate rule name value = .ok () := by
  obtain ⟨other, found, checked⟩ :=
    of_validate_eq_ok accepted name value (mem_of_getNamed? held)
  obtain rfl : type = other := Option.some.inj (known.symm.trans found)
  exact checked

theorem integer_of_validate {default : Int}
    (accepted : Options.validate declared rule options = .ok ())
    (known : getNamed? declared name = some .count) :
    options.integer name default = default ∨ 0 < options.integer name default := by
  unfold integer
  split
  · rename_i value held
    have checked := validate_of_getNamed? accepted known held
    simp only [OptionType.validate] at checked
    split at checked
    · simp at checked
    · exact .inr (by omega)
  · exact .inl rfl

end Options

end ScriptLint
