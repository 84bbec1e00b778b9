import LocaleRegistrar.Python.Grammar.Pattern

/-!
The rules of the grammar, tied together. Every nested rule is reached after a token, so as many
levels of rules as there are tokens are enough for a line.
-/

namespace LocaleRegistrar.Python.Grammar

/-- The rules whose nested rules are `r`. -/
def Rules.above (r : Rules) : Rules where
  primary := r.primaryRule
  factor := r.factorRule
  bitwiseOr := r.bitwiseOrRule
  inversion := r.inversionRule
  disjunction := r.disjunctionRule
  expression := r.expressionRule
  field := r.templateField
  pattern := r.patternRule

/-- The rules that nest at most `depth` levels deep. -/
def rules : Nat → Rules
  | 0 => ⟨failure, failure, failure, failure, failure, failure, failure, failure⟩
  | depth + 1 => (rules depth).above

end LocaleRegistrar.Python.Grammar
