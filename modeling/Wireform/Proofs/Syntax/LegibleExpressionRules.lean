import Wireform.Proofs.Syntax.LegibleRules
import Wireform.Syntax.Grammar.Statement

/-! # Readings of expressions

The rules for patterns, expressions and statements read what can be told by its text. -/

namespace Wireform.Syntax.Rules

open Std.Do Wireform.Text Wireform.Syntax.Phrase Wireform.Syntax.Parser

set_option mvcgen.warning false

variable {rules : Rules} [rules.ReadLegibly]

/-! ## Patterns -/

@[spec]
theorem alternatives_spec : Gives legible rules.alternatives := by
  mvcgen [Rules.alternatives]
  all_goals simp_all

@[spec]
theorem expressionPath_spec : Gives legible rules.expressionPath := by
  mvcgen [Rules.expressionPath]
  all_goals simp_all

@[spec]
theorem constantBlock_spec : Gives legible rules.constantBlock := by
  mvcgen [Rules.constantBlock]
  all_goals simp_all

@[spec]
theorem rangeBound_spec : Gives legible rules.rangeBound := by
  mvcgen [Rules.rangeBound]
  all_goals simp_all

@[spec]
theorem patternDots_spec : Gives legible patternDots := by
  mvcgen [Rules.patternDots]
  all_goals simp_all

@[simp]
theorem legible_rangeDots (closed : Bool) : legible (Tree.ofOperator (rangeDots closed)) := by
  cases closed <;> simp [rangeDots]

@[spec]
theorem rangeAfterBound_spec {first : ExprPhrase} (all : legible first) :
    Gives legible (rules.rangeAfterBound first) := by
  mvcgen [Rules.rangeAfterBound]
  all_goals simp_all

@[spec]
theorem patternList_spec : Gives legible rules.patternList := by
  mvcgen [Rules.patternList]

@[spec]
theorem tuplePattern_spec : Gives legible rules.tuplePattern := by
  mvcgen [Rules.tuplePattern]
  all_goals simp_all

@[simp]
theorem legible_index (number : Nat) : legible (⟨.integer, toString number⟩ : Literal) := by
  have readsBack : Literal.ReadsBack ⟨.integer, toString number⟩ :=
    Literal.readsBack_decimal (fun _ => Nat.isDigit_of_mem_toDigits (by decide) (by decide))
      (by simp)
  exact legible_literalToken (.literal readsBack .start)

instance : Legible Member where
  legible member := legible member.phrase ∧ (member.named = true → legible member.name)

@[simp]
theorem legible_memberPhrase {member : Member} (all : legible member) : legible member.phrase :=
  all.1

@[simp]
theorem legible_memberName {member : Member} (all : legible member) (named : member.named = true) :
    legible member.name := all.2 named

@[simp]
theorem legible_namedMember {name : Name} (identifier : legible name) :
    legible (Member.mk name true) := ⟨Phrase.legible_ofName.mpr identifier, fun _ => identifier⟩

@[simp]
theorem legible_unnamedMember (number : Nat) :
    legible (Member.mk (.plain (toString number)) false) :=
  ⟨legible_ofLiteral.mpr (legible_index number), fun named => by cases named⟩

@[spec]
theorem member_spec : Gives legible member := by
  mvcgen [Rules.member]
  all_goals simp_all
  exact legible_unnamedMember _

@[spec]
theorem fieldPattern_spec {attributes : Phrase} (all : legible attributes) :
    Gives legible (rules.fieldPattern attributes) := by
  mvcgen [Rules.fieldPattern]
  all_goals simp_all +zetaDelta
  · rename_i identifier tokens
    exact PatternPhrase.legible_field all legible_none
      (legible_ite tokens.1 (PatternPhrase.legible_binding identifier.1.1 legible_none))
  · rename_i named found _ _
    exact PatternPhrase.legible_field all legible_none
      (PatternPhrase.legible_binding (found.1.2 named) legible_none)

@[spec]
theorem structPatternFields_spec : Gives legible rules.structPatternFields := by
  have round (rounds : Nat) (trailing : Bool) :
      Gives legible (structPatternFields.go rules rounds trailing) := by
    induction rounds generalizing trailing with
    | zero =>
      mvcgen [Rules.structPatternFields.go]
      all_goals simp_all
    | succ rounds ih =>
      mvcgen [Rules.structPatternFields.go, ih]
      all_goals simp_all
  mvcgen [Rules.structPatternFields, round]

@[spec]
theorem pathPattern_spec : Gives legible rules.pathPattern := by
  mvcgen [Rules.pathPattern]
  all_goals simp_all

@[spec]
theorem namePattern_spec : Gives legible rules.namePattern := by
  mvcgen [Rules.namePattern]
  all_goals simp_all

@[spec]
theorem literalPattern_spec : Gives legible rules.literalPattern := by
  mvcgen [Rules.literalPattern]
  all_goals simp_all

@[spec]
theorem slicePattern_spec : Gives legible rules.slicePattern := by
  mvcgen [Rules.slicePattern]
  all_goals simp_all

@[spec]
theorem leadingDots_spec : Gives legible rules.leadingDots := by
  mvcgen [Rules.leadingDots]
  all_goals simp_all

@[spec]
theorem boxPattern_spec : Gives legible rules.boxPattern := by
  mvcgen [Rules.boxPattern]
  all_goals simp_all

@[spec]
theorem patternRule_spec : Gives legible rules.patternRule := by
  mvcgen [Rules.patternRule]
  all_goals simp_all

/-! ## Operators -/

theorem legible_ahead? {trees : List Tree} {operator : BinaryOperator}
    (found : BinaryOperator.ahead? trees = some operator) :
    legible (Tree.ofOperator operator.symbols) := by
  have among := List.mem_of_find?_eq_some found
  have all : (BinaryOperator.all.all fun operator => operator.symbols.toList.all fun symbol =>
      markCharacters.contains symbol && symbol != '\'') = true := by decide
  exact legible_ofOperator (List.all_eq_true.mp all operator among)

@[spec]
theorem rightOperand_spec (braces : Bool) (strength : Nat) :
    Gives legible (rules.rightOperand braces strength) := by
  have round (rounds : Nat) {right : ExprPhrase} (all : legible right) :
      Gives legible (rightOperand.go rules braces strength rounds right) := by
    induction rounds generalizing right with
    | zero =>
      mvcgen [Rules.rightOperand.go]
    | succ rounds ih =>
      mvcgen [Rules.rightOperand.go, ih]
      all_goals simp_all
  mvcgen [Rules.rightOperand, round]
  all_goals simp_all

@[spec]
theorem rangeFrom_spec (braces : Bool) {first : Option ExprPhrase} (all : legible first) :
    Gives legible (rules.rangeFrom braces first) := by
  mvcgen [Rules.rangeFrom]
  all_goals simp_all

@[spec]
theorem continuedRule_spec (braces : Bool) (strength : Nat) {first : ExprPhrase}
    (all : legible first) : Gives legible (rules.continuedRule braces strength first) := by
  have round (rounds : Nat) {left : ExprPhrase} (leftAll : legible left) :
      Gives legible (continuedRule.go rules braces strength rounds left) := by
    induction rounds generalizing left with
    | zero =>
      mvcgen [Rules.continuedRule.go]
    | succ rounds ih =>
      mvcgen [Rules.continuedRule.go, ih]
      all_goals simp_all
      exact fun _ rightAll _ =>
        ExprPhrase.legible_binary (legible_ahead? (by assumption)) leftAll rightAll
  mvcgen [Rules.continuedRule, round]

/-! ## Blocks and choices -/

@[spec]
theorem subject_spec : Gives legible rules.subject := expression_spec false

@[spec]
theorem alternative_spec (rounds : Nat) : Gives legible (rules.alternative rounds) := by
  induction rounds with
  | zero =>
    mvcgen [Rules.alternative]
  | succ rounds ih =>
    mvcgen [Rules.alternative, ih]
    all_goals simp_all

@[spec]
theorem choice_spec : Gives legible rules.choice := by
  mvcgen [Rules.choice]
  all_goals simp_all

@[spec]
theorem whileLoop_spec {label : Option Name} (identifier : legible label) :
    Gives legible (rules.whileLoop label) := by
  mvcgen [Rules.whileLoop]
  all_goals simp_all

@[spec]
theorem forLoop_spec {label : Option Name} (identifier : legible label) :
    Gives legible (rules.forLoop label) := by
  mvcgen [Rules.forLoop]
  all_goals simp_all

@[spec]
theorem loop_spec {label : Option Name} (identifier : legible label) :
    Gives legible (rules.loop label) := by
  mvcgen [Rules.loop]
  all_goals simp_all

@[spec]
theorem labelled_spec : Gives legible rules.labelled := by
  mvcgen [Rules.labelled]
  all_goals simp_all

/-! ## What follows an operand -/

@[spec]
theorem arguments_spec : Gives legible rules.arguments := by
  mvcgen [Rules.arguments]
  all_goals simp_all

@[spec]
theorem tupleMembers_spec {operand : ExprPhrase} (all : legible operand) :
    Gives legible (tupleMembers operand) := by
  have members (indices : List Nat) : legible
      (indices.foldl (fun operand index => operand.member (indexPhrase index)) operand) := by
    induction indices generalizing operand with
    | nil => exact all
    | cons index rest ih =>
      exact ih (ExprPhrase.legible_member.mpr ⟨all, legible_ofLiteral.mpr (legible_index index)⟩)
  mvcgen [Rules.tupleMembers]
  all_goals simp_all

@[spec]
theorem memberAccess_spec {operand : ExprPhrase} (all : legible operand) :
    Gives legible (rules.memberAccess operand) := by
  mvcgen [Rules.memberAccess]
  all_goals simp_all

@[spec]
theorem applied_spec {first : ExprPhrase} (all : legible first) :
    Gives legible (rules.applied first) := by
  have round (rounds : Nat) {operand : ExprPhrase} (operandAll : legible operand) :
      Gives legible (applied.go rules rounds operand) := by
    induction rounds generalizing operand with
    | zero =>
      mvcgen [Rules.applied.go]
    | succ rounds ih =>
      mvcgen [Rules.applied.go, ih]
      all_goals simp_all
  mvcgen [Rules.applied, round]

/-! ## Operands -/

@[spec]
theorem asyncBlock_spec : Gives legible rules.asyncBlock := by
  mvcgen [Rules.asyncBlock]
  all_goals simp_all

@[spec]
theorem tryBlock_spec : Gives legible rules.tryBlock := by
  mvcgen [Rules.tryBlock]
  all_goals simp_all

@[spec]
theorem unsafeBlock_spec : Gives legible rules.unsafeBlock := by
  mvcgen [Rules.unsafeBlock]
  all_goals simp_all

@[spec]
theorem closureInput_spec : Gives legible rules.closureInput := by
  mvcgen [Rules.closureInput]
  all_goals simp_all

@[spec]
theorem closure_spec (braces : Bool) : Gives legible (rules.closure braces) := by
  have words {binder : Option Binder} (all : legible binder) (constant static async moves : Bool) :
      legible (optionalBinderPhrase binder ++ Written.words
        [(constant, "const"), (static, "static"), (async, "async"), (moves, "move")]) := by
    simp [legible_of_whole (whole_optionalBinder all)]
  simp only [Rules.closure, List.mapM_cons, List.mapM_nil]
  mvcgen
  all_goals simp_all

@[spec]
theorem provided_spec : Gives legible provided := by
  mvcgen [Rules.provided]
  all_goals simp_all

@[spec]
theorem fieldValue_spec : Gives legible rules.fieldValue := by
  mvcgen [Rules.fieldValue]
  all_goals simp_all

@[spec]
theorem structFields_spec : Gives legible rules.structFields := by
  have round (rounds : Nat) (trailing : Bool) :
      Gives legible (structFields.go rules rounds trailing) := by
    induction rounds generalizing trailing with
    | zero =>
      mvcgen [Rules.structFields.go]
      all_goals simp_all
    | succ rounds ih =>
      mvcgen [Rules.structFields.go, ih]
      all_goals simp_all
  mvcgen [Rules.structFields, round]

@[spec]
theorem pathExpression_spec (braces : Bool) : Gives legible (rules.pathExpression braces) := by
  mvcgen [Rules.pathExpression]
  all_goals simp_all

@[spec]
theorem grouping_spec : Gives legible rules.grouping := by
  mvcgen [Rules.grouping]
  all_goals simp_all

@[spec]
theorem arrayExpression_spec : Gives legible rules.arrayExpression := by
  mvcgen [Rules.arrayExpression]
  all_goals simp_all

@[spec]
theorem optionalExpression_spec : Gives legible rules.optionalExpression := by
  mvcgen [Rules.optionalExpression]
  all_goals simp_all

@[simp]
theorem legible_jumpWord {keyword : String} {label : Option Name} (word : legible keyword)
    (identifier : legible label) : legible (jumpWord keyword label) := by
  cases label <;> simp_all [jumpWord]

@[spec]
theorem breakExpression_spec (braces : Bool) : Gives legible (rules.breakExpression braces) := by
  mvcgen [Rules.breakExpression]
  all_goals simp_all

@[spec]
theorem continueExpression_spec : Gives legible continueExpression := by
  mvcgen [Rules.continueExpression]
  all_goals simp_all

@[spec]
theorem valueJump_spec {keyword : String} (word : legible keyword) :
    Gives legible (rules.valueJump keyword) := by
  mvcgen [Rules.valueJump]
  all_goals simp_all

@[spec]
theorem becomeExpression_spec : Gives legible rules.becomeExpression := by
  mvcgen [Rules.becomeExpression]
  all_goals simp_all

@[spec]
theorem letExpression_spec (braces : Bool) : Gives legible (rules.letExpression braces) := by
  mvcgen [Rules.letExpression]
  all_goals simp_all

@[spec]
theorem arm_spec : Gives legible rules.arm := by
  mvcgen [Rules.arm]
  all_goals simp_all

@[spec]
theorem matchExpression_spec : Gives legible rules.matchExpression := by
  mvcgen [Rules.matchExpression]
  all_goals simp_all

@[spec]
theorem atom_spec (braces : Bool) : Gives legible (rules.atom braces) := by
  mvcgen [Rules.atom]
  all_goals simp_all

@[spec]
theorem addressExpression_spec (braces : Bool) :
    Gives legible (rules.addressExpression braces) := by
  mvcgen [Rules.addressExpression]
  all_goals simp_all +zetaDelta

@[spec]
theorem operandRule_spec (braces : Bool) : Gives legible (rules.operandRule braces) := by
  mvcgen [Rules.operandRule]
  all_goals simp_all

@[spec]
theorem boundedOperand_spec : Gives legible rules.boundedOperand := by
  mvcgen [Rules.boundedOperand]
  all_goals simp_all

@[spec]
theorem boundedRule_spec {attributes : Phrase} (all : legible attributes) :
    Gives legible (rules.boundedRule attributes) := by
  mvcgen [Rules.boundedRule]
  all_goals simp_all +zetaDelta

/-! ## Statements -/

@[spec]
theorem localStatement_spec {attributes : Phrase} (all : legible attributes) :
    Gives legible (rules.localStatement attributes) := by
  mvcgen [Rules.localStatement]
  all_goals simp_all

@[spec]
theorem expressionStatement_spec {attributes : Phrase} (all : legible attributes) :
    Gives legible (rules.expressionStatement attributes) := by
  mvcgen [Rules.expressionStatement]
  all_goals simp_all

@[spec]
theorem invocationStatement_spec {attributes : Phrase} (all : legible attributes) :
    Gives legible (invocationStatement attributes) := by
  mvcgen [Rules.invocationStatement]
  all_goals simp_all +zetaDelta

@[spec]
theorem statement_spec : Gives legible rules.statement := by
  mvcgen [Rules.statement]
  all_goals simp_all

@[spec]
theorem statementsRule_spec : Gives legible rules.statementsRule := by
  have round (rounds : Nat) : Gives legible (statementsRule.go rules rounds) := by
    induction rounds with
    | zero =>
      mvcgen [Rules.statementsRule.go]
      all_goals simp_all
    | succ rounds ih =>
      mvcgen [Rules.statementsRule.go, ih]
      all_goals simp_all
  mvcgen [Rules.statementsRule, round]

end Wireform.Syntax.Rules
