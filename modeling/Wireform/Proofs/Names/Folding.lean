import Mathlib.Logic.Relation
import Wireform.Names.Constant

/-! # Folding of constants

The value of a boolean expression is that of the formula which is left when each constant in it is
replaced by what the constant is declared as, and so on, each in its own module. Both depend on how
many constants can be replaced inside one another, and an expression that reaches a constant which
depends on itself has no value at all. -/

namespace Wireform.Syntax

/-- The paths that the value of a boolean expression depends on. -/
def Expr.operands : Expr → List Path
  | .path written => [written]
  | .grouped inner => inner.operands
  | .not operand => operand.operands
  | .binary _ left right => left.operands ++ right.operands
  | _ => []

end Wireform.Syntax

namespace Wireform.Names

open Wireform.Syntax

/-! ## Formulas -/

/-- The operators between truth values. -/
inductive Connective where
  | and | bitAnd | or | bitOr | bitXor | notEqual | equal
  deriving DecidableEq, Repr

namespace Connective

def operator : Connective → BinaryOperator
  | and => .and
  | bitAnd => .bitAnd
  | or => .or
  | bitOr => .bitOr
  | bitXor => .bitXor
  | notEqual => .notEqual
  | equal => .equal

def apply : Connective → Bool → Bool → Bool
  | and, left, right => left && right
  | bitAnd, left, right => left && right
  | or, left, right => left || right
  | bitOr, left, right => left || right
  | bitXor, left, right => left != right
  | notEqual, left, right => left != right
  | equal, left, right => left == right

end Connective

/-- An expression of literals, parentheses and operators alone. -/
inductive Formula where
  | literal (value : Bool)
  | grouped (inner : Formula)
  | not (operand : Formula)
  | binary (connective : Connective) (left right : Formula)
  deriving DecidableEq, Repr

def Formula.value : Formula → Bool
  | literal value => value
  | grouped inner => inner.value
  | not operand => !operand.value
  | binary connective left right => connective.apply left.value right.value

namespace Compilation

theorem booleanOperation_eq_some_iff {operator : BinaryOperator} {left right value : Bool} :
    booleanOperation operator left right = some value ↔
      ∃ connective : Connective, connective.operator = operator ∧
        connective.apply left right = value := by
  constructor
  · intro applies
    cases operator with
    | and => exact ⟨.and, rfl, Option.some.inj applies⟩
    | bitAnd => exact ⟨.bitAnd, rfl, Option.some.inj applies⟩
    | or => exact ⟨.or, rfl, Option.some.inj applies⟩
    | bitOr => exact ⟨.bitOr, rfl, Option.some.inj applies⟩
    | bitXor => exact ⟨.bitXor, rfl, Option.some.inj applies⟩
    | notEqual => exact ⟨.notEqual, rfl, Option.some.inj applies⟩
    | equal => exact ⟨.equal, rfl, Option.some.inj applies⟩
    | _ => cases applies
  · rintro ⟨connective, rfl, rfl⟩
    cases connective <;> simp [Connective.operator, Connective.apply, booleanOperation]

variable (compilation : Compilation)

/-! ## Replacing constants -/

/-- The boolean constant that a path leads to: the module it stands in, and what it is declared as.
Its type has to be written `bool`. -/
def constant? (module : ModulePath) (path : Path) : Option (ModulePath × Expr) :=
  match compilation.resolvePath? module path .value with
  | some (.item owner _ (.constant ty value)) =>
    if isBooleanType ty then some (owner, value) else none
  | _ => none

/-- Replacing constants, at most `nested` of them inside one another, turns an expression of the
module into a formula. -/
inductive FoldsTo : (nested : Nat) → ModulePath → Expr → Formula → Prop where
  | literal {nested : Nat} {module : ModulePath} (value : Bool) :
      FoldsTo nested module (.truth value) (.literal value)
  | grouped {nested : Nat} {module : ModulePath} {inner : Expr} {formula : Formula}
      (folds : FoldsTo nested module inner formula) :
      FoldsTo nested module (.grouped inner) (.grouped formula)
  | not {nested : Nat} {module : ModulePath} {operand : Expr} {formula : Formula}
      (folds : FoldsTo nested module operand formula) :
      FoldsTo nested module (.not operand) (.not formula)
  | binary {nested : Nat} {module : ModulePath} (connective : Connective) {left right : Expr}
      {leftFormula rightFormula : Formula} (leftFolds : FoldsTo nested module left leftFormula)
      (rightFolds : FoldsTo nested module right rightFormula) :
      FoldsTo nested module (.binary connective.operator left right)
        (.binary connective leftFormula rightFormula)
  | constant {nested : Nat} {module owner : ModulePath} {path : Path} {value : Expr}
      {formula : Formula} (leads : compilation.constant? module path = some (owner, value))
      (folds : FoldsTo nested owner value formula) :
      FoldsTo (nested + 1) module (.path path) (.grouped formula)

variable {compilation}

theorem booleanWith?_path (ofConstant : ModulePath → Expr → Option Bool) (module : ModulePath)
    (path : Path) : compilation.booleanWith? ofConstant module (.path path) =
      (compilation.constant? module path).bind fun constant =>
        ofConstant constant.1 constant.2 := by
  unfold constant?
  rw [booleanWith?]
  cases compilation.resolvePath? module path .value with
  | none => rfl
  | some found =>
    cases found with
    | item owner name definition =>
      cases definition with
      | constant ty value => by_cases written : isBooleanType ty = true <;> simp [written]
      | _ => rfl
    | _ => rfl

/-- One level: an expression folds as its constants do. -/
theorem exists_foldsTo_of_booleanWith? {ofConstant : ModulePath → Expr → Option Bool}
    {nested : Nat} (constants : ∀ module path owner value result,
      compilation.constant? module path = some (owner, value) →
        ofConstant owner value = some result →
          ∃ formula, compilation.FoldsTo nested module (.path path) formula ∧
            formula.value = result)
    {module : ModulePath} (expression : Expr) : ∀ {result : Bool},
    compilation.booleanWith? ofConstant module expression = some result →
      ∃ formula, compilation.FoldsTo nested module expression formula ∧
        formula.value = result := by
  induction expression with
  | truth value =>
    intro result holds
    exact ⟨.literal value, .literal value, Option.some.inj holds⟩
  | path path =>
    intro result holds
    rw [booleanWith?_path] at holds
    rcases Option.bind_eq_some_iff.mp holds with ⟨⟨owner, value⟩, leads, constant⟩
    exact constants module path owner value result leads constant
  | grouped inner induction =>
    intro result holds
    rw [booleanWith?] at holds
    rcases induction holds with ⟨formula, folds, same⟩
    exact ⟨.grouped formula, .grouped folds, same⟩
  | not operand induction =>
    intro result holds
    rw [booleanWith?] at holds
    rcases Option.map_eq_some_iff.mp holds with ⟨value, operandHolds, rfl⟩
    rcases induction operandHolds with ⟨formula, folds, rfl⟩
    exact ⟨.not formula, .not folds, rfl⟩
  | binary operator left right leftInduction rightInduction =>
    intro result holds
    rw [booleanWith?] at holds
    rcases Option.bind_eq_some_iff.mp holds with ⟨leftValue, leftHolds, holds⟩
    rcases Option.bind_eq_some_iff.mp holds with ⟨rightValue, rightHolds, applies⟩
    rcases leftInduction leftHolds with ⟨leftFormula, leftFolds, rfl⟩
    rcases rightInduction rightHolds with ⟨rightFormula, rightFolds, rfl⟩
    rcases booleanOperation_eq_some_iff.mp applies with ⟨connective, rfl, rfl⟩
    exact ⟨.binary connective leftFormula rightFormula, .binary connective leftFolds rightFolds,
      rfl⟩
  | _ =>
    intro result holds
    cases holds

variable (compilation) in
/-- The value of a constant, where this many can be replaced inside one another. -/
def constantAtDepth? : (depth : Nat) → ModulePath → Expr → Option Bool
  | 0, _, _ => none
  | depth + 1, module, value => compilation.booleanAtDepth? depth module value

theorem booleanAtDepth?_eq (depth : Nat) : compilation.booleanAtDepth? depth =
    compilation.booleanWith? (compilation.constantAtDepth? depth) := by
  cases depth <;> rfl

theorem booleanAtDepth?_of_foldsTo {nested : Nat} {module : ModulePath} {expression : Expr}
    {formula : Formula} (folds : compilation.FoldsTo nested module expression formula) :
    compilation.booleanAtDepth? nested module expression = some formula.value := by
  induction folds with
  | literal value =>
    rw [booleanAtDepth?_eq]
    rfl
  | grouped _ induction =>
    rw [booleanAtDepth?_eq] at induction ⊢
    exact induction
  | not _ induction =>
    rw [booleanAtDepth?_eq] at induction ⊢
    rw [booleanWith?, induction]
    rfl
  | binary connective _ _ leftInduction rightInduction =>
    rw [booleanAtDepth?_eq] at leftInduction rightInduction ⊢
    rw [booleanWith?, leftInduction, rightInduction]
    exact booleanOperation_eq_some_iff.mpr ⟨connective, rfl, rfl⟩
  | constant leads _ induction =>
    rw [booleanAtDepth?_eq, booleanWith?_path, leads]
    exact induction

theorem exists_foldsTo_of_booleanAtDepth? (depth : Nat) : ∀ {module : ModulePath}
    {expression : Expr} {result : Bool},
    compilation.booleanAtDepth? depth module expression = some result →
      ∃ formula, compilation.FoldsTo depth module expression formula ∧
        formula.value = result := by
  induction depth with
  | zero =>
    intro module expression result holds
    rw [booleanAtDepth?_eq] at holds
    apply exists_foldsTo_of_booleanWith? _ _ holds
    intro module path owner value result leads constant
    cases constant
  | succ depth induction =>
    intro module expression result holds
    rw [booleanAtDepth?_eq] at holds
    apply exists_foldsTo_of_booleanWith? _ _ holds
    intro module path owner value result leads constant
    rcases induction constant with ⟨formula, folds, same⟩
    exact ⟨.grouped formula, .constant leads folds, same⟩

/-! ## Constants that depend on themselves -/

variable (compilation) in
/-- What stands in the first module needs the value of a constant, which is what stands in the
second. -/
def Reads (reader constant : ModulePath × Expr) : Prop :=
  ∃ path ∈ reader.2.operands, compilation.constant? reader.1 path = some constant

/-- The constants that an expression needs can be replaced as well, one level further in. -/
theorem exists_foldsTo_of_reads {nested : Nat} {module : ModulePath} {expression : Expr}
    {formula : Formula} (folds : compilation.FoldsTo nested module expression formula)
    {constant : ModulePath × Expr} (reads : compilation.Reads (module, expression) constant) :
    ∃ inside formula, nested = inside + 1 ∧
      compilation.FoldsTo inside constant.1 constant.2 formula := by
  rcases reads with ⟨path, among, leads⟩
  induction folds with
  | literal value => cases among
  | grouped _ induction => exact induction among leads
  | not _ induction => exact induction among leads
  | binary connective _ _ leftInduction rightInduction =>
    rcases List.mem_append.mp among with inLeft | inRight
    · exact leftInduction inLeft leads
    · exact rightInduction inRight leads
  | @constant nested _ _ _ _ formula found folds _ =>
    cases List.mem_singleton.mp among
    cases found.symm.trans leads
    exact ⟨nested, formula, rfl, folds⟩

/-- A chain of constants, each of which needs the next one, is no longer than the nesting. -/
theorem not_foldsTo_of_depends {nested : Nat} : ∀ {constant : ModulePath × Expr}
    {formula : Formula}, Relation.TransGen compilation.Reads constant constant →
      ¬compilation.FoldsTo nested constant.1 constant.2 formula := by
  induction nested with
  | zero =>
    intro constant formula depends folds
    rcases Relation.TransGen.head'_iff.mp depends with ⟨next, reads, _⟩
    rcases exists_foldsTo_of_reads folds reads with ⟨inside, _, impossible, _⟩
    cases impossible
  | succ nested induction =>
    intro constant formula depends folds
    rcases Relation.TransGen.head'_iff.mp depends with ⟨next, reads, rest⟩
    rcases exists_foldsTo_of_reads folds reads with ⟨inside, inner, same, innerFolds⟩
    cases same
    exact induction (.tail' rest reads) innerFolds

/-- An expression that reaches a constant which depends on itself folds to nothing. -/
theorem not_foldsTo_of_reaches {expression constant : ModulePath × Expr}
    (reaches : Relation.ReflTransGen compilation.Reads expression constant)
    (depends : Relation.TransGen compilation.Reads constant constant) : ∀ {nested : Nat}
    {formula : Formula}, ¬compilation.FoldsTo nested expression.1 expression.2 formula := by
  induction reaches using Relation.ReflTransGen.head_induction_on with
  | refl => exact not_foldsTo_of_depends depends
  | head reads _ induction =>
    intro nested formula folds
    rcases exists_foldsTo_of_reads folds reads with ⟨_, _, _, innerFolds⟩
    exact induction innerFolds

/-! ## One counter for all constants -/

/-- Reads a constant, unless as many are being read as may be. The counter is as before afterwards,
whether there is a value or not. -/
def counted (read : StateM Nat (Option Bool)) : StateM Nat (Option Bool) := do
  let count ← get
  if maxDepth ≤ count then return none
  else
    set (count + 1)
    let value ← read
    modify (· - 1)
    return value

variable (compilation) in
/-- Reads the value of an expression, from left to right and no further than it has one. -/
def readWith? (readConstant : ModulePath → Expr → StateM Nat (Option Bool)) (module : ModulePath) :
    Expr → StateM Nat (Option Bool)
  | .truth value => return some value
  | .grouped inner => readWith? readConstant module inner
  | .not operand => do
    let value ← readWith? readConstant module operand
    return value.map (!·)
  | .binary operator left right => do
    match ← readWith? readConstant module left with
    | none => return none
    | some leftValue =>
      match ← readWith? readConstant module right with
      | none => return none
      | some rightValue => return booleanOperation operator leftValue rightValue
  | .path path =>
    match compilation.constant? module path with
    | none => return none
    | some constant => readConstant constant.1 constant.2
  | _ => return none

variable (compilation) in
/-- Reads the value of an expression. The counter alone bounds how deep constants are read; the
first argument only has to be large enough. -/
def read? : (enough : Nat) → ModulePath → Expr → StateM Nat (Option Bool)
  | 0 => compilation.readWith? fun _ _ => return none
  | enough + 1 => compilation.readWith? fun module value => counted (read? enough module value)

theorem run_readWith? {readConstant : ModulePath → Expr → StateM Nat (Option Bool)}
    {ofConstant : ModulePath → Expr → Option Bool} {count : Nat}
    (same : ∀ module value,
      (readConstant module value).run count = (ofConstant module value, count))
    (module : ModulePath) (expression : Expr) :
    (compilation.readWith? readConstant module expression).run count =
      (compilation.booleanWith? ofConstant module expression, count) := by
  induction expression with
  | grouped inner induction => exact induction
  | not operand induction =>
    rw [readWith?, booleanWith?, StateT.run_bind, induction]
    rfl
  | binary operator left right leftInduction rightInduction =>
    rw [readWith?, booleanWith?, StateT.run_bind, leftInduction]
    cases compilation.booleanWith? ofConstant module left with
    | none => rfl
    | some leftValue =>
      change StateT.run (_ >>= _) count = _
      rw [StateT.run_bind, rightInduction]
      cases compilation.booleanWith? ofConstant module right <;> rfl
  | path path =>
    rw [readWith?, booleanWith?_path]
    cases compilation.constant? module path with
    | none => rfl
    | some constant => exact same constant.1 constant.2
  | _ => rfl

theorem run_counted {read : StateM Nat (Option Bool)} {value : Option Bool} {count : Nat}
    (inside : count < maxDepth → read.run (count + 1) = (value, count + 1)) :
    (counted read).run count = (if count < maxDepth then value else none, count) := by
  unfold counted
  rw [StateT.run_bind]
  change StateT.run (if maxDepth ≤ count then _ else _) count = _
  by_cases room : count < maxDepth
  · rw [if_pos room, if_neg (Nat.not_le.mpr room)]
    change StateT.run (read >>= fun value => do modify (· - 1); return value) (count + 1) = _
    rw [StateT.run_bind, inside room]
    rfl
  · rw [if_neg room, if_pos (Nat.not_lt.mp room)]
    rfl

/-- Reading leaves the counter as it was, and finds the value that is left to be found. -/
theorem run_read? (enough : Nat) : ∀ {count : Nat}, maxDepth ≤ count + enough →
    ∀ module expression, (compilation.read? enough module expression).run count =
      (compilation.booleanAtDepth? (maxDepth - count) module expression, count) := by
  induction enough with
  | zero =>
    intro count least module expression
    have full : maxDepth - count = 0 := by omega
    rw [full, booleanAtDepth?_eq]
    exact run_readWith? (fun _ _ => rfl) module expression
  | succ enough induction =>
    intro count least module expression
    rw [booleanAtDepth?_eq]
    apply run_readWith?
    intro owner value
    rw [run_counted fun room => induction (by omega) owner value]
    by_cases room : count < maxDepth
    · have deeper : maxDepth - count = maxDepth - (count + 1) + 1 := by omega
      rw [if_pos room, deeper]
      rfl
    · rw [if_neg room, Nat.sub_eq_zero_of_le (Nat.not_lt.mp room)]
      rfl

/-- Several expressions, read one after another with one counter. -/
theorem run_mapM_read? {enough : Nat} (least : maxDepth ≤ enough)
    (expressions : List (ModulePath × Expr)) :
    (expressions.mapM fun expression => compilation.read? enough expression.1 expression.2).run 0 =
      (expressions.map fun expression => compilation.boolean? expression.1 expression.2, 0) := by
  induction expressions with
  | nil => rfl
  | cons head tail induction =>
    rw [List.mapM_cons, StateT.run_bind, run_read? enough (by omega)]
    change StateT.run (_ >>= _) 0 = _
    rw [StateT.run_bind, induction]
    rfl

/-- The value of an expression is that of the formula that it folds to, with at most so many
constants replaced inside one another, if it folds to one. An expression that reaches a constant
which depends on itself has none. Nothing depends on what was read before. -/
theorem boolean?_folds (compilation : Compilation) (module : ModulePath) (expression : Expr) :
    (∀ value, compilation.boolean? module expression = some value ↔
      ∃ formula, compilation.FoldsTo maxDepth module expression formula ∧ formula.value = value) ∧
    (∀ constant, Relation.ReflTransGen compilation.Reads (module, expression) constant →
      Relation.TransGen compilation.Reads constant constant →
        compilation.boolean? module expression = none) ∧
    ∀ (before : List (ModulePath × Expr)) (enough : Nat), maxDepth ≤ enough →
      ((before ++ [(module, expression)]).mapM fun expression =>
        compilation.read? enough expression.1 expression.2).run 0 =
        ((before.map fun expression => compilation.boolean? expression.1 expression.2) ++
          [compilation.boolean? module expression], 0) := by
  have exact : ∀ value, compilation.boolean? module expression = some value ↔
      ∃ formula, compilation.FoldsTo maxDepth module expression formula ∧
        formula.value = value := by
    intro value
    constructor
    · exact exists_foldsTo_of_booleanAtDepth? maxDepth
    · rintro ⟨formula, folds, rfl⟩
      exact booleanAtDepth?_of_foldsTo folds
  refine ⟨exact, ?_, ?_⟩
  · intro constant reaches depends
    rw [Option.eq_none_iff_forall_ne_some]
    intro value holds
    rcases (exact value).mp holds with ⟨formula, folds, _⟩
    exact not_foldsTo_of_reaches reaches depends folds
  · intro before enough least
    rw [run_mapM_read? least, List.map_append]
    rfl

end Compilation

end Wireform.Names
