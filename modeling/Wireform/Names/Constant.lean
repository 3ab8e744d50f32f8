import Wireform.Names.Resolve

namespace Wireform.Names.Compilation

/-! Boolean constants. An expression has a value if it is built from literals and the boolean
constants of the crate, each read in the module that declares it. -/

open Wireform.Syntax

def booleanOperation : BinaryOperator → Bool → Bool → Option Bool
  | .and, left, right => some (left && right)
  | .bitAnd, left, right => some (left && right)
  | .or, left, right => some (left || right)
  | .bitOr, left, right => some (left || right)
  | .bitXor, left, right => some (left != right)
  | .notEqual, left, right => some (left != right)
  | .equal, left, right => some (left == right)
  | _, _, _ => none

def isBooleanType : Ty → Bool
  | .path path => path.isName "bool"
  | _ => false

variable (compilation : Compilation)

/-- The value of an expression, reading constants with `ofConstant`. -/
def booleanWith? (ofConstant : ModulePath → Expr → Option Bool) (module : ModulePath) :
    Expr → Option Bool
  | .truth value => some value
  | .grouped inner => booleanWith? ofConstant module inner
  | .not operand => (booleanWith? ofConstant module operand).map (!·)
  | .binary operator left right => do
    let left ← booleanWith? ofConstant module left
    let right ← booleanWith? ofConstant module right
    booleanOperation operator left right
  | .path path =>
    match compilation.resolvePath? module path .value with
    | some (.item constantModule _ (.constant ty value)) =>
      if isBooleanType ty then ofConstant constantModule value else none
    | _ => none
  | _ => none

/-- The value of an expression where this many constants can be read from one another. -/
def booleanAtDepth? : (depth : Nat) → ModulePath → Expr → Option Bool
  | 0 => compilation.booleanWith? fun _ _ => none
  | depth + 1 => compilation.booleanWith? (booleanAtDepth? depth)

/-- The value of a constant boolean expression, if it is one. -/
def boolean? (module : ModulePath) (expression : Expr) : Option Bool :=
  compilation.booleanAtDepth? maxDepth module expression

end Wireform.Names.Compilation
