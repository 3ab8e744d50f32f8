import Wireform.Syntax.Type

namespace Wireform.Syntax

/-! # Expressions

What an expression says, as far as anything depends on it. Expressions of all other forms are told
apart only by how they are written. -/

inductive BinaryOperator where
  | multiply | divide | remainder
  | add | subtract
  | shiftLeft | shiftRight
  | bitAnd | bitXor | bitOr
  | equal | notEqual | less | lessEqual | greater | greaterEqual
  | and | or
  /-- An operator that stores its result in its left operand. -/
  | update (symbols : String)
  deriving DecidableEq, Repr, Inhabited

namespace BinaryOperator

def symbols : BinaryOperator → String
  | multiply => "*"
  | divide => "/"
  | remainder => "%"
  | add => "+"
  | subtract => "-"
  | shiftLeft => "<<"
  | shiftRight => ">>"
  | bitAnd => "&"
  | bitXor => "^"
  | bitOr => "|"
  | equal => "=="
  | notEqual => "!="
  | less => "<"
  | lessEqual => "<="
  | greater => ">"
  | greaterEqual => ">="
  | and => "&&"
  | or => "||"
  | update symbols => symbols

/-- Whether the operator stores its result. -/
def isUpdate : BinaryOperator → Bool
  | update _ => true
  | _ => false

end BinaryOperator

inductive Expr where
  | literal (token : Literal)
  | truth (value : Bool)
  | path (path : Path)
  | grouped (inner : Expr)
  | not (operand : Expr)
  | binary (operator : BinaryOperator) (left right : Expr)
  | assign (left right : Expr)
  | range
  | invocation (delimiter : Delimiter)
  | other
  deriving Inhabited

end Wireform.Syntax
