import Wireform.Names.Constant
import Wireform.Names.Kind

/-! # Outlook

What can be seen of a crate by those who ask for its names: what its modules declare and import, but
neither the order of its implementations nor where their methods stand. Two compilations with the
same outlook resolve all paths alike, and classify all types and evaluate all constants alike. -/

namespace Wireform.Names

open Wireform.Syntax

/-- The fact without the places of methods. -/
def Declaration.placeless : Declaration → Declaration
  | .implementation around file self methods =>
    .implementation around file self (methods.map fun method => ⟨method.name, .start⟩)
  | other => other

namespace Declarations

variable {left right : Declarations}
  (same : left.map Declaration.placeless = right.map Declaration.placeless)
include same

theorem findSome?_congr {α : Type} {choose : Declaration → Option α}
    (blind : ∀ declaration : Declaration, choose declaration.placeless = choose declaration) :
    left.findSome? choose = right.findSome? choose := by
  have found (declarations : Declarations) :
      (declarations.map Declaration.placeless).findSome? choose =
        declarations.findSome? choose := by
    rw [List.findSome?_map]
    exact congrArg (List.findSome? · declarations) (funext blind)
  rw [← found left, same, found right]

theorem filterMap_congr {α : Type} {choose : Declaration → Option α}
    (blind : ∀ declaration : Declaration, choose declaration.placeless = choose declaration) :
    left.filterMap choose = right.filterMap choose := by
  have found (declarations : Declarations) :
      (declarations.map Declaration.placeless).filterMap choose =
        declarations.filterMap choose := by
    rw [List.filterMap_map]
    exact congrArg (List.filterMap · declarations) (funext blind)
  rw [← found left, same, found right]

theorem any_congr {choose : Declaration → Bool}
    (blind : ∀ declaration : Declaration, choose declaration.placeless = choose declaration) :
    left.any choose = right.any choose := by
  have found (declarations : Declarations) :
      (declarations.map Declaration.placeless).any choose = declarations.any choose := by
    rw [List.any_map]
    exact congrArg (List.any declarations) (funext blind)
  rw [← found left, same, found right]

end Declarations

/-- The same can be seen of both: their crates, the answers to look-ups among their facts, and their
implementations in some order, but for the places of methods. -/
structure Compilation.SameOutlook (left right : Compilation) : Prop where
  crates : left.crates = right.crates
  hasModule : left.declarations.hasModule = right.declarations.hasModule
  definition? : left.declarations.definition? = right.declarations.definition?
  imports : left.declarations.imports = right.declarations.imports
  globs : left.declarations.globs = right.declarations.globs
  crateAlias? : left.declarations.crateAlias? = right.declarations.crateAlias?
  visibility? : left.declarations.visibility? = right.declarations.visibility?
  any_eq : ∀ asks : Declaration → Bool,
    (∀ declaration : Declaration, asks declaration.placeless = asks declaration) →
      left.declarations.any asks = right.declarations.any asks

/-- Two lists of facts that differ in the places of methods look the same. -/
theorem Compilation.SameOutlook.of_placeless {left right : Compilation}
    (crates : left.crates = right.crates)
    (same : left.declarations.map Declaration.placeless =
      right.declarations.map Declaration.placeless) : left.SameOutlook right where
  crates := crates
  hasModule := by
    funext path
    rw [Declarations.hasModule, Declarations.hasModule,
      Declarations.any_congr same fun declaration => by cases declaration <;> rfl]
  definition? := by
    funext path space name
    exact Declarations.findSome?_congr same fun declaration => by cases declaration <;> rfl
  imports := by
    funext path name
    exact Declarations.filterMap_congr same fun declaration => by cases declaration <;> rfl
  globs := by
    funext path
    exact Declarations.filterMap_congr same fun declaration => by cases declaration <;> rfl
  crateAlias? := by
    funext name
    rw [Declarations.crateAlias?, Declarations.crateAlias?,
      Declarations.filterMap_congr same fun declaration => by cases declaration <;> rfl]
  visibility? := by
    funext path
    exact Declarations.findSome?_congr same fun declaration => by cases declaration <;> rfl
  any_eq _ blind := Declarations.any_congr same blind

namespace Compilation.SameOutlook

variable {left right : Compilation} (same : left.SameOutlook right)
include same

theorem symm : right.SameOutlook left where
  crates := same.crates.symm
  hasModule := same.hasModule.symm
  definition? := same.definition?.symm
  imports := same.imports.symm
  globs := same.globs.symm
  crateAlias? := same.crateAlias?.symm
  visibility? := same.visibility?.symm
  any_eq asks blind := (same.any_eq asks blind).symm

theorem moduleVisibility? (path : ModulePath) :
    left.moduleVisibility? path = right.moduleVisibility? path := by
  rw [Compilation.moduleVisibility?, Compilation.moduleVisibility?, same.hasModule,
    same.visibility?]

/-! ## Paths -/

theorem follow? : left.follow? = right.follow? := by
  funext lookup module path space
  rw [Compilation.follow?, Compilation.follow?]
  simp only [crate?, same.crates]

theorem lookupInModule? : left.lookupInModule? = right.lookupInModule? := by
  funext lookup key
  rw [Compilation.lookupInModule?, Compilation.lookupInModule?]
  simp only [same.definition?, same.imports, same.globs, same.follow?]

theorem lookupEverywhere? : left.lookupEverywhere? = right.lookupEverywhere? := by
  funext lookup name
  rw [Compilation.lookupEverywhere?, Compilation.lookupEverywhere?]
  simp only [crate?, same.crates, same.crateAlias?, same.follow?]

theorem lookup? : left.lookup? = right.lookup? := by
  funext depth
  induction depth with
  | zero => rfl
  | succ depth induction =>
    funext visiting key lexical
    simp only [Compilation.lookup?, induction, same.lookupInModule?, same.lookupEverywhere?]

theorem resolvePath? : left.resolvePath? = right.resolvePath? := by
  funext module path space
  rw [Compilation.resolvePath?, Compilation.resolvePath?, resolve?, resolve?, same.follow?,
    same.lookup?]

theorem symbol? : left.symbol? = right.symbol? := by
  funext module path space
  rw [Compilation.symbol?, Compilation.symbol?, same.resolvePath?]

/-! ## Kinds of types -/

theorem pathKind? : left.pathKind? = right.pathKind? := by
  funext ofAlias module parameters path arguments
  rw [Compilation.pathKind?, Compilation.pathKind?, headKind?, headKind?, same.resolvePath?]

variable (ofAlias : KindFunction) (module : ModulePath) (parameters : List Name)

set_option linter.unusedSectionVars false in
mutual
theorem kindWith? : ∀ ty, left.kindWith? ofAlias module parameters ty =
    right.kindWith? ofAlias module parameters ty
  | .path (.mk global segments) => by
    rw [Compilation.kindWith?, Compilation.kindWith?, same.pathKind?, lastKindsWith segments]
  | .grouped inner => by
    rw [Compilation.kindWith?, Compilation.kindWith?, kindWith? inner]
  | .array item _ => by
    rw [Compilation.kindWith?, Compilation.kindWith?, kindWith? item]
  | .slice item => by
    rw [Compilation.kindWith?, Compilation.kindWith?, kindWith? item]
  | .tuple items _ => by
    rw [Compilation.kindWith?, Compilation.kindWith?, kindsWith items]
  | .reference _ _ _ => rfl
  | .pointer _ _ => rfl
  | .projection _ => rfl
  | .never => rfl
  | .inferred => rfl
  | .function _ _ _ _ _ _ => rfl
  | .object _ _ _ => rfl
  | .existential _ _ => rfl
  | .invocation _ => rfl
  | .verbatim _ => rfl

theorem kindsWith : ∀ types, left.kindsWith ofAlias module parameters types =
    right.kindsWith ofAlias module parameters types
  | [] => rfl
  | head :: tail => by
    rw [Compilation.kindsWith, Compilation.kindsWith, kindWith? head, kindsWith tail]

theorem lastKindsWith : ∀ segments, left.lastKindsWith ofAlias module parameters segments =
    right.lastKindsWith ofAlias module parameters segments
  | [] => rfl
  | [.mk _ (.angled _ arguments _)] => argumentKindsWith arguments
  | [.mk _ .none] => rfl
  | [.mk _ (.called _ _ _)] => rfl
  | .mk _ .none :: second :: tail => lastKindsWith (second :: tail)
  | .mk _ (.angled _ _ _) :: second :: tail => lastKindsWith (second :: tail)
  | .mk _ (.called _ _ _) :: second :: tail => lastKindsWith (second :: tail)

theorem argumentKindsWith : ∀ arguments,
    left.argumentKindsWith ofAlias module parameters arguments =
      right.argumentKindsWith ofAlias module parameters arguments
  | [] => rfl
  | .type ty :: tail => by
    rw [Compilation.argumentKindsWith, Compilation.argumentKindsWith, kindWith? ty,
      argumentKindsWith tail]
  | .lifetime _ :: tail => argumentKindsWith tail
  | .constant _ :: tail => argumentKindsWith tail
  | .equalType _ _ _ :: tail => argumentKindsWith tail
  | .equalConstant _ _ _ :: tail => argumentKindsWith tail
  | .bounded _ _ _ _ :: tail => argumentKindsWith tail
end

theorem kindAtDepth? : left.kindAtDepth? = right.kindAtDepth? := by
  have step : left.kindWith? = right.kindWith? := by
    funext ofAlias module parameters ty
    exact same.kindWith? ofAlias module parameters ty
  funext depth
  induction depth with
  | zero => rw [Compilation.kindAtDepth?, Compilation.kindAtDepth?, step]
  | succ depth induction =>
    rw [Compilation.kindAtDepth?, Compilation.kindAtDepth?, step, induction]

theorem typeKind? : left.typeKind? = right.typeKind? := by
  funext module ty parameters
  rw [Compilation.typeKind?, Compilation.typeKind?, same.kindAtDepth?]

/-! ## Constants -/

theorem booleanWith? : left.booleanWith? = right.booleanWith? := by
  funext ofConstant module expression
  induction expression with
  | path path => rw [Compilation.booleanWith?, Compilation.booleanWith?, same.resolvePath?]
  | grouped inner induction =>
    rw [Compilation.booleanWith?, Compilation.booleanWith?, induction]
  | not operand induction =>
    rw [Compilation.booleanWith?, Compilation.booleanWith?, induction]
  | binary operator first second firstInduction secondInduction =>
    rw [Compilation.booleanWith?, Compilation.booleanWith?, firstInduction, secondInduction]
  | _ => rfl

theorem boolean? : left.boolean? = right.boolean? := by
  have atDepth : left.booleanAtDepth? = right.booleanAtDepth? := by
    funext depth
    induction depth with
    | zero => rw [booleanAtDepth?, booleanAtDepth?, same.booleanWith?]
    | succ depth induction => rw [booleanAtDepth?, booleanAtDepth?, same.booleanWith?, induction]
  funext module expression
  rw [Compilation.boolean?, Compilation.boolean?, atDepth]

/-! ## Methods -/

theorem any_methodsOf (id : String) (asked : Name → Bool) :
    ((left.methodsOf id).any fun found => asked found.method.name) =
      (right.methodsOf id).any fun found => asked found.method.name := by
  rw [methodsOf, methodsOf, List.any_flatMap, List.any_flatMap, same.symbol?]
  apply same.any_eq
  intro declaration
  cases declaration with
  | implementation around file self methods =>
    cases self with
    | path path =>
      simp only [Declaration.placeless]
      cases right.symbol? around path .type with
      | none => rfl
      | some symbol =>
        by_cases own : symbol.id = id
        · simp only [own, if_true, List.any_map, Function.comp_def]
        · simp only [own, if_false]
    | _ => rfl
  | _ => rfl

end Compilation.SameOutlook

end Wireform.Names
