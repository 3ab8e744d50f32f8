import Wireform.Proofs.Names.Derivation

/-! # Origins of names

Every fact of a crate is stated by an item of some source, or by the place of a source among the
modules. So what a name leads to is a module that a source introduces, an item that stands in a
source, an item that a registered crate exports, or a built-in type. -/

namespace Wireform.Names

open Wireform.Syntax

/-! ## Items in sources -/

/-- The item stands in the module: among these items of the module `around`, or inside a module
that is written among them. -/
inductive Contains : (around : ModulePath) → List Item → ModulePath → Item → Prop where
  | here {around : ModulePath} {items : List Item} {item : Item} (among : item ∈ items) :
      Contains around items around item
  | inside {around module : ModulePath} {items inner : List Item} {item : Item}
      {attributes : List Attribute} {visible : Visibility} {name : Name}
      (among : .module attributes visible name (some inner) ∈ items)
      (contains : Contains (around ++ [name.text]) inner module item) :
      Contains around items module item

namespace Contains

variable {around module : ModulePath} {items : List Item} {item : Item}

theorem tail {head : Item} (contains : Contains around items module item) :
    Contains around (head :: items) module item := by
  cases contains with
  | here among => exact .here (List.mem_cons_of_mem _ among)
  | inside among inner => exact .inside (List.mem_cons_of_mem _ among) inner

/-- The module of an item is the one around all of them or is itself an item. -/
theorem module_eq_or (contains : Contains around items module item) :
    module = around ∨ ∃ parent attributes visible name content,
      Contains around items parent (.module attributes visible name content) ∧
        module = parent ++ [name.text] := by
  induction contains with
  | here among => exact .inl rfl
  | inside among _ induction =>
    rcases induction with rfl | ⟨parent, attributes, visible, name, content, inner, rfl⟩
    · exact .inr ⟨_, _, _, _, _, .here among, rfl⟩
    · exact .inr ⟨parent, attributes, visible, name, content, .inside among inner, rfl⟩

end Contains

/-- What an item defines in its module. Modules are not among it. -/
inductive Defines : Item → Namespace → String → Definition → Prop where
  | struct (declaration : Struct) :
      Defines (.struct declaration) .type declaration.name.text (.item .struct)
  | declaration (kind : DeclarationKind) (name : Name) :
      Defines (.declaration kind name) (symbolOf kind).1 name.text (.item (symbolOf kind).2)
  | typeAlias (name : Name) (parameters : Parameters) (ty : Ty) :
      Defines (.typeAlias name parameters ty) .type name.text (.typeAlias ty parameters.typeNames)
  | constant (name : Name) (ty : Ty) (value : Expr) :
      Defines (.constant name ty value) .value name.text (.constant ty value)

theorem Defines.ne_module {item : Item} {space : Namespace} {name : String}
    {definition : Definition} (defines : Defines item space name definition) :
    definition ≠ .module := by
  cases defines <;> exact nofun

namespace Declaration

/-- The facts that an item states itself, apart from the items inside it. -/
def stated (file : String) (module : ModulePath) : Item → List Declaration
  | .module _ visible name _ =>
    [.module module name.text, .visibility (module ++ [name.text]) visible]
  | item => ofItem file module item

mutual
theorem mem_ofItem {file : String} {declaration : Declaration} :
    ∀ (item : Item) (around : ModulePath), declaration ∈ ofItem file around item →
      declaration ∈ stated file around item ∨
        ∃ attributes visible name inner, item = .module attributes visible name (some inner) ∧
          ∃ module item, Contains (around ++ [name.text]) inner module item ∧
            declaration ∈ stated file module item
  | .module attributes visible name none, around, among => by
    rw [ofItem] at among
    exact .inl among
  | .module attributes visible name (some inner), around, among => by
    rw [ofItem] at among
    rcases List.mem_cons.mp among with rfl | among
    · exact .inl List.mem_cons_self
    · rcases List.mem_cons.mp among with rfl | among
      · exact .inl (List.mem_cons_of_mem _ List.mem_cons_self)
      · exact .inr ⟨attributes, visible, name, inner, rfl, mem_ofItems inner _ among⟩
  | .struct _, _, among => .inl among
  | .declaration _ _, _, among => .inl among
  | .typeAlias _ _ _, _, among => .inl among
  | .constant _ _ _, _, among => .inl among
  | .use _ _, _, among => .inl among
  | .externalCrate _ _, _, among => .inl among
  | .implementation _ _ _, _, among => .inl among
  | .other, _, among => .inl among

/-- Every fact is stated by an item in its module. -/
theorem mem_ofItems {file : String} {declaration : Declaration} :
    ∀ (items : List Item) (around : ModulePath), declaration ∈ ofItems file around items →
      ∃ module item, Contains around items module item ∧ declaration ∈ stated file module item
  | [], _, among => nomatch among
  | head :: tail, around, among => by
    rcases List.mem_append.mp among with ofHead | ofTail
    · rcases mem_ofItem head around ofHead with
        own | ⟨_, _, _, _, rfl, module, item, contains, states⟩
      · exact ⟨around, head, .here List.mem_cons_self, own⟩
      · exact ⟨module, item, .inside List.mem_cons_self contains, states⟩
    · rcases mem_ofItems tail around ofTail with ⟨module, item, contains, states⟩
      exact ⟨module, item, contains.tail, states⟩
end

theorem mem_ofItems_of_mem {file : String} {module : ModulePath} {item : Item}
    {items : List Item} {declaration : Declaration} (among : item ∈ items)
    (states : declaration ∈ ofItem file module item) : declaration ∈ ofItems file module items := by
  induction items with
  | nil => cases among
  | cons head tail induction =>
    rw [ofItems]
    rcases List.mem_cons.mp among with rfl | among
    · exact List.mem_append_left _ states
    · exact List.mem_append_right _ (induction among)

theorem mem_ofItems_of_contains {file : String} {around module : ModulePath} {items : List Item}
    {item : Item} {declaration : Declaration} (contains : Contains around items module item)
    (states : declaration ∈ stated file module item) :
    declaration ∈ ofItems file around items := by
  induction contains with
  | @here around items item among =>
    apply mem_ofItems_of_mem among
    cases item with
    | module attributes visible name content =>
      rcases List.mem_cons.mp states with rfl | visibility
      · cases content <;> exact List.mem_cons_self
      · cases List.mem_singleton.mp visibility
        cases content <;> exact List.mem_cons_of_mem _ List.mem_cons_self
    | _ => exact states
  | inside among contains induction =>
    apply mem_ofItems_of_mem among
    rw [ofItem]
    -- A module states itself and its visibility before what stands in its body.
    exact List.mem_cons_of_mem _ (List.mem_cons_of_mem _ (induction states))

/-- The paths of external crate declarations: that of the root, and those of crates. -/
inductive IsCrateTarget : Target → Prop where
  | root : IsCrateTarget ⟨false, ["crate"]⟩
  | registered (name : String) : IsCrateTarget ⟨true, [name]⟩

/-- What a use declaration in a module states. -/
inductive IsBinding (module : ModulePath) : Declaration → Prop where
  | importing (name : String) (target : Target) : IsBinding module (.importing module name target)
  | glob (target : Target) : IsBinding module (.glob module target)
  | crateAlias (atRoot : module = []) (name : String) {target : Target}
      (leads : IsCrateTarget target) : IsBinding module (.crateAlias name target)

mutual
theorem isBinding_of_mem_ofUse {module : ModulePath} {global : Bool} {declaration : Declaration} :
    ∀ (tree : UseTree) (before : List String), declaration ∈ ofUse module global before tree →
      IsBinding module declaration
  | .segment name rest, before, among => isBinding_of_mem_ofUse rest (before ++ [name.text]) among
  | .name name, before, among => by
    unfold ofUse at among
    split at among
    · split at among
      · cases List.mem_singleton.mp among
        exact .importing _ _
      · cases among
    · cases List.mem_singleton.mp among
      exact .importing _ _
  | .rename name newName, before, among => by
    unfold ofUse at among
    dsimp only at among
    by_cases dropped : newName.isWord "_" = true
    · rw [if_pos dropped] at among
      cases among
    · rw [if_neg dropped] at among
      cases List.mem_singleton.mp among
      exact .importing _ _
  | .everything, before, among => by
    cases List.mem_singleton.mp among
    exact .glob _
  | .group trees, before, among => isBinding_of_mem_ofGroup trees before among

theorem isBinding_of_mem_ofGroup {module : ModulePath} {global : Bool}
    {declaration : Declaration} :
    ∀ (trees : List UseTree) (before : List String),
      declaration ∈ ofUse.ofGroup module global before trees → IsBinding module declaration
  | [], _, among => nomatch among
  | head :: tail, before, among => by
    rcases List.mem_append.mp among with ofHead | ofTail
    · exact isBinding_of_mem_ofUse head before ofHead
    · exact isBinding_of_mem_ofGroup tail before ofTail
end

theorem isBinding_of_mem_ofExternalCrate {module : ModulePath} {name : Name}
    {newName : Option Name} {declaration : Declaration}
    (among : declaration ∈ ofExternalCrate module name newName) :
    IsBinding module declaration := by
  unfold ofExternalCrate at among
  dsimp only at among
  by_cases dropped : (newName.getD name).isWord "_" = true
  · rw [if_pos dropped] at among
    cases among
  · rw [if_neg dropped] at among
    rcases List.mem_append.mp among with atRoot | imported
    · by_cases root : module.isEmpty = true
      · rw [if_pos root] at atRoot
        cases List.mem_singleton.mp atRoot
        refine .crateAlias (List.isEmpty_iff.mp root) _ ?_
        by_cases own : name.isWord "self" = true
        · rw [if_pos own]
          exact .root
        · rw [if_neg own]
          exact .registered _
      · rw [if_neg root] at atRoot
        cases atRoot
    · cases List.mem_singleton.mp imported
      exact .importing _ _

/-- What an item of a module states itself: one definition, a module with its visibility, what a use
declaration brings, or an implementation. -/
inductive States (file : String) (module : ModulePath) : Item → Declaration → Prop where
  | definition {item : Item} {space : Namespace} {name : String} {definition : Definition}
      (defines : Defines item space name definition) :
      States file module item (.definition module space name definition)
  | module (attributes : List Attribute) (visible : Visibility) (name : Name)
      (content : Option (List Item)) :
      States file module (.module attributes visible name content) (.module module name.text)
  | visibility (attributes : List Attribute) (visible : Visibility) (name : Name)
      (content : Option (List Item)) :
      States file module (.module attributes visible name content)
        (.visibility (module ++ [name.text]) visible)
  | binding {item : Item} {declaration : Declaration} (binding : IsBinding module declaration) :
      States file module item declaration
  | implementation (parameters : Parameters) (self : Ty) (methods : List Method) :
      States file module (.implementation parameters self methods)
        (.implementation module file self methods)

theorem states_of_mem_stated {file : String} {module : ModulePath} {item : Item}
    {declaration : Declaration} (among : declaration ∈ stated file module item) :
    States file module item declaration := by
  cases item with
  | struct written =>
    cases List.mem_singleton.mp among
    exact .definition (.struct written)
  | declaration kind name =>
    cases List.mem_singleton.mp among
    exact .definition (.declaration kind name)
  | typeAlias name parameters ty =>
    cases List.mem_singleton.mp among
    exact .definition (.typeAlias name parameters ty)
  | constant name ty value =>
    cases List.mem_singleton.mp among
    exact .definition (.constant name ty value)
  | module attributes visible name content =>
    rcases List.mem_cons.mp among with rfl | among
    · exact .module attributes visible name content
    · cases List.mem_singleton.mp among
      exact .visibility attributes visible name content
  | use global tree => exact .binding (isBinding_of_mem_ofUse tree [] among)
  | externalCrate name newName => exact .binding (isBinding_of_mem_ofExternalCrate among)
  | implementation parameters self methods =>
    cases List.mem_singleton.mp among
    exact .implementation parameters self methods
  | other => cases among

/-- The place of a source introduces the modules on the way to it. -/
theorem exists_of_mem_ofPath {path : ModulePath} {declaration : Declaration}
    (among : declaration ∈ ofPath path) :
    ∃ owner name, declaration = .module owner name ∧ owner ++ [name] <+: path := by
  rcases List.mem_filterMap.mp among with ⟨depth, _, stated⟩
  rcases Option.map_eq_some_iff.mp stated with ⟨name, present, rfl⟩
  rcases List.getElem?_eq_some_iff.mp present with ⟨bound, rfl⟩
  refine ⟨_, _, rfl, ?_⟩
  rw [List.take_append_getElem bound]
  exact List.take_prefix _ _

theorem mem_ofPath {outer path : ModulePath} {name : String} (around : outer ++ [name] <+: path) :
    .module outer name ∈ ofPath path := by
  rcases around with ⟨rest, rfl⟩
  refine List.mem_filterMap.mpr ⟨outer.length, List.mem_range.mpr (by simp), ?_⟩
  simp

end Declaration

namespace Declarations

variable {facts : Declarations} {path : ModulePath} {name : String}

theorem hasModule_of_mem (among : .module path name ∈ facts) :
    facts.hasModule (path ++ [name]) = true := by
  rw [hasModule, Bool.or_eq_true]
  exact .inr (List.any_eq_true.mpr ⟨_, among, decide_eq_true rfl⟩)

theorem mem_of_hasModule (declared : facts.hasModule (path ++ [name]) = true) :
    .module path name ∈ facts := by
  rcases Bool.or_eq_true_iff.mp declared with empty | stated
  · simp at empty
  · rcases List.any_eq_true.mp stated with ⟨declaration, among, spelled⟩
    cases declaration with
    | module owner written =>
      rcases List.append_inj' (of_decide_eq_true spelled) rfl with ⟨rfl, same⟩
      cases same
      exact among
    | _ => cases spelled

end Declarations

/-! ## What sources introduce -/

namespace Compilation

variable (compilation : Compilation)

/-- The item stands in this module in some source. -/
def Contains (module : ModulePath) (item : Item) : Prop :=
  ∃ unit ∈ compilation.units, Names.Contains unit.module unit.items module item

/-- The root is a module, and so is all that the place of a source or an item makes one. -/
inductive Introduces : ModulePath → Prop where
  | root : Introduces []
  | unit {unit : SourceUnit} {path : ModulePath} (among : unit ∈ compilation.units)
      (around : path <+: unit.module) : Introduces path
  | item {parent : ModulePath} {attributes : List Attribute} {visible : Visibility} {name : Name}
      {content : Option (List Item)}
      (contains : compilation.Contains parent (.module attributes visible name content)) :
      Introduces (parent ++ [name.text])

variable {compilation}

theorem Contains.introduces {module : ModulePath} {item : Item}
    (contains : compilation.Contains module item) : compilation.Introduces module := by
  rcases contains with ⟨unit, among, inUnit⟩
  rcases inUnit.module_eq_or with rfl | ⟨parent, _, _, _, _, declared, rfl⟩
  · exact .unit among (List.prefix_refl _)
  · exact .item ⟨unit, among, declared⟩

theorem Introduces.parent {path outer : ModulePath} (introduces : compilation.Introduces path)
    (parent : path.parent? = some outer) : compilation.Introduces outer := by
  have outer_eq : outer = path.dropLast := by
    cases path with
    | nil => cases parent
    | cons head tail => exact (Option.some.inj parent).symm
  cases introduces with
  | root => cases parent
  | unit among around =>
    rw [outer_eq]
    exact .unit among ((List.dropLast_prefix path).trans around)
  | item contains =>
    rw [List.dropLast_concat] at outer_eq
    rw [outer_eq]
    exact contains.introduces

section OfUnits
variable {units : List SourceUnit} {externalCrates : List ExternalCrate}

/-- A fact of a unit comes from its place or from an item in one of its bodies. -/
theorem mem_declarationsOf {unit : SourceUnit} {declaration : Declaration}
    (among : declaration ∈ declarationsOf unit) :
    (∃ owner name, declaration = .module owner name ∧ owner ++ [name] <+: unit.module) ∨
      ∃ module item, Names.Contains unit.module unit.items module item ∧
        Declaration.States unit.path module item declaration := by
  rcases List.mem_append.mp among with place | items
  · exact .inl (Declaration.exists_of_mem_ofPath place)
  · rcases Declaration.mem_ofItems unit.items unit.module items with
      ⟨module, item, contains, stated⟩
    exact .inr ⟨module, item, contains, Declaration.states_of_mem_stated stated⟩

theorem mem_declarations_ofUnits {declaration : Declaration}
    (among : declaration ∈ (ofUnits units externalCrates).declarations) :
    (∃ owner name, declaration = .module owner name ∧
        (ofUnits units externalCrates).Introduces (owner ++ [name])) ∨
      ∃ unit ∈ units, ∃ module item, Names.Contains unit.module unit.items module item ∧
        Declaration.States unit.path module item declaration := by
  rcases List.mem_flatMap.mp among with ⟨unit, unitAmong, stated⟩
  rcases mem_declarationsOf stated with ⟨owner, name, rfl, around⟩ | inBody
  · exact .inl ⟨owner, name, rfl, .unit unitAmong around⟩
  · exact .inr ⟨unit, unitAmong, inBody⟩

theorem introduces_of_module {owner : ModulePath} {name : String}
    (among : .module owner name ∈ (ofUnits units externalCrates).declarations) :
    (ofUnits units externalCrates).Introduces (owner ++ [name]) := by
  rcases mem_declarations_ofUnits among with
    ⟨_, _, same, introduced⟩ | ⟨unit, unitAmong, module, item, contains, states⟩
  · cases same
    exact introduced
  · cases states with
    | module attributes visible written content => exact .item ⟨unit, unitAmong, contains⟩
    | binding binding => cases binding

theorem introduces_of_hasModule {path : ModulePath}
    (declared : (ofUnits units externalCrates).declarations.hasModule path = true) :
    (ofUnits units externalCrates).Introduces path := by
  rcases List.eq_nil_or_concat path with rfl | ⟨owner, name, rfl⟩
  · exact .root
  · rw [List.concat_eq_append] at declared ⊢
    exact introduces_of_module (Declarations.mem_of_hasModule declared)

theorem hasModule_of_introduces {path : ModulePath}
    (introduced : (ofUnits units externalCrates).Introduces path) :
    (ofUnits units externalCrates).declarations.hasModule path = true := by
  cases introduced with
  | root => rfl
  | @unit unit _ unitAmong around =>
    rcases List.eq_nil_or_concat path with rfl | ⟨owner, name, rfl⟩
    · rfl
    · rw [List.concat_eq_append] at around ⊢
      apply Declarations.hasModule_of_mem
      refine List.mem_flatMap.mpr ⟨unit, unitAmong, List.mem_append_left _ ?_⟩
      exact Declaration.mem_ofPath around
  | item contains =>
    rcases contains with ⟨unit, unitAmong, inUnit⟩
    apply Declarations.hasModule_of_mem
    refine List.mem_flatMap.mpr ⟨unit, unitAmong, List.mem_append_right _ ?_⟩
    exact Declaration.mem_ofItems_of_contains inUnit List.mem_cons_self

/-- A definition is that of a module, or that of an item which stands in its module. -/
theorem defines_of_definition? {module : ModulePath} {space : Namespace} {name : String}
    {definition : Definition}
    (declared : (ofUnits units externalCrates).declarations.definition? module space name =
      some definition) :
    (definition = .module ∧ (ofUnits units externalCrates).Introduces (module ++ [name])) ∨
      ∃ item, (ofUnits units externalCrates).Contains module item ∧
        Defines item space name definition := by
  rcases List.exists_of_findSome?_eq_some declared with ⟨declaration, among, chosen⟩
  cases declaration with
  | module owner written =>
    rcases Option.ite_none_right_eq_some.mp chosen with ⟨⟨rfl, rfl, rfl⟩, ⟨⟩⟩
    exact .inl ⟨rfl, introduces_of_module among⟩
  | definition owner otherSpace written other =>
    rcases Option.ite_none_right_eq_some.mp chosen with ⟨⟨rfl, rfl, rfl⟩, ⟨⟩⟩
    rcases mem_declarations_ofUnits among with
      ⟨_, _, same, _⟩ | ⟨unit, unitAmong, module, item, contains, states⟩
    · cases same
    · cases states with
      | definition defines => exact .inr ⟨item, ⟨unit, unitAmong, contains⟩, defines⟩
      | binding binding => cases binding
  | visibility owner visible => cases chosen
  | importing owner written target => cases chosen
  | glob owner target => cases chosen
  | crateAlias written target => cases chosen
  | implementation owner file self methods => cases chosen

end OfUnits

/-! ## What derivations lead to -/

/-- What a name of this namespace leads to exists: as a module or an item that a source declares, as
an item that a registered crate exports, with all that is around it, or as a built-in type. -/
inductive Grounded (compilation : Compilation) (space : Namespace) : Resolved → Prop where
  | module {path : ModulePath} (introduced : compilation.Introduces path) :
      Grounded compilation space (.module path)
  | item {owner : ModulePath} {name : String} {definition : Definition} {item : Item}
      (contains : compilation.Contains owner item) (defines : Defines item space name definition) :
      Grounded compilation space (.item owner name definition)
  | external {external : ExternalCrate} {path : List String}
      (registered : external ∈ compilation.crates)
      (exported : ∀ names, names ≠ [] → names <+: path → external.exportsPath names = true) :
      Grounded compilation space (.external external path)
  | builtin {name id : String} (among : (name, id) ∈ builtinTypes) :
      Grounded compilation space (.builtin id)

section Grounding
variable {units : List SourceUnit} {externalCrates : List ExternalCrate} {leads : LookupRelation}
  (grounded : ∀ key lexical found, leads key lexical found →
    (ofUnits units externalCrates).Introduces key.module →
      (ofUnits units externalCrates).Grounded key.space found)
include grounded

theorem Grounded.member {space other : Namespace} {parent found : Resolved} {name : String}
    (start : (ofUnits units externalCrates).Grounded other parent)
    (member : Resolved.HasMember leads space parent name found) :
    (ofUnits units externalCrates).Grounded space found := by
  cases start with
  | module introduced =>
    cases member with
    | itself isSelf => exact .module introduced
    | around isSuper outside => exact .module (introduced.parent outside)
    | named notSelf notSuper bound => exact grounded _ _ _ bound introduced
  | external registered exported =>
    cases member with
    | external whole =>
      refine .external registered fun names nonempty begins => ?_
      rcases List.prefix_concat_iff.mp begins with rfl | shorter
      · exact whole
      · exact exported names nonempty shorter
  | item contains defines => cases member
  | builtin among => cases member

theorem Grounded.members {space other : Namespace} {parent found : Resolved} {names : List String}
    (members : Resolved.HasMembers leads space parent names found)
    (same : names = [] → other = space)
    (start : (ofUnits units externalCrates).Grounded other parent) :
    (ofUnits units externalCrates).Grounded space found := by
  induction members generalizing other with
  | nil parent => exact same rfl ▸ start
  | cons first others induction =>
    refine induction ?_ (start.member grounded first)
    rintro rfl
    rfl

theorem grounded_of_follows {module : ModulePath} {space : Namespace} {path : Target}
    {found : Resolved} (introduced : (ofUnits units externalCrates).Introduces module)
    (follows : (ofUnits units externalCrates).Follows leads module space path found) :
    (ofUnits units externalCrates).Grounded space found := by
  cases follows with
  | @fromCrates name rest external found known members =>
    have start : (ofUnits units externalCrates).Grounded space (.external external []) := by
      refine .external (List.mem_of_find?_eq_some known) fun names nonempty begins => ?_
      exact absurd (List.prefix_nil.mp begins) nonempty
    exact Grounded.members grounded members (fun _ => rfl) start
  | @fromModule name rest first found starts members =>
    have start :
        (ofUnits units externalCrates).Grounded (Resolved.spaceBefore rest space) first := by
      cases starts with
      | crate isCrate => exact .module .root
      | itself isSelf => exact .module introduced
      | around isSuper outside => exact .module (introduced.parent outside)
      | named free bound => exact grounded _ _ _ bound introduced
    refine Grounded.members grounded members ?_ start
    rintro rfl
    rfl

theorem grounded_of_binds {key : Lookup} {lexical : Bool} {found : Resolved}
    (introduced : (ofUnits units externalCrates).Introduces key.module)
    (binds : (ofUnits units externalCrates).Binds leads key lexical found) :
    (ofUnits units externalCrates).Grounded key.space found := by
  cases binds with
  | module declared =>
    rcases defines_of_definition? declared with ⟨_, inner⟩ | ⟨item, _, defines⟩
    · exact .module inner
    · exact absurd rfl defines.ne_module
  | item declared noModule =>
    rcases defines_of_definition? declared with ⟨isModule, _⟩ | ⟨item, contains, defines⟩
    · exact absurd isModule noModule
    · exact .item contains defines
  | importing undefined imported follows => exact grounded_of_follows grounded introduced follows
  | glob undefined among follows member =>
    exact (grounded_of_follows grounded introduced follows).member grounded member
  | crate type known =>
    refine .external (List.mem_of_find?_eq_some known) fun names nonempty begins => ?_
    exact absurd (List.prefix_nil.mp begins) nonempty
  | crateAlias type unknown aliased follows =>
    rw [type]
    exact grounded_of_follows grounded .root follows
  | builtin type among => exact .builtin among

end Grounding

variable {units : List SourceUnit} {externalCrates : List ExternalCrate}

theorem grounded_of_derives (height : Nat) : ∀ key lexical found,
    (ofUnits units externalCrates).Derives height key lexical found →
      (ofUnits units externalCrates).Introduces key.module →
        (ofUnits units externalCrates).Grounded key.space found := by
  induction height with
  | zero =>
    intro key lexical found derives
    cases derives
  | succ height induction =>
    intro key lexical found derives introduced
    exact grounded_of_binds induction introduced derives

theorem grounded_of_leads {module : ModulePath} {path : Target} {space : Namespace}
    {found : Resolved} (introduced : (ofUnits units externalCrates).Introduces module)
    (leads : (ofUnits units externalCrates).Leads module path space found) :
    (ofUnits units externalCrates).Grounded space found := by
  rcases leads with ⟨height, follows⟩
  exact grounded_of_follows (grounded_of_derives height) introduced follows

end Compilation

end Wireform.Names
