import Wireform.Syntax.Phrase

/-! # Nesting in angle brackets

Angle brackets make no groups. What stands between two of them is told by counting, where the head
of an arrow counts for nothing; outside them, a comma, an equals sign or a closing bracket ends what
they belong to. -/

namespace Wireform.Syntax

/-- How many angle brackets are open, and whether an arrow has begun. -/
structure Nesting where
  depth : Nat
  arrow : Bool

namespace Nesting

/-- Marks that end what stands in front of them, outside angle brackets. -/
def stops : List Char := [',', '=', '>']

/-- What a token does to the nesting; none where it ends what is nested. -/
def step (nesting : Nesting) : Tree → Option Nesting
  | .mark symbol joint _ =>
    if symbol = '<' then some ⟨nesting.depth + 1, false⟩
    else if symbol = '>' && nesting.arrow then some ⟨nesting.depth, false⟩
    else if stops.contains symbol && nesting.depth = 0 then none
    else if symbol = '>' then some ⟨nesting.depth - 1, false⟩
    else some ⟨nesting.depth, symbol = '-' && joint⟩
  | _ => some ⟨nesting.depth, false⟩

end Nesting

/-- Tokens after which the same angle brackets are open as before, if any are. -/
def Enclosed (trees : List Tree) : Prop :=
  ∀ depth, trees.foldlM Nesting.step ⟨depth + 1, false⟩ = some ⟨depth + 1, false⟩

/-- Tokens that nothing ends before their last one. -/
def Closed (trees : List Tree) : Prop :=
  ∀ depth, trees.foldlM Nesting.step ⟨depth, false⟩ = some ⟨depth, false⟩

variable {trees others : List Tree}

theorem Closed.enclosed (closed : Closed trees) : Enclosed trees := fun depth => closed (depth + 1)

theorem Closed.nil : Closed [] := fun _ => rfl

theorem Closed.append (closed : Closed trees) (othersClosed : Closed others) :
    Closed (trees ++ others) := by
  intro depth
  rw [List.foldlM_append, closed depth]
  exact othersClosed depth

theorem Enclosed.nil : Enclosed [] := Closed.nil.enclosed

theorem Enclosed.append (enclosed : Enclosed trees) (othersEnclosed : Enclosed others) :
    Enclosed (trees ++ others) := by
  intro depth
  rw [List.foldlM_append, enclosed depth]
  exact othersEnclosed depth

/-- Angle brackets close what they enclose. -/
theorem Enclosed.closed (enclosed : Enclosed trees) :
    Closed (Tree.ofOperator "<" ++ trees ++ Tree.ofOperator ">") := by
  intro depth
  rw [List.foldlM_append, List.foldlM_append]
  have opens : (Tree.ofOperator "<").foldlM Nesting.step ⟨depth, false⟩ =
      some ⟨depth + 1, false⟩ := rfl
  have closes : (Tree.ofOperator ">").foldlM Nesting.step ⟨depth + 1, false⟩ =
      some ⟨depth, false⟩ := rfl
  rw [opens, Option.bind_eq_bind, Option.bind_some, enclosed depth]
  exact closes

/-- A token that counts for nothing. -/
def Tree.isPlain : Tree → Bool
  | .mark symbol joint _ => !('<' :: Nesting.stops).contains symbol && !(symbol = '-' && joint)
  | _ => true

theorem Tree.step_of_isPlain {tree : Tree} (plain : tree.isPlain = true) (depth : Nat) :
    Nesting.step ⟨depth, false⟩ tree = some ⟨depth, false⟩ := by
  cases tree with
  | mark symbol joint position =>
    simp [isPlain, Nesting.stops] at plain
    simp [Nesting.step, Nesting.stops, plain]
    grind
  | _ => rfl

theorem closed_of_isPlain (plain : ∀ tree ∈ trees, tree.isPlain = true) : Closed trees := by
  induction trees with
  | nil => exact .nil
  | cons head tail ih =>
    intro depth
    obtain ⟨headPlain, tailPlain⟩ := List.forall_mem_cons.mp plain
    rw [List.foldlM_cons, Tree.step_of_isPlain headPlain]
    exact ih tailPlain depth

theorem closed_arrow : Closed (Tree.ofOperator "->") := fun _ => rfl

theorem enclosed_comma : Enclosed (Tree.ofOperator ",") := fun _ => rfl

theorem enclosed_equals : Enclosed (Tree.ofOperator "=") := fun _ => rfl

/-! ## Splitting -/

/-- Whether the first token ends what stands in front of it. -/
def Stops : List Tree → Prop
  | .mark symbol _ _ :: _ => symbol ∈ Nesting.stops
  | _ => False

theorem step_eq_none {symbol : Char} (among : symbol ∈ Nesting.stops) (joint : Bool)
    (position : Text.Position) : Nesting.step ⟨0, false⟩ (.mark symbol joint position) = none := by
  simp only [Nesting.stops, List.mem_cons, List.not_mem_nil, or_false] at among
  rcases among with rfl | rfl | rfl <;> rfl

theorem Closed.eq_nil_of_stops (closed : Closed trees) {middle behind : List Tree}
    (whole : Closed (trees ++ middle)) (stops : Stops (middle ++ behind)) : middle = [] := by
  match middle, stops with
  | [], _ => rfl
  | .mark symbol joint position :: rest, among =>
    have ended := whole 0
    rw [List.foldlM_append, closed 0, Option.bind_eq_bind, Option.bind_some, List.foldlM_cons,
      step_eq_none among] at ended
    cases ended

/-- Where closed tokens end is told by what ends them. -/
theorem Closed.append_inj (closed : Closed trees) (othersClosed : Closed others)
    {behind otherBehind : List Tree} (stops : Stops behind) (otherStops : Stops otherBehind)
    (same : trees ++ behind = others ++ otherBehind) : trees = others ∧ behind = otherBehind := by
  rcases List.append_eq_append_iff.mp same with ⟨middle, rfl, rfl⟩ | ⟨middle, rfl, rfl⟩
  · obtain rfl := closed.eq_nil_of_stops othersClosed stops
    simp
  · obtain rfl := othersClosed.eq_nil_of_stops closed otherStops
    simp

end Wireform.Syntax
