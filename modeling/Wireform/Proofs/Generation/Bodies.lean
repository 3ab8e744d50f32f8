import Mathlib.Data.List.Basic
import Wireform.Generation.Fragment
import Wireform.Proofs.Wire.Hashing

/-! # Bodies of generated methods

The generated methods go through the serialized members by name, in order. What they do to a record
that way is what moving, comparing and hashing its fields is. -/

namespace Wireform.Wire

/-! ## Places -/

/-- Where the value of a field stands in a record. -/
structure Place (fields : Fields) where
  shape : Shape
  get : fields.Values → shape.Value
  put : shape.Value → fields.Values → fields.Values

namespace Place

variable {name : String} {included : Bool} {shape : Shape} {rest : Fields}

def head : Place (.cons name included shape rest) :=
  ⟨shape, Prod.fst, fun value values => (value, values.2)⟩

def tail (place : Place rest) : Place (.cons name included shape rest) where
  shape := place.shape
  get values := place.get values.2
  put value values := (values.1, place.put value values.2)

end Place

namespace Fields

def names : Fields → List String
  | .nil => []
  | .cons name _ _ rest => name :: rest.names

def members : Fields → List String
  | .nil => []
  | .cons name true _ rest => name :: rest.members
  | .cons _ false _ rest => rest.members

/-- The place that a member stands for. -/
def place? (member : String) : (fields : Fields) → Option (Place fields)
  | .nil => none
  | .cons name _ _ rest => if name = member then some .head else (rest.place? member).map .tail

def places : (fields : Fields) → List (Place fields)
  | .nil => []
  | .cons _ true _ rest => .head :: rest.places.map .tail
  | .cons _ false _ rest => rest.places.map .tail

theorem mem_names_of_mem_members {fields : Fields} {member : String}
    (included : member ∈ fields.members) : member ∈ fields.names := by
  induction fields using members.induct with
  | case1 => cases included
  | case2 name shape rest induction =>
    rcases List.mem_cons.mp included with rfl | included
    · exact List.mem_cons_self
    · exact List.mem_cons_of_mem _ (induction included)
  | case3 name shape rest induction => exact List.mem_cons_of_mem _ (induction included)

/-- Where no two fields have one name, the included members stand for the included fields. -/
theorem map_place?_members {fields : Fields} (distinct : fields.names.Nodup) :
    fields.members.map fields.place? = fields.places.map some := by
  have behind {name : String} {included : Bool} {shape : Shape} {rest : Fields}
      (fresh : name ∉ rest.names) (places : rest.members.map rest.place? = rest.places.map some) :
      rest.members.map (Fields.cons name included shape rest).place? =
        (rest.places.map Place.tail).map some := by
    have each : ∀ member ∈ rest.members, (Fields.cons name included shape rest).place? member =
        (rest.place? member).map .tail := by
      intro member among
      rw [place?, if_neg]
      rintro rfl
      exact fresh (mem_names_of_mem_members among)
    rw [List.map_congr_left each, ← Function.comp_def, ← List.map_map, places, List.map_map,
      List.map_map]
    rfl
  induction fields using members.induct with
  | case1 => rfl
  | case2 name shape rest induction =>
    rcases List.nodup_cons.mp distinct with ⟨fresh, distinct⟩
    rw [members, List.map_cons, place?, if_pos rfl, behind fresh (induction distinct)]
    rfl
  | case3 name shape rest induction =>
    rcases List.nodup_cons.mp distinct with ⟨fresh, distinct⟩
    exact behind fresh (induction distinct)

end Fields

/-! ## What the statements do -/

namespace Place

variable {fields : Fields}

/-- What `serializer.serialize(&mut self.member)?` does. -/
def serialize {σ : Type} (channel : Channel σ) (place : Place fields) (values : fields.Values)
    (state : σ) : Outcome σ fields.Values :=
  (Wire.serialize channel place.shape (place.get values) state).map (place.put · values)

/-- The statements that move these members, up to the first that fails. -/
def serializeAll {σ : Type} (channel : Channel σ) :
    List (Place fields) → fields.Values → σ → Outcome σ fields.Values
  | [], values, state => ⟨values, state, none⟩
  | place :: rest, values, state =>
    let moved := place.serialize channel values state
    match moved.error with
    | some _ => moved
    | none => serializeAll channel rest moved.value moved.state

/-- What `self.member == other.member` says. -/
def equal (left right : fields.Values) (place : Place fields) : Bool :=
  Wire.equal place.shape (place.get left) (place.get right)

def hasherCalls (values : fields.Values) (place : Place fields) : List HasherCall :=
  Wire.hasherCalls place.shape (place.get values)

variable {name : String} {included : Bool} {shape : Shape} {rest : Fields}

theorem serializeAll_tail {σ : Type} (channel : Channel σ) (places : List (Place rest))
    (first : shape.Value) (values : rest.Values) (state : σ) :
    serializeAll channel
        (places.map (tail : Place rest → Place (.cons name included shape rest))) (first, values)
        state =
      (serializeAll channel places values state).map (first, ·) := by
  induction places generalizing values state with
  | nil => rfl
  | cons place places induction =>
    have moved : (tail place : Place (.cons name included shape rest)).serialize channel
        (first, values) state = (place.serialize channel values state).map (first, ·) := rfl
    simp only [List.map_cons, serializeAll, moved]
    cases failed : (place.serialize channel values state).error with
    | some error =>
      simp only [Outcome.map, failed]
      rfl
    | none =>
      simp only [Outcome.map, failed]
      exact induction _ _

theorem serializeAll_places {σ : Type} (channel : Channel σ) :
    ∀ (fields : Fields) (values : fields.Values) (state : σ),
      serializeAll channel fields.places values state = serializeFields channel fields values state
  | .nil, _, _ => rfl
  | .cons name true shape rest, (first, values), state => by
    have moved : (head : Place (.cons name true shape rest)).serialize channel (first, values)
        state = (Wire.serialize channel shape first state).map (·, values) := rfl
    simp only [Fields.places, serializeAll, moved, serializeFields, Outcome.pair]
    cases failed : (Wire.serialize channel shape first state).error with
    | some error =>
      simp only [Outcome.map, failed]
      rfl
    | none =>
      simp only [Outcome.map, failed]
      rw [serializeAll_tail, serializeAll_places channel rest]
      rfl
  | .cons _ false _ rest, (first, values), state => by
    rw [Fields.places, serializeAll_tail, serializeAll_places channel rest]
    rfl

theorem all_equal_places : ∀ (fields : Fields) (left right : fields.Values),
    fields.places.all (equal left right) = equalFields fields left right
  | .nil, _, _ => rfl
  | .cons _ true _ rest, (left, lefts), (right, rights) => by
    rw [Fields.places, List.all_cons, List.all_map]
    exact congrArg (Wire.equal _ left right && ·) (all_equal_places rest lefts rights)
  | .cons _ false _ rest, (_, lefts), (_, rights) => by
    rw [Fields.places, List.all_map]
    exact all_equal_places rest lefts rights

theorem flatMap_hasherCalls_places : ∀ (fields : Fields) (values : fields.Values),
    fields.places.flatMap (hasherCalls values) = hasherCallsFields fields values
  | .nil, _ => rfl
  | .cons _ true _ rest, (first, values) => by
    rw [Fields.places, List.flatMap_cons, List.flatMap_map]
    exact congrArg (Wire.hasherCalls _ first ++ ·) (flatMap_hasherCalls_places rest values)
  | .cons _ false _ rest, (_, values) => by
    rw [Fields.places, List.flatMap_map]
    exact flatMap_hasherCalls_places rest values

end Place

end Wireform.Wire

/-! ## How the statements are written -/

namespace Wireform.Text.Doc

mutual
/-- The pieces of text in a document, whatever its layout. -/
@[simp] def texts : Doc → List String
  | .text content => [content]
  | .gap _ => []
  | .strut _ => []
  | .box _ _ content => textsAll content

@[simp] def textsAll : List Doc → List String
  | [] => []
  | head :: tail => head.texts ++ textsAll tail
end

@[simp] theorem textsAll_append (left right : List Doc) :
    textsAll (left ++ right) = textsAll left ++ textsAll right := by
  induction left with
  | nil => rfl
  | cons head tail induction =>
    rw [List.cons_append, textsAll, induction, textsAll, List.append_assoc]

theorem textsAll_flatMap {α : Type} (list : List α) (docs : α → List Doc) :
    textsAll (list.flatMap docs) = list.flatMap fun item => textsAll (docs item) := by
  induction list with
  | nil => rfl
  | cons head tail induction =>
    rw [List.flatMap_cons, textsAll_append, induction, List.flatMap_cons]

/-- A last gap is no text. -/
theorem textsAll_dropLast {content : List Doc} {last : Gap}
    (ends : content.getLast? = some (.gap last)) :
    textsAll content.dropLast = textsAll content :=
  calc textsAll content.dropLast
      = textsAll (content.dropLast ++ [.gap last]) := by
        rw [textsAll_append]
        exact (List.append_nil _).symm
    _ = textsAll content := by rw [List.dropLast_append_getLast? _ ends]

theorem texts_boxed (kind : BoxKind) (shift : Int) (content : List Doc) :
    (boxed kind shift content).texts = textsAll content := by
  unfold boxed
  extract_lets trimmed
  have same : textsAll trimmed = textsAll content := by
    unfold trimmed
    split
    case h_1 last ends =>
      split
      · exact textsAll_dropLast ends
      · rfl
    case h_2 => rfl
  clear_value trimmed
  rw [← same]
  split <;> rfl

@[simp] theorem texts_stack (shift : Int) (content : List Doc) :
    (stack shift content).texts = textsAll content :=
  texts_boxed .stacked shift content

@[simp] theorem texts_fill (shift : Int) (content : List Doc) :
    (fill shift content).texts = textsAll content :=
  texts_boxed .filled shift content

@[simp] theorem textsAll_closing (content : List Doc) :
    textsAll (closing content) = textsAll content := by
  rw [closing]
  split
  case h_1 last ends =>
    rw [textsAll_append, textsAll_dropLast ends]
    exact List.append_nil _
  case h_2 => rfl

end Wireform.Text.Doc

namespace Wireform.Generation

open Wireform.Text.Doc

namespace Template

variable (member : String)

@[simp] theorem texts_field (owner : String) :
    (field owner member).texts = [owner, "." ++ member] := by
  simp [field]

theorem textsAll_serializeField :
    textsAll (serializeField member) =
      ["serializer", ".serialize", "(", "&mut ", "self", "." ++ member, ")", "?", ";"] := by
  simp [serializeField, statement, call, items, commaSeparated]

theorem textsAll_hashField :
    textsAll (hashField member) =
      ["::autoser::HashField::hash_field", "(", "&", "self", "." ++ member, ",", "state", ")",
        ";"] := by
  simp [hashField, statement, call, items, commaSeparated]

theorem texts_fieldsEqual :
    (fieldsEqual member).texts = ["self", "." ++ member, "== ", "other", "." ++ member] := by
  simp [fieldsEqual, binary]

theorem textsAll_comparison (first : String) (rest : List String) :
    textsAll (comparison (first :: rest)) =
      (fieldsEqual first).texts ++
        rest.flatMap fun member => "&& " :: (fieldsEqual member).texts := by
  have joined (left : Text.Doc) :
      (rest.foldl (fun left member => binary "&&" left (fieldsEqual member)) left).texts =
        left.texts ++ rest.flatMap fun member => "&& " :: (fieldsEqual member).texts := by
    induction rest generalizing left with
    | nil => exact (List.append_nil _).symm
    | cons member rest induction =>
      rw [List.foldl_cons, induction, List.flatMap_cons]
      simp [binary]
  simp [comparison, result, joined]

end Template

namespace Impl

variable (members : List String) (self : List Text.Doc)

/-- The generated `serialize` moves the members one after the other. -/
theorem textsAll_serializable :
    textsAll ((serializable members).body self) =
      ["fn serialize<__S: ::autoser::Serializer>(", "&mut self", ",", "serializer: &mut __S", ")",
        " -> ::core::result::Result<(), __S::Error>", " \x7b"] ++
      members.flatMap (fun member =>
        ["serializer", ".serialize", "(", "&mut ", "self", "." ++ member, ")", "?", ";"]) ++
      ["::core::result::Result::Ok(())", "\x7d"] := by
  simp [serializable, Template.function, Template.result, items, commaSeparated, textsAll_flatMap,
    Template.textsAll_serializeField]

/-- The generated `hash` hashes the members one after the other. -/
theorem textsAll_hash :
    textsAll ((hash members).body self) =
      ["fn hash<__H: ::core::hash::Hasher>(", "&self", ",", "state: &mut __H", ")", " \x7b"] ++
      members.flatMap (fun member =>
        ["::autoser::HashField::hash_field", "(", "&", "self", "." ++ member, ",", "state", ")",
          ";"]) ++
      ["\x7d"] := by
  simp [hash, Template.function, items, commaSeparated, textsAll_flatMap,
    Template.textsAll_hashField]

/-- The generated `eq` compares the members one after the other. -/
theorem textsAll_partialEq (first : String) (rest : List String) :
    textsAll ((partialEq (first :: rest)).body self) =
      ["fn eq(", "&self", ",", "other: &"] ++ textsAll self ++ [")", " -> bool", " \x7b",
        "self", "." ++ first, "== ", "other", "." ++ first] ++
      rest.flatMap (fun member =>
        ["&& ", "self", "." ++ member, "== ", "other", "." ++ member]) ++ ["\x7d"] := by
  simp [partialEq, Template.function, items, commaSeparated, Template.textsAll_comparison,
    Template.texts_fieldsEqual]

end Impl

/-- Where the members of a blueprint are the included fields of a record, the statements of the
generated methods find them all, and do together what the record's operations do. -/
theorem Blueprint.statements_eq {blueprint : Blueprint} {fields : Wire.Fields}
    (distinct : fields.names.Nodup) (covered : blueprint.members = fields.members) :
    ∃ places, blueprint.members.map fields.place? = places.map some ∧
      (∀ {σ : Type} (channel : Wire.Channel σ) (values : fields.Values) (state : σ),
        Wire.Place.serializeAll channel places values state =
          Wire.serializeFields channel fields values state) ∧
      (∀ left right : fields.Values,
        places.all (Wire.Place.equal left right) = Wire.equalFields fields left right) ∧
      ∀ values : fields.Values,
        places.flatMap (Wire.Place.hasherCalls values) = Wire.hasherCallsFields fields values := by
  refine ⟨fields.places, ?_, fun channel => Wire.Place.serializeAll_places channel fields,
    Wire.Place.all_equal_places fields, Wire.Place.flatMap_hasherCalls_places fields⟩
  rw [covered]
  exact Wire.Fields.map_place?_members distinct

end Wireform.Generation
