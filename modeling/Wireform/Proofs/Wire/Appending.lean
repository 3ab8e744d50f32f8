import Wireform.Proofs.Wire.Writing
import Wireform.Wire.Equality

/-! # Appending

Writing a value leaves it alone and adds bytes behind what the writer holds, the same ones whatever
that is. The bytes of a composite value are those of its members in a row. -/

namespace Wireform.Wire

/-! ## Members -/

def tupleMembers : (shapes : Shapes) → shapes.Values → List AnyValue
  | .nil, _ => []
  | .cons head tail, (first, rest) => ⟨head, first⟩ :: tupleMembers tail rest

def fieldMembers : (fields : Fields) → fields.Values → List AnyValue
  | .nil, _ => []
  | .cons _ true shape tail, (first, rest) => ⟨shape, first⟩ :: fieldMembers tail rest
  | .cons _ false _ tail, (_, rest) => fieldMembers tail rest

/-- The serialized members of a record, a tuple or an array, in the order of their declaration. -/
def members? : (shape : Shape) → shape.Value → Option (List AnyValue)
  | .array _ item, value => some ((Row.toList value).map fun element => ⟨item, element⟩)
  | .tuple items, value => some (tupleMembers items value)
  | .record _ _ fields, value => some (fieldMembers fields value)
  | _, _ => none

def AnyValue.toBytes (any : AnyValue) : Except Error (List UInt8) :=
  Wire.toBytes any.shape any.value

def AnyValue.encoding (any : AnyValue) : List UInt8 := Wire.encoding any.shape any.value

def AnyValue.fits (any : AnyValue) : Bool := Wire.fits any.shape any.value

theorem mapM_toBytes (members : List AnyValue) :
    members.mapM AnyValue.toBytes =
      if members.all AnyValue.fits then .ok (members.map AnyValue.encoding)
      else .error (.invalid .tooLong) := by
  induction members with
  | nil => rfl
  | cons member rest induction =>
    rw [List.mapM_cons, induction, AnyValue.toBytes, toBytes_eq, List.all_cons, AnyValue.fits]
    cases Wire.fits member.shape member.value with
    | false => rfl
    | true => cases rest.all AnyValue.fits <;> rfl

theorem encodingTuple_eq (shapes : Shapes) (values : shapes.Values) :
    encodingTuple shapes values = ((tupleMembers shapes values).map AnyValue.encoding).flatten ∧
      fitsTuple shapes values = (tupleMembers shapes values).all AnyValue.fits := by
  cases shapes with
  | nil => exact ⟨rfl, rfl⟩
  | cons head tail =>
    rcases values with ⟨first, rest⟩
    rcases encodingTuple_eq tail rest with ⟨spelled, fit⟩
    rw [encodingTuple, fitsTuple, spelled, fit]
    exact ⟨rfl, rfl⟩

theorem encodingFields_eq (fields : Fields) (values : fields.Values) :
    encodingFields fields values = ((fieldMembers fields values).map AnyValue.encoding).flatten ∧
      fitsFields fields values = (fieldMembers fields values).all AnyValue.fits := by
  cases fields with
  | nil => exact ⟨rfl, rfl⟩
  | cons name included shape tail =>
    rcases values with ⟨first, rest⟩
    rcases encodingFields_eq tail rest with ⟨spelled, fit⟩
    cases included with
    | true =>
      rw [encodingFields, fitsFields, spelled, fit]
      exact ⟨rfl, rfl⟩
    | false => exact ⟨spelled, fit⟩

theorem encoding_of_members? {shape : Shape} {value : shape.Value} {members : List AnyValue}
    (known : members? shape value = some members) :
    encoding shape value = (members.map AnyValue.encoding).flatten ∧
      fits shape value = members.all AnyValue.fits := by
  cases shape with
  | array length item =>
    cases known
    rw [List.map_map, List.all_map]
    exact ⟨List.flatMap_def, rfl⟩
  | tuple items =>
    cases known
    exact encodingTuple_eq items value
  | record name equality fields =>
    cases known
    exact encodingFields_eq fields value
  | _ => cases known

/-- Writing a value, over whatever the writer holds: the value stays as it is, one block of bytes is
appended, and the end is success exactly if all lengths fit. Then the block is the value's bytes.
Those of a record, a tuple or an array are its members' bytes in a row, and it has none if one of
them has none. -/
theorem appending (shape : Shape) (value : shape.Value) :
    (∃ block, ∀ writer,
      let outcome := serialize Writer.channel shape value writer
      outcome.value = value ∧ outcome.state.buffer.toList = writer.buffer.toList ++ block ∧
        (fits shape value = true ∧ outcome.error = none ∧ toBytes shape value = .ok block ∨
          fits shape value = false ∧ outcome.error = some (.invalid .tooLong) ∧
            toBytes shape value = .error (.invalid .tooLong))) ∧
      ∀ members, members? shape value = some members →
        toBytes shape value = (members.mapM AnyValue.toBytes).map List.flatten := by
  constructor
  · rcases serialize_writes shape value with ⟨block, spelled, moves⟩
    refine ⟨block, fun writer => ?_⟩
    rw [moves, toBytes_eq]
    refine ⟨rfl, writer.buffer_append block, ?_⟩
    cases fit : fits shape value with
    | true => exact .inl ⟨rfl, rfl, by rw [spelled fit]; rfl⟩
    | false => exact .inr ⟨rfl, rfl, rfl⟩
  · intro members known
    rcases encoding_of_members? known with ⟨spelled, fit⟩
    rw [toBytes_eq, mapM_toBytes, spelled, fit]
    cases members.all AnyValue.fits <;> rfl

/-- A point, whose cached norm is no member on the wire, behind a byte that was written before. -/
theorem appending_point :
    let value : point.Value := ((1 : BitVec 32), (2 : BitVec 32), (99 : BitVec 64), ())
    let members : List AnyValue :=
      [⟨.signed .four, (1 : BitVec 32)⟩, ⟨.signed .four, (2 : BitVec 32)⟩]
    let outcome := serialize Writer.channel point value (Writer.empty.append [7])
    members? point value = some members ∧
      outcome.value = value ∧ outcome.state.buffer.toList = [7, 1, 0, 0, 0, 2, 0, 0, 0] ∧
      toBytes point value = (members.mapM AnyValue.toBytes).map List.flatten := by
  intro value members outcome
  have known : members? point value = some members := rfl
  rcases appending point value with ⟨⟨block, appends⟩, together⟩
  rcases appends (Writer.empty.append [7]) with ⟨same, -, -⟩
  exact ⟨known, same, rfl, together members known⟩

end Wireform.Wire
