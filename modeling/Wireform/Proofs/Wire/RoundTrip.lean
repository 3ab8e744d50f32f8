import Wireform.Proofs.Wire.Reading
import Wireform.Proofs.Wire.Writing

/-! # Round trips

Writing and reading undo each other. What is written is read back in front of anything, so an
encoding frames itself, and what is read is written back as it was, so an encoding is the only one
of its value. -/

namespace Wireform.Wire

variable {shape : Shape}

theorem serialize_encoding_append {value : shape.Value} (valueFits : fits shape value = true)
    (rest : List UInt8) :
    serialize Reader.channel shape shape.default (.ofBytes (encoding shape value ++ rest)) =
      ⟨restored shape value, ⟨(encoding shape value).length, rest⟩, none⟩ := by
  have reads := serialize_reads shape shape.default value (fits_default shape) valueFits 0 rest
  rw [Nat.zero_add] at reads
  exact reads

theorem fromBytes_encoding {value : shape.Value} (valueFits : fits shape value = true) :
    fromBytes shape (encoding shape value) = .ok (restored shape value) := by
  have reads := serialize_encoding_append valueFits []
  rw [List.append_nil] at reads
  rw [fromBytes, reads]
  rfl

theorem eq_encoding_of_fromBytes {value : shape.Value} {bytes : List UInt8}
    (decoded : fromBytes shape bytes = .ok value) :
    fits shape value = true ∧ bytes = encoding shape value := by
  cases moves : serialize Reader.channel shape shape.default (.ofBytes bytes) with
  | mk found after error =>
    cases error with
    | some error =>
      rw [fromBytes, moves] at decoded
      cases decoded
    | none =>
      simp only [fromBytes, moves, Outcome.toExcept, bind, Except.bind] at decoded
      split at decoded
      case isFalse => cases decoded
      case isTrue complete =>
        cases decoded
        rcases serialize_accepts shape shape.default moves with ⟨valueFits, spelled⟩
        rw [List.length_eq_zero_iff.mp complete, List.append_nil] at spelled
        exact ⟨valueFits, spelled⟩

/-- An encoding that another one begins with is that other one. -/
theorem encoding_eq_of_isPrefix {value other : shape.Value} (valueFits : fits shape value = true)
    (otherFits : fits shape other = true)
    (begins : encoding shape value <+: encoding shape other) :
    encoding shape value = encoding shape other := by
  rcases begins with ⟨rest, joined⟩
  have first := serialize_encoding_append valueFits rest
  have second := serialize_encoding_append otherFits []
  rw [List.append_nil, ← joined, first] at second
  have noRest : rest = [] := congrArg (fun outcome => Reader.rest outcome.state) second
  rw [← joined, noRest, List.append_nil]

/-- A value is written exactly if its lengths fit. Then it is read back from its bytes with any
other bytes behind them, which are left, and no other encoding begins with these bytes. -/
theorem roundTrip (shape : Shape) (value : shape.Value) :
    ((∃ bytes, toBytes shape value = .ok bytes) ↔ fits shape value = true) ∧
      ∀ bytes, toBytes shape value = .ok bytes →
        (∀ rest, serialize Reader.channel shape shape.default (.ofBytes (bytes ++ rest)) =
          ⟨restored shape value, ⟨bytes.length, rest⟩, none⟩) ∧
        fromBytes shape bytes = .ok (restored shape value) ∧
        ∀ other otherBytes, toBytes shape other = .ok otherBytes → bytes <+: otherBytes →
          bytes = otherBytes := by
  constructor
  · constructor
    · rintro ⟨bytes, written⟩
      exact (toBytes_eq_ok_iff.mp written).1
    · intro valueFits
      exact ⟨encoding shape value, toBytes_eq_ok_iff.mpr ⟨valueFits, rfl⟩⟩
  · intro bytes written
    rcases toBytes_eq_ok_iff.mp written with ⟨valueFits, rfl⟩
    refine ⟨serialize_encoding_append valueFits, fromBytes_encoding valueFits, ?_⟩
    intro other otherBytes otherWritten begins
    rcases toBytes_eq_ok_iff.mp otherWritten with ⟨otherFits, rfl⟩
    exact encoding_eq_of_isPrefix valueFits otherFits begins

/-- A point between two other bytes: its cached norm is not among the bytes and comes back as
zero. -/
theorem roundTrip_point :
    toBytes point ((1 : BitVec 32), (2 : BitVec 32), (99 : BitVec 64), ()) =
        .ok [1, 0, 0, 0, 2, 0, 0, 0] ∧
      fromBytes point [1, 0, 0, 0, 2, 0, 0, 0] =
        .ok ((1 : BitVec 32), (2 : BitVec 32), (0 : BitVec 64), ()) := by
  have written : toBytes point ((1 : BitVec 32), (2 : BitVec 32), (99 : BitVec 64), ()) =
      .ok [1, 0, 0, 0, 2, 0, 0, 0] := rfl
  exact ⟨written, ((roundTrip point _).2 _ written).2.1⟩

/-- Some bytes are read as a value exactly if the value is written as these bytes and the fields
that are left out hold their default. So bytes that are read as values with equal encodings are
equal. -/
theorem canonical (shape : Shape) :
    (∀ bytes value, fromBytes shape bytes = .ok value ↔
      toBytes shape value = .ok bytes ∧ restored shape value = value) ∧
    ∀ bytes other value otherValue, fromBytes shape bytes = .ok value →
      fromBytes shape other = .ok otherValue →
        toBytes shape value = toBytes shape otherValue → bytes = other := by
  have written {bytes : List UInt8} {value : shape.Value}
      (decoded : fromBytes shape bytes = .ok value) : toBytes shape value = .ok bytes :=
    toBytes_eq_ok_iff.mpr (eq_encoding_of_fromBytes decoded)
  constructor
  · intro bytes value
    constructor
    · intro decoded
      refine ⟨written decoded, ?_⟩
      rcases eq_encoding_of_fromBytes decoded with ⟨valueFits, rfl⟩
      exact Except.ok.inj ((fromBytes_encoding valueFits).symm.trans decoded)
    · rintro ⟨encoded, unchanged⟩
      rcases toBytes_eq_ok_iff.mp encoded with ⟨valueFits, rfl⟩
      rw [fromBytes_encoding valueFits, unchanged]
  · intro bytes other value otherValue decoded otherDecoded alike
    rw [written decoded, written otherDecoded] at alike
    exact Except.ok.inj alike

/-- A number that is present and a truth value, read and written back. -/
theorem canonical_optional :
    fromBytes (.tuple (.cons (.optional (.unsigned .two)) (.cons .bool .nil))) [1, 7, 0, 1] =
        .ok (some (7 : BitVec 16), true, ()) ∧
      toBytes (.tuple (.cons (.optional (.unsigned .two)) (.cons .bool .nil)))
        (some (7 : BitVec 16), true, ()) = .ok [1, 7, 0, 1] := by
  have decoded : fromBytes (.tuple (.cons (.optional (.unsigned .two)) (.cons .bool .nil)))
      [1, 7, 0, 1] = .ok (some (7 : BitVec 16), true, ()) := rfl
  exact ⟨decoded, (((canonical _).1 _ _).mp decoded).1⟩

end Wireform.Wire
