namespace Wireform.Wire

/-! A channel moves blocks of bytes between a value and a buffer. Both directions have one
interface, so that one description of a type's wire form serves for writing and for reading:
a writer hands the block back as it was, a reader hands back what it found instead. -/

inductive Flaw where
  | notABool
  | notAScalar
  | notUtf8
  | tooLong
  deriving DecidableEq, Repr, Inhabited

def Flaw.reason : Flaw → String
  | .notABool => "bool must be 0 or 1"
  | .notAScalar => "invalid char scalar"
  | .notUtf8 => "string is not valid UTF-8"
  | .tooLong => "length exceeds u32::MAX"

inductive Error where
  /-- The input ended before a block was complete. -/
  | endOfInput (needed remaining : Nat)
  | invalid (flaw : Flaw)
  /-- The input goes on after the value. -/
  | trailing (remaining : Nat)
  deriving DecidableEq, Repr, Inhabited

def Error.message : Error → String
  | .endOfInput needed remaining =>
    s!"unexpected end of input: needed {needed} bytes, {remaining} remaining"
  | .invalid flaw => s!"invalid data: {flaw.reason}"
  | .trailing remaining => s!"{remaining} trailing bytes after value"

/-- A way to move blocks, with the state it keeps between blocks. A failed move leaves the state
as it was. -/
structure Channel (σ : Type) where
  reading : Bool
  move : List UInt8 → σ → Except Error (List UInt8 × σ)

structure Writer where
  buffer : Array UInt8
  deriving DecidableEq, Inhabited

namespace Writer

def empty : Writer := ⟨#[]⟩

def append (writer : Writer) (block : List UInt8) : Writer :=
  ⟨writer.buffer.appendList block⟩

@[simp] theorem buffer_append (writer : Writer) (block : List UInt8) :
    (writer.append block).buffer.toList = writer.buffer.toList ++ block := by
  simp [append]

def channel : Channel Writer where
  reading := false
  move block writer := .ok (block, writer.append block)

end Writer

/-- An input that is read from the front: how many bytes were taken, and what is left. -/
structure Reader where
  position : Nat
  rest : List UInt8
  deriving DecidableEq, Inhabited

namespace Reader

def ofBytes (bytes : List UInt8) : Reader := ⟨0, bytes⟩

def remaining (reader : Reader) : Nat := reader.rest.length

/-- Takes `count` bytes off the front, or nothing at all when there are fewer. -/
def take (count : Nat) (reader : Reader) : Except Error (List UInt8 × Reader) :=
  let taken := reader.rest.take count
  if taken.length < count then
    .error (.endOfInput count reader.remaining)
  else
    .ok (taken, ⟨reader.position + count, reader.rest.drop count⟩)

/-- Reading replaces the block by as many bytes of the input. -/
def channel : Channel Reader where
  reading := true
  move block reader := reader.take block.length

example : (take 2 (ofBytes [1, 2, 3])).toOption = some ([1, 2], ⟨2, [3]⟩) := by decide

/-- The bytes taken and the bytes left are the input. -/
theorem take_eq_ok_iff {count : Nat} {reader : Reader} {taken : List UInt8} {after : Reader} :
    reader.take count = .ok (taken, after) ↔
      count ≤ reader.remaining ∧ taken = reader.rest.take count ∧
        after = ⟨reader.position + count, reader.rest.drop count⟩ := by
  unfold take remaining
  simp only [List.length_take]
  split <;> rename_i short
  · simp; omega
  · simp only [Except.ok.injEq, Prod.mk.injEq]
    constructor
    · rintro ⟨rfl, rfl⟩
      exact ⟨by omega, rfl, rfl⟩
    · rintro ⟨_, rfl, rfl⟩
      exact ⟨rfl, rfl⟩

end Reader

end Wireform.Wire
