import Wireform.Wire.Shape
import Wireform.Wire.LittleEndian
import Wireform.Wire.Channel

namespace Wireform.Wire

/-! The wire form of every shape, given once for both directions. `serialize` moves a value over a
channel: a writer leaves the value alone, a reader replaces it. A failure stops the traversal, and
the outcome still says what the target and the channel held at that moment. -/

/-- The result of moving a value: what the target and the channel hold afterwards, and why the
traversal stopped early if it did. -/
structure Outcome (σ α : Type) where
  value : α
  state : σ
  error : Option Error

namespace Outcome

/-- The same outcome for a larger target that `whole` rebuilds around this one. -/
def map {σ α β : Type} (whole : α → β) (outcome : Outcome σ α) : Outcome σ β :=
  ⟨whole outcome.value, outcome.state, outcome.error⟩

/-- Moves a second value, which holds `other` before, after a first one that has to succeed. -/
def pair {σ α β : Type} (first : Outcome σ α) (other : β)
    (second : σ → Outcome σ β) : Outcome σ (α × β) :=
  match first.error with
  | some error => ⟨(first.value, other), first.state, some error⟩
  | none =>
    let rest := second first.state
    ⟨(first.value, rest.value), rest.state, rest.error⟩

def toExcept {σ α : Type} (outcome : Outcome σ α) : Except Error (α × σ) :=
  match outcome.error with
  | some error => .error error
  | none => .ok (outcome.value, outcome.state)

end Outcome

def maxLength : Nat := 0xffffffff

/-- How many bytes of a string are read at a time, so that a hostile length prefix cannot reserve
memory for bytes that never come. -/
def chunkSize : Nat := 256

section Parts
variable {σ : Type} (channel : Channel σ)

def serializeWord (count : Nat) (value : BitVec (8 * count)) (state : σ) :
    Outcome σ (BitVec (8 * count)) :=
  match channel.move (littleEndian count value.toNat) state with
  | .error error => ⟨value, state, some error⟩
  | .ok (bytes, state) => ⟨BitVec.ofNat _ (ofLittleEndian bytes), state, none⟩

/-- Moves a number and gives it back only if `accept` finds a value for it. -/
def serializeVia {α : Type} (count : Nat) (flaw : Flaw) (toWord : α → Nat)
    (accept : Nat → Option α) (value : α) (state : σ) : Outcome σ α :=
  let raw := serializeWord channel count (BitVec.ofNat _ (toWord value)) state
  match raw.error with
  | some error => ⟨value, raw.state, some error⟩
  | none =>
    match accept raw.value.toNat with
    | none => ⟨value, raw.state, some (.invalid flaw)⟩
    | some accepted => ⟨accepted, raw.state, none⟩

/-- A presence flag or a truth value is one byte, zero or one. -/
def boolOfWord : Nat → Option Bool
  | 0 => some false
  | 1 => some true
  | _ => none

theorem boolOfWord_toNat (value : Bool) : boolOfWord value.toNat = some value := by
  cases value <;> rfl

theorem toNat_of_boolOfWord : ∀ word value, boolOfWord word = some value → value.toNat = word
  | 0, _, rfl => rfl
  | 1, _, rfl => rfl
  | _ + 2, _, found => nomatch found

/-- A character is the number of a Unicode scalar value, in four bytes. -/
def charOfWord (word : Nat) : Option Char :=
  if valid : word.isValidChar then some (Char.ofNatAux word valid) else none

theorem charOfWord_toNat (value : Char) : charOfWord value.toNat = some value := by
  have valid : value.toNat.isValidChar := value.valid
  rw [charOfWord, dif_pos valid]
  rfl

theorem toNat_of_charOfWord (word : Nat) (value : Char) (found : charOfWord word = some value) :
    value.toNat = word := by
  by_cases valid : word.isValidChar
  · rw [charOfWord, dif_pos valid] at found
    cases found
    rfl
  · rw [charOfWord, dif_neg valid] at found
    cases found

def serializeBool : Bool → σ → Outcome σ Bool :=
  serializeVia channel 1 .notABool Bool.toNat boolOfWord

def serializeChar : Char → σ → Outcome σ Char :=
  serializeVia channel 4 .notAScalar Char.toNat charOfWord

/-- Moves a length prefix of four bytes. A length that does not fit is refused in both
directions. -/
def serializeLength (length : Nat) (state : σ) : Outcome σ Nat :=
  if maxLength < length then
    ⟨length, state, some (.invalid .tooLong)⟩
  else
    (serializeWord channel 4 (BitVec.ofNat _ length) state).map BitVec.toNat

/-- Reads `length` bytes chunk by chunk. What was read before a failing chunk is lost. -/
def readChunks (length : Nat) (state : σ) : Except Error (List UInt8) × σ :=
  if length = 0 then (.ok [], state)
  else
    let count := min length chunkSize
    match channel.move (List.replicate count 0) state with
    | .error error => (.error error, state)
    | .ok (bytes, state) =>
      match readChunks (length - count) state with
      | (.error error, state) => (.error error, state)
      | (.ok rest, state) => (.ok (bytes ++ rest), state)
termination_by length
decreasing_by simp only [chunkSize]; omega

/-- A string is its length in bytes and its UTF-8 bytes. -/
def serializeText (value : String) (state : σ) : Outcome σ String :=
  let length := serializeLength channel value.utf8ByteSize state
  match length.error with
  | some error => ⟨value, length.state, some error⟩
  | none =>
    if channel.reading then
      match readChunks channel length.value length.state with
      | (.error error, state) => ⟨value, state, some error⟩
      | (.ok bytes, state) =>
        match String.fromUTF8? ⟨bytes.toArray⟩ with
        | none => ⟨value, state, some (.invalid .notUtf8)⟩
        | some text => ⟨text, state, none⟩
    else
      match channel.move value.toUTF8.data.toList length.state with
      | .error error => ⟨value, length.state, some error⟩
      | .ok (_, state) => ⟨value, state, none⟩

def serializeItems {α : Type} (item : α → σ → Outcome σ α) : List α → σ → Outcome σ (List α)
  | [], state => ⟨[], state, none⟩
  | head :: tail, state =>
    ((item head state).pair tail (serializeItems item tail)).map fun (head, tail) => head :: tail

/-- Reads `count` new items. The items read before a failing one stay, the failing one does not. -/
def readItems {α : Type} (item : σ → Outcome σ α) : (count : Nat) → σ → Outcome σ (List α)
  | 0, state => ⟨[], state, none⟩
  | count + 1, state =>
    let head := item state
    match head.error with
    | some error => ⟨[], head.state, some error⟩
    | none => (readItems item count head.state).map (head.value :: ·)

def serializeRow {α : Type} (item : α → σ → Outcome σ α) :
    (length : Nat) → Row α length → σ → Outcome σ (Row α length)
  | 0, _, state => ⟨(), state, none⟩
  | length + 1, (head, tail), state => (item head state).pair tail (serializeRow item length tail)

/-- A sequence is its length and its items. A reader drops the old items and starts each new one
from `fresh`. -/
def serializeSequence {α : Type} (fresh : α) (item : α → σ → Outcome σ α)
    (value : List α) (state : σ) : Outcome σ (List α) :=
  let length := serializeLength channel value.length state
  match length.error with
  | some error => ⟨value, length.state, some error⟩
  | none =>
    if channel.reading then
      readItems (item fresh) length.value length.state
    else
      serializeItems item value length.state

/-- An optional value is a presence flag, followed by the content if there is one. A reader starts
the content from `fresh` and keeps the old target if the content cannot be read. -/
def serializeOptional {α : Type} (fresh : α) (item : α → σ → Outcome σ α)
    (value : Option α) (state : σ) : Outcome σ (Option α) :=
  let present := serializeBool channel value.isSome state
  match present.error with
  | some error => ⟨value, present.state, some error⟩
  | none =>
    match present.value, channel.reading, value with
    | false, _, _ => ⟨none, present.state, none⟩
    | true, true, old =>
      let content := item fresh present.state
      match content.error with
      | some error => ⟨old, content.state, some error⟩
      | none => ⟨some content.value, content.state, none⟩
    | true, false, some content => (item content present.state).map some
    | true, false, none => ⟨none, present.state, none⟩

end Parts

mutual
def serialize {σ : Type} (channel : Channel σ) :
    (shape : Shape) → shape.Value → σ → Outcome σ shape.Value
  | .unsigned width, value, state => serializeWord channel width.bytes value state
  | .signed width, value, state => serializeWord channel width.bytes value state
  | .float precision, value, state => serializeWord channel precision.bytes value state
  | .bool, value, state => serializeBool channel value state
  | .char, value, state => serializeChar channel value state
  | .text, value, state => serializeText channel value state
  | .unit, value, state => ⟨value, state, none⟩
  | .sequence item, value, state =>
    serializeSequence channel item.default (serialize channel item) value state
  | .optional content, value, state =>
    serializeOptional channel content.default (serialize channel content) value state
  | .boxed content, value, state => serialize channel content value state
  | .array length item, value, state => serializeRow (serialize channel item) length value state
  | .tuple items, value, state => serializeTuple channel items value state
  | .record _ _ fields, value, state => serializeFields channel fields value state

def serializeTuple {σ : Type} (channel : Channel σ) :
    (shapes : Shapes) → shapes.Values → σ → Outcome σ shapes.Values
  | .nil, value, state => ⟨value, state, none⟩
  | .cons head tail, (first, rest), state =>
    (serialize channel head first state).pair rest (serializeTuple channel tail rest)

/-- Moves the included fields of a record, in order. -/
def serializeFields {σ : Type} (channel : Channel σ) :
    (fields : Fields) → fields.Values → σ → Outcome σ fields.Values
  | .nil, value, state => ⟨value, state, none⟩
  | .cons _ true shape tail, (first, rest), state =>
    (serialize channel shape first state).pair rest (serializeFields channel tail rest)
  | .cons _ false _ tail, (first, rest), state =>
    (serializeFields channel tail rest state).map fun rest => (first, rest)
end

def toBytes (shape : Shape) (value : shape.Value) : Except Error (List UInt8) :=
  (serialize Writer.channel shape value Writer.empty).toExcept.map
    fun (_, writer) => writer.buffer.toList

/-- The value that these bytes are, all of them. -/
def fromBytes (shape : Shape) (bytes : List UInt8) : Except Error shape.Value := do
  let (value, reader) ←
    (serialize Reader.channel shape shape.default (Reader.ofBytes bytes)).toExcept
  if reader.remaining = 0 then .ok value else .error (.trailing reader.remaining)

end Wireform.Wire
