import Wireform.Proofs.Wire.Frames
import Wireform.Proofs.Wire.Hashing

/-! # Hash input

What a value feeds to a hasher tells it apart from every other value of its shape, as far as
comparison can, and shows where it ends: a number has a fixed width, a text ends in a byte that no
text holds, a sequence starts with its length and an optional value with its presence. So what is
hashed next can never run together with it. -/

namespace Wireform.Wire

/-! ## Texts -/

/-- The bytes of a character have a zero among their five highest bits. -/
theorem textEnd_notMem_utf8EncodeChar (letter : Char) :
    textEnd ∉ String.utf8EncodeChar letter := by
  have small {number : Nat} (bound : number < 255) : textEnd ≠ UInt8.ofNat number := by
    intro same
    have numbers := congrArg UInt8.toNat same
    rw [UInt8.toNat_ofNat', Nat.mod_eq_of_lt (by omega)] at numbers
    rw [← numbers] at bound
    exact absurd bound (by decide)
  rw [String.utf8EncodeChar.eq_1]
  repeat' split
  all_goals simp only [List.mem_cons, List.not_mem_nil, or_false, not_or]
  · exact small (by omega)
  · exact ⟨small (by omega), small (by omega)⟩
  · exact ⟨small (by omega), small (by omega), small (by omega)⟩
  · exact ⟨small (by omega), small (by omega), small (by omega), small (by omega)⟩

theorem textEnd_notMem_toUTF8 (text : String) : textEnd ∉ text.toUTF8.data.toList := by
  have bytes : text.toUTF8.data.toList = text.toList.flatMap String.utf8EncodeChar := by
    have encoded : text.toUTF8 = (text.toList.flatMap String.utf8EncodeChar).toByteArray :=
      String.utf8Encode_toList.symm
    rw [encoded, List.data_toByteArray]
  rw [bytes, List.mem_flatMap]
  rintro ⟨letter, _, among⟩
  exact textEnd_notMem_utf8EncodeChar letter among

/-! ## Values that a machine can hold -/

mutual
/-- Whether the length of every sequence that is hashed is a number of the width of a pointer. -/
def addressable : (shape : Shape) → shape.Value → Bool
  | .unsigned _, _ => true
  | .signed _, _ => true
  | .float _, _ => true
  | .bool, _ => true
  | .char, _ => true
  | .text, _ => true
  | .unit, _ => true
  | .sequence item, value =>
    decide (List.length value < Nat.pow 256 Width.pointer.bytes) &&
      List.all value (addressable item)
  | .optional content, value => (Option.toList value).all (addressable content)
  | .boxed content, value => addressable content value
  | .array _ item, value => (Row.toList value).all (addressable item)
  | .tuple items, value => addressableTuple items value
  | .record _ _ fields, value => addressableFields fields value

def addressableTuple : (shapes : Shapes) → shapes.Values → Bool
  | .nil, _ => true
  | .cons head tail, (first, rest) => addressable head first && addressableTuple tail rest

def addressableFields : (fields : Fields) → fields.Values → Bool
  | .nil, _ => true
  | .cons _ true shape tail, (first, rest) =>
    addressable shape first && addressableFields tail rest
  | .cons _ false _ tail, (_, rest) => addressableFields tail rest
end

/-! ## Frames of all shapes -/

theorem framed_word (count : Nat) :
    FramedUpTo id (fun word : BitVec (8 * count) => littleEndian count word.toNat)
      fun _ => True := by
  have small (word : BitVec (8 * count)) : word.toNat < Nat.pow 256 count := by
    rw [pow_256_eq]
    exact word.isLt
  intro left right rest other _ _ alike
  rcases littleEndian_framed count (small left) (small right) alike with ⟨same, sameRest⟩
  exact ⟨BitVec.eq_of_toNat_eq same, sameRest⟩

theorem framed_float (precision : Precision) :
    FramedUpTo precision.settled
      (fun bits : BitVec (8 * precision.bytes) =>
        littleEndian precision.bytes (if precision.isZero bits then 0 else bits.toNat))
      fun _ => True := by
  have bits (value : BitVec (8 * precision.bytes)) :
      (if precision.isZero value then 0 else value.toNat) = (precision.settled value).toNat := by
    rw [Precision.settled]
    split <;> rfl
  simp only [bits]
  intro left right rest other _ _ alike
  exact framed_word precision.bytes trivial trivial alike

theorem framed_bool :
    FramedUpTo id (fun value : Bool => [UInt8.ofNat value.toNat]) fun _ => True := by
  apply FramedUpTo.of_length fun _ => List.length_singleton
  intro left right _ _ same
  cases left <;> cases right <;> first | rfl | cases same

theorem framed_char :
    FramedUpTo id (fun letter : Char => littleEndian 4 letter.toNat) fun _ => True := by
  have small (letter : Char) : letter.toNat < Nat.pow 256 4 := letter.val.toNat_lt
  intro left right rest other _ _ alike
  rcases littleEndian_framed 4 (small left) (small right) alike with ⟨same, sameRest⟩
  exact ⟨Char.toNat_inj.mp same, sameRest⟩

theorem framed_text :
    FramedUpTo id (fun text : String => text.toUTF8.data.toList ++ [textEnd]) fun _ => True := by
  intro left right rest other _ _ alike
  have first (text : String) (rest : List UInt8) :
      (text.toUTF8.data.toList ++ [textEnd] ++ rest).takeWhile (· ≠ textEnd) =
        text.toUTF8.data.toList := by
    rw [List.append_assoc, List.takeWhile_append_of_pos]
    · simp
    · intro byte among
      exact decide_eq_true fun ends => textEnd_notMem_toUTF8 text (ends ▸ among)
  have bytes := congrArg (List.takeWhile (· ≠ textEnd)) alike
  rw [first, first] at bytes
  have same : left = right := String.toByteArray_inj.mp (ByteArray.ext (Array.ext' bytes))
  cases same
  exact ⟨rfl, List.append_cancel_left alike⟩

section Containers
variable {α β : Type} {settle : α → β} {stream : α → List UInt8} {fit : α → Bool}
  (framed : FramedUpTo settle stream (fit · = true))
include framed

theorem framed_sequence :
    FramedUpTo (List.map settle)
      (fun values => littleEndian 8 values.length ++ values.flatMap stream)
      (fun values => (decide (values.length < Nat.pow 256 8) && values.all fit) = true) := by
  intro left right rest other leftFits rightFits alike
  rw [Bool.and_eq_true, decide_eq_true_iff, List.all_eq_true] at leftFits rightFits
  simp only [List.append_assoc] at alike
  rcases littleEndian_framed 8 leftFits.1 rightFits.1 alike with ⟨lengths, alikeItems⟩
  exact framed.flatMap lengths leftFits.2 rightFits.2 alikeItems

/-- A presence flag tells a missing value from one that is there. -/
theorem framed_optional {whole : Option α → List UInt8} (absent : whole none = [0])
    (present : ∀ value, whole (some value) = 1 :: stream value) :
    FramedUpTo (Option.map settle) whole (fun value => value.toList.all fit = true) := by
  intro left right rest other leftFits rightFits alike
  rw [List.all_eq_true] at leftFits rightFits
  cases left with
  | none =>
    cases right with
    | none =>
      rw [absent] at alike
      exact ⟨rfl, List.append_cancel_left alike⟩
    | some right =>
      rw [absent, present] at alike
      cases (List.cons.inj alike).1
  | some left =>
    cases right with
    | none =>
      rw [absent, present] at alike
      cases (List.cons.inj alike).1
    | some right =>
      rw [present, present] at alike
      rcases framed (leftFits left List.mem_cons_self) (rightFits right List.mem_cons_self)
        (List.cons.inj alike).2 with ⟨same, sameRest⟩
      exact ⟨congrArg some same, sameRest⟩

theorem framed_row : ∀ length : Nat,
    FramedUpTo (Row.map settle) (fun row : Row α length => row.toList.flatMap stream)
      (fun row => row.toList.all fit = true)
  | 0 => fun _ _ _ _ _ _ alike => ⟨rfl, alike⟩
  | length + 1 =>
    (framed.pair (framed_row length)).of_fits fun _ => Bool.and_eq_true_iff.mp

end Containers

mutual
theorem hashStream_framed : ∀ (shape : Shape),
    FramedUpTo (settled shape) (hashStream shape) (addressable shape · = true)
  | .unsigned width => (framed_word width.bytes).of_fits fun _ _ => trivial
  | .signed width => (framed_word width.bytes).of_fits fun _ _ => trivial
  | .float precision => (framed_float precision).of_fits fun _ _ => trivial
  | .bool => framed_bool.of_fits fun _ _ => trivial
  | .char => framed_char.of_fits fun _ _ => trivial
  | .text => framed_text.of_fits fun _ _ => trivial
  | .unit => fun _ _ _ _ _ _ alike => ⟨rfl, alike⟩
  | .sequence item => framed_sequence (hashStream_framed item)
  | .optional content => framed_optional (hashStream_framed content) rfl fun _ => rfl
  | .boxed content => hashStream_framed content
  | .array length item => framed_row (hashStream_framed item) length
  | .tuple items => hashTuple_framed items
  | .record _ _ fields => hashFields_framed fields

theorem hashTuple_framed : ∀ (shapes : Shapes),
    FramedUpTo (settledTuple shapes) (hashTuple shapes) (addressableTuple shapes · = true)
  | .nil => fun _ _ _ _ _ _ alike => ⟨rfl, alike⟩
  | .cons head tail =>
    ((hashStream_framed head).pair (hashTuple_framed tail)).of_fits fun _ =>
      Bool.and_eq_true_iff.mp

theorem hashFields_framed : ∀ (fields : Fields),
    FramedUpTo (settledFields fields) (hashFields fields) (addressableFields fields · = true)
  | .nil => fun _ _ _ _ _ _ alike => ⟨rfl, alike⟩
  | .cons _ true shape tail =>
    ((hashStream_framed shape).pair (hashFields_framed tail)).of_fits fun _ =>
      Bool.and_eq_true_iff.mp
  | .cons _ false _ tail => by
    rintro ⟨_, left⟩ ⟨_, right⟩ rest other leftFits rightFits alike
    rcases hashFields_framed tail leftFits rightFits alike with ⟨same, sameRest⟩
    exact ⟨congrArg (Prod.mk _) same, sameRest⟩
end

/-! ## What is told apart -/

theorem hashStream_settled (shape : Shape) (value : shape.Value) :
    hashStream shape (settled shape value) = hashStream shape value := by
  rw [← flatMap_bytes_hasherCalls, ← flatMap_bytes_hasherCalls, hasherCalls_settled]

/-- Two values of one shape feed a hasher the same bytes, with whatever follows them, exactly if the
same follows and the values agree, but for the signs of zeros, in all that is not left out. So two
values that can be compared feed it the same bytes exactly if they compare equal. -/
theorem hashing_unambiguous {shape : Shape} {left right : shape.Value}
    (leftFits : addressable shape left = true) (rightFits : addressable shape right = true) :
    (∀ rest other, hashStream shape left ++ rest = hashStream shape right ++ other ↔
      settled shape left = settled shape right ∧ rest = other) ∧
    (comparable shape left = true → comparable shape right = true →
      (hashStream shape left = hashStream shape right ↔ equal shape left right = true)) := by
  have framed (rest other : List UInt8) :
      hashStream shape left ++ rest = hashStream shape right ++ other ↔
        settled shape left = settled shape right ∧ rest = other := by
    constructor
    · exact fun alike => hashStream_framed shape leftFits rightFits alike
    · rintro ⟨same, rfl⟩
      rw [← hashStream_settled shape left, same, hashStream_settled]
  refine ⟨framed, ?_⟩
  intro leftPlain rightPlain
  have alone := framed [] []
  rw [List.append_nil, List.append_nil] at alone
  rw [alone, equal_eq_true_iff, leftPlain, rightPlain]
  simp

/-- Two neighbouring sequences: a zero can lose its sign, but no item can change sides. -/
theorem hashing_unambiguous_neighbours :
    let pair : Shape :=
      .tuple (.cons (.sequence (.unsigned .one)) (.cons (.sequence (.float .single)) .nil))
    let first : pair.Value := ([(1 : BitVec 8)], [(0x80000000 : BitVec 32)], ())
    let second : pair.Value := ([(1 : BitVec 8)], [(0 : BitVec 32)], ())
    let third : pair.Value := (([1, 0, 0, 0, 0] : List (BitVec 8)), ([] : List (BitVec 32)), ())
    addressable pair first = true ∧ addressable pair second = true ∧
      addressable pair third = true ∧ hashStream pair first ++ [7] = hashStream pair second ++ [7] ∧
      equal pair first second = true ∧
      ∀ rest other, hashStream pair second ++ rest ≠ hashStream pair third ++ other := by
  intro pair first second third
  have firstFits : addressable pair first = true := by decide
  have secondFits : addressable pair second = true := by decide
  have thirdFits : addressable pair third = true := by decide
  have alike := hashing_unambiguous firstFits secondFits
  have same : hashStream pair first ++ [7] = hashStream pair second ++ [7] :=
    (alike.1 [7] [7]).mpr ⟨rfl, rfl⟩
  have plain : comparable pair first = true ∧ comparable pair second = true := by decide
  refine ⟨firstFits, secondFits, thirdFits, same,
    (alike.2 plain.1 plain.2).mp (List.append_cancel_right same), ?_⟩
  intro rest other joined
  have settledAlike := (((hashing_unambiguous secondFits thirdFits).1 rest other).mp joined).1
  have lengths := congrArg (fun value : pair.Value => List.length (Prod.fst value)) settledAlike
  exact absurd lengths (by decide)

end Wireform.Wire
