import Wireform.Wire.LittleEndian
import Wireform.Wire.Equality

namespace Wireform.Wire

/-! The bytes a value feeds to a hasher. Values that compare equal feed the same bytes: a zero
loses its sign, and a field that takes no part in the comparison takes no part in the hash. -/

mutual
/-- Whether hashing is defined for a shape: every record inside it has generated equality. -/
def Shape.hashable : Shape → Bool
  | .sequence item => item.hashable
  | .optional content => content.hashable
  | .boxed content => content.hashable
  | .array _ item => item.hashable
  | .tuple items => items.hashable
  | .record _ equality fields => equality && fields.hashable
  | _ => true

def Shapes.hashable : Shapes → Bool
  | .nil => true
  | .cons head tail => head.hashable && tail.hashable

def Fields.hashable : Fields → Bool
  | .nil => true
  | .cons _ included shape rest => (!included || shape.hashable) && rest.hashable
end

/-- The byte that ends a string; it occurs in no UTF-8 text. -/
def textEnd : UInt8 := 0xff

mutual
/-- What a value feeds to a hasher, in order. -/
def hashStream : (shape : Shape) → shape.Value → List UInt8
  | .unsigned width, value =>
    littleEndian width.bytes (BitVec.toNat (value : BitVec (8 * width.bytes)))
  | .signed width, value =>
    littleEndian width.bytes (BitVec.toNat (value : BitVec (8 * width.bytes)))
  | .float precision, value =>
    littleEndian precision.bytes
      (if precision.isZero value then 0
        else BitVec.toNat (value : BitVec (8 * precision.bytes)))
  | .bool, value => [UInt8.ofNat (Bool.toNat value)]
  | .char, value => littleEndian 4 (Char.toNat value)
  | .text, value => (String.toUTF8 value).data.toList ++ [textEnd]
  | .unit, _ => []
  | .sequence item, value =>
    littleEndian 8 (List.length value) ++ List.flatMap (hashStream item) value
  | .optional _, none => [0]
  | .optional content, some value => 1 :: hashStream content value
  | .boxed content, value => hashStream content value
  | .array _ item, value => (Row.toList value).flatMap (hashStream item)
  | .tuple items, value => hashTuple items value
  | .record _ _ fields, value => hashFields fields value

def hashTuple : (shapes : Shapes) → shapes.Values → List UInt8
  | .nil, _ => []
  | .cons head tail, (first, rest) => hashStream head first ++ hashTuple tail rest

def hashFields : (fields : Fields) → fields.Values → List UInt8
  | .nil, _ => []
  | .cons _ true shape tail, (first, rest) => hashStream shape first ++ hashFields tail rest
  | .cons _ false _ tail, (_, rest) => hashFields tail rest
end

end Wireform.Wire
