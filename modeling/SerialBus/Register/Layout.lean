import SerialBus.Register.Field

/-!
# Register layouts

A layout names the fields of a register in the order in which they are
declared.  The bits of its fields are the defined bits; a register value may
carry others, which every operation here keeps unless it says that it does not.

A value is written out as the names of the fields it fills (`Layout.text`).  A
field is named when all its bits are set and at least one of them was not
covered by a name before it; bits that no name covers follow as one hexadecimal
number.
-/

set_option autoImplicit false

namespace SerialBus

/-- A register's name and its named fields. -/
structure Layout where
  name : String
  fields : List (String × Field)
  deriving Repr

namespace Layout

/-- The bits that belong to some field. -/
def defined (layout : Layout) : UInt32 :=
  layout.fields.foldl (fun bits field => bits ||| field.2.mask) 0

/-- The defined bits of a value. -/
def truncate (layout : Layout) (value : UInt32) : UInt32 :=
  value &&& layout.defined

/-- The defined bits that a value leaves clear. -/
def complement (layout : Layout) (value : UInt32) : UInt32 :=
  layout.truncate (~~~value)

/-- The value itself, when it has no undefined bit. -/
def checked (layout : Layout) (value : UInt32) : Option UInt32 :=
  if value &&& ~~~layout.defined = 0 then some value else none

/-- Whether every defined bit is set. -/
def isAll (layout : Layout) (value : UInt32) : Bool :=
  layout.defined ||| value = value

/-! ## Values as text -/

/-- A number in lower-case hexadecimal digits. -/
def hexadecimal (value : UInt32) : String :=
  "0x" ++ String.ofList (Nat.toDigits 16 value.toNat)

/-- The names of the fields that a value fills, given the bits of the value that
no earlier name covers. -/
def names (value : UInt32) : List (String × Field) → UInt32 → List String
  | [], rest => if rest = 0 then [] else [hexadecimal rest]
  | (name, field) :: fields, rest =>
      if field.isFull value && rest &&& field.mask ≠ 0 then
        name :: names value fields (rest &&& ~~~field.mask)
      else names value fields rest

/-- A value written out by the names of its fields. -/
def text (layout : Layout) (value : UInt32) : String :=
  let shown := if value = 0 then hexadecimal 0
    else " | ".intercalate (names value layout.fields value)
  layout.name ++ "(" ++ shown ++ ")"

end Layout

/-! ## Sets of bits -/

/-- Whether a value has every bit of another. -/
def containsBits (value bits : UInt32) : Bool :=
  value &&& bits = bits

/-- Whether two values have a bit in common. -/
def intersectsBits (value bits : UInt32) : Bool :=
  value &&& bits ≠ 0

/-- A value without the bits of another. -/
def withoutBits (value bits : UInt32) : UInt32 :=
  value &&& ~~~bits

end SerialBus
