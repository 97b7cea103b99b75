import RulePlane.Number.Binary64
import RulePlane.Wire.Varint

/-!
# Message fields

A message on the wire is a row of numbered fields, each a varint, eight bytes, or a delimited row
of bytes. A scalar with the default value of its type is left out; a nested message that is set is
written even if it is empty.
-/

namespace RulePlane.Wire

/-- What a field carries. -/
inductive Payload where
  | varint (number : Nat)
  | fixed64 (bits : Nat)
  | delimited (bytes : Bytes)
deriving DecidableEq, Repr

/-- A numbered field. -/
structure Field where
  number : Nat
  payload : Payload
deriving DecidableEq, Repr

namespace Payload

/-- The number by which a field's key announces the form of its payload. -/
def wireType : Payload → Nat
  | varint _ => 0
  | fixed64 _ => 1
  | delimited _ => 2

/-- The bytes of a payload behind its key. -/
def write : Payload → Bytes
  | varint number => Wire.varint number
  | fixed64 bits => littleEndian 8 bits
  | delimited bytes => Wire.varint bytes.length ++ bytes

end Payload

/-- The bytes of a field: its key, then its payload. -/
def Field.write (field : Field) : Bytes :=
  varint (8 * field.number + field.payload.wireType) ++ field.payload.write

/-- The bytes of a message. -/
def writeFields (fields : List Field) : Bytes := fields.flatMap Field.write

/-- The bytes of a text. -/
def textBytes (text : String) : Bytes := text.toUTF8.data.toList

/-- An integer field; zero is left out. -/
def intField (number : Nat) (value : Int) : List Field :=
  if value = 0 then [] else [⟨number, .varint (wrap64 value)⟩]

/-- A field of a number in eight bytes; a zero of either sign is left out. -/
def doubleField (number : Nat) (value : Number.Binary64) : List Field :=
  if value.isZero then [] else [⟨number, .fixed64 value.bits⟩]

/-- A text field that is written even if it is empty: one choice of several, or one of a row. -/
def setTextField (number : Nat) (value : String) : Field :=
  ⟨number, .delimited (textBytes value)⟩

/-- A text field; the empty text is left out. -/
def textField (number : Nat) (value : String) : List Field :=
  if value = "" then [] else [setTextField number value]

/-- A field of bytes; an empty row is left out. -/
def bytesField (number : Nat) (value : Bytes) : List Field :=
  if value.isEmpty then [] else [⟨number, .delimited value⟩]

/-- A nested message, written even if it is empty. -/
def messageField (number : Nat) (fields : List Field) : Field :=
  ⟨number, .delimited (writeFields fields)⟩

end RulePlane.Wire
