import RulePlane.Wire.Varint

/-!
# Rules

A rule is what clients receive for one policy resource: the bytes of a message and the address that
says which message they are.
-/

namespace RulePlane

/-- The bytes of a message, under the address of its type. -/
structure Rule where
  typeUrl : String
  value : Wire.Bytes
deriving DecidableEq, Repr, Inhabited

end RulePlane
