import RulePlane.Number.Literal
import RulePlane.Text.Quoted

/-!
# Faults of written quantities

Why a duration or a ratio cannot be read, and how that is reported.
-/

namespace RulePlane.Quantity

/-- Why a text is no quantity. -/
inductive QuantityError where
  | empty
  | invalidUnit (unit : String)
  | notANumber (fault : Number.LiteralError)
  | outOfRange
deriving DecidableEq, Repr

/-- The wording of a fault. -/
def QuantityError.message : QuantityError → String
  | empty => "empty value"
  | invalidUnit unit =>
      "invalid unit " ++ Text.quote unit ++
        ": expected one of 'ms', 's', 'm', 'min', 'minute', 'h', or 'd'"
  | notANumber fault => "invalid number: " ++ fault.message
  | outOfRange => "value out of range"

end RulePlane.Quantity
