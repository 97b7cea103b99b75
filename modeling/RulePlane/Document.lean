import RulePlane.Number.Binary64
import RulePlane.Ordered

/-!
# Documents

The dynamic values of which cluster objects are made, and the reading of typed structures from
them. A structure may be given as a record of named fields or as the sequence of its fields' values
in the order of their declaration. In a record unknown fields are ignored; in a sequence a missing
tail is filled by defaults and a surplus element is refused.

`Fields` is what remains to be read of a structure, and a `FieldReader` takes its fields one after
another, so a structure's reader is written once and serves both forms.
-/

namespace RulePlane

/-- A dynamic value. Integers are kept apart from numbers that were written with a point or an
    exponent: `10.0` is no integer. -/
inductive Document where
  | null
  | boolean (value : Bool)
  | integer (value : Int)
  | real (value : Number.Binary64)
  | text (value : String)
  | sequence (items : List Document)
  | record (entries : List (String × Document))
deriving Inhabited

namespace Document

/-- The text of a text document. -/
def text? : Document → Option String
  | text value => some value
  | _ => none

/-- The integer of an integer document that lies in a closed interval. -/
def integerWithin? (least greatest : Int) : Document → Option Int
  | integer value => if least ≤ value ∧ value ≤ greatest then some value else none
  | _ => none

/-- An integer of 64 bits with sign. -/
def int64? : Document → Option Int :=
  integerWithin? (-0x8000000000000000) 0x7fffffffffffffff

/-- An integer of 32 bits with sign. -/
def int32? : Document → Option Int := integerWithin? (-0x80000000) 0x7fffffff

/-- An integer of 16 bits without sign. -/
def uint16? : Document → Option Int := integerWithin? 0 0xffff

/-- The value of a field in a record; of a repeated field the first value. -/
def field? (name : String) : Document → Option Document
  | record entries => entries.lookup name
  | _ => none

/-- A document that may be null. -/
def optional? {α : Type} (read : Document → Option α) : Document → Option (Option α)
  | null => some none
  | document => (read document).map some

/-- The items of a sequence, each read the same way. -/
def sequenceOf? {α : Type} (read : Document → Option α) : Document → Option (List α)
  | sequence items => items.mapM read
  | _ => none

/-- The entries of a record in ascending order of their names, each value read the same way. -/
def recordOf? {α : Type} (read : Document → Option α) :
    Document → Option (List (String × α))
  | record entries =>
      (ordered (fun entry => [entry.1]) entries).mapM fun entry =>
        (read entry.2).map (Prod.mk entry.1)
  | _ => none

/-- What remains to be read of a structure. -/
inductive Fields where
  /-- A record: fields are found by name. -/
  | named (entries : List (String × Document))
  /-- A sequence: the next value belongs to the next declared field. -/
  | positional (items : List Document)

/-- A reader that takes fields one after another. -/
abbrev FieldReader (α : Type) := StateT Fields Option α

/-- Take the field that is declared next, under its name; `none` if it is not given. -/
def takeField (name : String) : FieldReader (Option Document) := fun fields =>
  match fields with
  | .named entries => some (entries.lookup name, .named entries)
  | .positional [] => some (none, .positional [])
  | .positional (item :: rest) => some (some item, .positional rest)

/-- A field that has to be given. -/
def required {α : Type} (name : String) (read : Document → Option α) : FieldReader α := do
  match ← takeField name with
  | some document => (read document : Option α)
  | none => failure

/-- A field that has a default. -/
def defaulted {α : Type} (name : String) (fallback : α) (read : Document → Option α) :
    FieldReader α := do
  match ← takeField name with
  | some document => (read document : Option α)
  | none => pure fallback

/-- Whether nothing surplus is left of a structure. -/
def Fields.finished : Fields → Bool
  | named _ => true
  | positional items => items.isEmpty

/-- Read a structure in either of its forms. -/
def structure? {α : Type} (reader : FieldReader α) (document : Document) : Option α := do
  let fields ←
    match document with
    | record entries => some (Fields.named entries)
    | sequence items => some (Fields.positional items)
    | _ => none
  let (value, rest) ← reader.run fields
  if rest.finished then some value else none

end Document

end RulePlane
