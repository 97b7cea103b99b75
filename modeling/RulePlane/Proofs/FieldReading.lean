import RulePlane.Proofs.Binary64Bits
import RulePlane.Proofs.WireReading

/-!
# Reading declared fields

What a message declares of a field: a scalar, a row of items, a nested message, or one member of a
choice. Each is read from the occurrences of its number among the fields of the message, and for
each there is a law that it gives back what the writer of such a field was given.
-/

namespace RulePlane.Wire

open Number (Binary64)

/-- The integer of 32 bits that a natural stands for; higher bits are dropped. -/
def unwrap32 (number : Nat) : Int :=
  let residue := number % 0x100000000
  if residue < 0x80000000 then residue else (residue : Int) - 0x100000000

namespace Payload

/-- A payload as an integer of 64 bits with sign. -/
def int64? : Payload → Option Int
  | varint number => some (unwrap64 number)
  | _ => none

/-- A payload as an integer of 32 bits with sign, or as the number of an enumeration's member. -/
def int32? : Payload → Option Int
  | varint number => some (unwrap32 number)
  | _ => none

/-- A payload as an integer of 32 bits without sign. -/
def uint32? : Payload → Option Nat
  | varint number => some (number % 0x100000000)
  | _ => none

/-- A payload as a number of 64 bits. -/
def double? : Payload → Option Binary64
  | fixed64 bits => some (Binary64.ofBits bits)
  | _ => none

/-- A payload as bytes. -/
def bytes? : Payload → Option Bytes
  | delimited bytes => some bytes
  | _ => none

/-- A payload as a text, which has to be well-formed. -/
def text? (payload : Payload) : Option String :=
  payload.bytes?.bind fun bytes => String.fromUTF8? ⟨bytes.toArray⟩

/-- A payload as the fields of a message. -/
def fields? (payload : Payload) : Option (List Field) := payload.bytes?.bind readFields?

/-- A payload as a message. -/
def message? {α : Type} (read : List Field → Option α) (payload : Payload) : Option α :=
  payload.fields?.bind read

end Payload

/-- The payloads of the fields with a number, in order. -/
def occurrences (number : Nat) (fields : List Field) : List Payload :=
  fields.filterMap fun field => if field.number = number then some field.payload else none

/-- The value of the last of some payloads; without any it is the default. -/
def lastValue? {α : Type} (read : Payload → Option α) (fallback : α) (payloads : List Payload) :
    Option α :=
  (payloads.mapM read).map (·.getLastD fallback)

/-- The message whose parts are some payloads. -/
def merged? {α : Type} (read : List Field → Option α) (payloads : List Payload) : Option α := do
  let parts ← payloads.mapM Payload.fields?
  read parts.flatten

/-- Read a scalar field. -/
def scalar? {α : Type} (read : Payload → Option α) (fallback : α) (number : Nat)
    (fields : List Field) : Option α :=
  lastValue? read fallback (occurrences number fields)

/-- Read a repeated field. -/
def repeated? {α : Type} (read : Payload → Option α) (number : Nat) (fields : List Field) :
    Option (List α) :=
  (occurrences number fields).mapM read

/-- Read a nested message, which may be missing. -/
def nested? {α : Type} (read : List Field → Option α) (number : Nat) (fields : List Field) :
    Option (Option α) :=
  match occurrences number fields with
  | [] => some none
  | payloads => (merged? read payloads).map some

/-- The fields that belong to a choice with the given members, in order. -/
def ofMembers {α : Type} (members : List (Nat × (List Payload → Option α)))
    (fields : List Field) : List Field :=
  fields.filter fun field => (members.lookup field.number).isSome

/-- Read a choice, which may be missing, from its members: for each its number and how its
    occurrences are read. -/
def choice? {α : Type} (members : List (Nat × (List Payload → Option α))) (fields : List Field) :
    Option (Option α) :=
  match (ofMembers members fields).reverse with
  | [] => some none
  | last :: earlier => do
      let read ← members.lookup last.number
      let run := (earlier.takeWhile fun field => field.number = last.number).reverse ++ [last]
      (read (run.map Field.payload)).map some

/-! ## Scalars -/

/-- Whether a number fits 64 bits with sign. -/
def Fits64 (number : Int) : Prop :=
  -0x8000000000000000 ≤ number ∧ number < 0x8000000000000000

/-- Whether a number fits 32 bits with sign. -/
def Fits32 (number : Int) : Prop := -0x80000000 ≤ number ∧ number < 0x80000000

/-- An integer of 32 bits survives being wrapped. -/
theorem unwrap32_wrap64 {number : Int} (fits : Fits32 number) :
    unwrap32 (wrap64 number) = number := by
  obtain ⟨least, greatest⟩ := fits
  have wrapped : wrap64 number = (number % 0x10000000000000000).toNat := rfl
  simp only [unwrap32]
  split <;> omega

/-- A text is read back from its bytes. -/
theorem text?_textBytes (text : String) :
    (Payload.delimited (textBytes text)).text? = some text := by
  have bytes : (⟨(textBytes text).toArray⟩ : ByteArray) = text.toByteArray := rfl
  simp only [Payload.text?, Payload.bytes?, Option.bind_some, bytes, String.fromUTF8?,
    dif_pos text.isValidUTF8]
  rfl

/-- A single occurrence is the value. -/
theorem lastValue?_single {α : Type} {read : Payload → Option α} {fallback value : α}
    {payload : Payload} (reads : read payload = some value) :
    lastValue? read fallback [payload] = some value := by
  simp [lastValue?, reads]

/-- Without an occurrence the default is the value. -/
theorem lastValue?_none {α : Type} (read : Payload → Option α) (fallback : α) :
    lastValue? read fallback [] = some fallback := rfl

/-- An integer field is read back if its form of integers gives the value back, and its default
    for a zero. -/
theorem lastValue?_intField {α : Type} {read : Payload → Option α} {fallback value : α}
    (number : Nat) {written : Int} (reads : read (.varint (wrap64 written)) = some value)
    (zero : written = 0 → value = fallback) :
    lastValue? read fallback ((intField number written).map Field.payload) = some value := by
  by_cases none : written = 0
  · simp [intField, none, zero none, lastValue?_none]
  · simpa [intField, none] using lastValue?_single reads

/-- A field of 64 bits with sign is read back. -/
theorem lastValue?_int64 (number : Nat) {value : Int} (fits : Fits64 value) :
    lastValue? Payload.int64? 0 ((intField number value).map Field.payload) = some value :=
  lastValue?_intField number (congrArg some (unwrap64_wrap64 value fits.1 fits.2)) id

/-- A field of 32 bits with sign is read back. -/
theorem lastValue?_int32 (number : Nat) {value : Int} (fits : Fits32 value) :
    lastValue? Payload.int32? 0 ((intField number value).map Field.payload) = some value :=
  lastValue?_intField number (congrArg some (unwrap32_wrap64 fits)) id

/-- A field of 32 bits without sign is read back. -/
theorem lastValue?_uint32 (number : Nat) {value : Nat} (fits : value < 0x100000000) :
    lastValue? Payload.uint32? 0 ((intField number value).map Field.payload) = some value := by
  apply lastValue?_intField number
  · have wrapped : wrap64 value = ((value : Int) % 0x10000000000000000).toNat := rfl
    simp only [Payload.uint32?, Option.some.injEq]
    omega
  · intro zero
    omega

/-- A text field is read back. -/
@[simp] theorem lastValue?_textField (number : Nat) (value : String) :
    lastValue? Payload.text? "" ((textField number value).map Field.payload) = some value := by
  by_cases empty : value = ""
  · simp [textField, empty, lastValue?_none]
  · simpa [textField, empty, setTextField] using lastValue?_single (text?_textBytes value)

/-- A field of bytes is read back. -/
@[simp] theorem lastValue?_bytesField (number : Nat) (value : Bytes) :
    lastValue? Payload.bytes? [] ((bytesField number value).map Field.payload) = some value := by
  cases value with
  | nil => rfl
  | cons byte rest => rfl

/-- A field of a number is read back, without the sign of a zero. -/
theorem lastValue?_doubleField (number : Nat) {value : Binary64} (normal : value.Normal) :
    lastValue? Payload.double? (Binary64.zero false)
      ((doubleField number value).map Field.payload) = some value.withoutZeroSign := by
  by_cases zero : value.isZero = true
  · simp [doubleField, Binary64.withoutZeroSign, zero, lastValue?_none]
  · have reads : (Payload.fixed64 value.bits).double? = some value := by
      simp [Payload.double?, Binary64.ofBits_bits normal]
    simpa [doubleField, Binary64.withoutZeroSign, zero] using lastValue?_single reads

/-! ## Fields that fit -/

/-- Whether each of some fields fits the format. -/
def Fit (fields : List Field) : Prop := ∀ field ∈ fields, field.Fits

@[simp] theorem fit_nil : Fit [] := by
  simp [Fit]

@[simp] theorem fit_cons {field : Field} {fields : List Field} :
    Fit (field :: fields) ↔ field.Fits ∧ Fit fields := by
  simp [Fit]

@[simp] theorem fit_append {front back : List Field} :
    Fit (front ++ back) ↔ Fit front ∧ Fit back := by
  simp [Fit, or_imp, forall_and]

variable {number : Nat}

/-- A delimited field fits. -/
theorem fits_delimited (positive : 0 < number) (small : number < 0x20000000) (bytes : Bytes) :
    Field.Fits ⟨number, .delimited bytes⟩ :=
  ⟨positive, small, trivial⟩

@[simp] theorem fits_messageField (positive : 0 < number) (small : number < 0x20000000)
    (fields : List Field) : (messageField number fields).Fits :=
  fits_delimited positive small _

@[simp] theorem fits_setTextField (positive : 0 < number) (small : number < 0x20000000)
    (value : String) : (setTextField number value).Fits :=
  fits_delimited positive small _

@[simp] theorem fit_textField (positive : 0 < number) (small : number < 0x20000000)
    (value : String) : Fit (textField number value) := by
  unfold textField
  split <;> simp [positive, small]

@[simp] theorem fit_bytesField (positive : 0 < number) (small : number < 0x20000000)
    (value : Bytes) : Fit (bytesField number value) := by
  unfold bytesField
  split <;> simp [fits_delimited positive small]

@[simp] theorem fit_intField (positive : 0 < number) (small : number < 0x20000000)
    (value : Int) : Fit (intField number value) := by
  have wrapped : (Payload.varint (wrap64 value)).Fits := by
    simp only [Payload.Fits, wrap64]
    omega
  unfold intField
  split
  · exact fit_nil
  · exact fit_cons.2 ⟨⟨positive, small, wrapped⟩, fit_nil⟩

/-- A field of a number in normal form fits. -/
theorem fit_doubleField (positive : 0 < number) (small : number < 0x20000000)
    {value : Binary64} (normal : value.Normal) : Fit (doubleField number value) := by
  unfold doubleField
  split
  · exact fit_nil
  · exact fit_cons.2 ⟨⟨positive, small, Binary64.bits_lt normal⟩, fit_nil⟩

@[simp] theorem fit_map_messageField {α : Type} (positive : 0 < number)
    (small : number < 0x20000000) (items : List α) (fields : α → List Field) :
    Fit (items.map fun item => messageField number (fields item)) := by
  simp [Fit, positive, small]

@[simp] theorem fit_map_setTextField (positive : 0 < number) (small : number < 0x20000000)
    (items : List String) : Fit (items.map (setTextField number)) := by
  simp [Fit, positive, small]

/-! ## Occurrences -/

variable {wanted : Nat}

@[simp] theorem messageField_number (fields : List Field) :
    (messageField number fields).number = number := rfl

@[simp] theorem messageField_payload (fields : List Field) :
    (messageField number fields).payload = .delimited (writeFields fields) := rfl

@[simp] theorem setTextField_number (value : String) :
    (setTextField number value).number = number := rfl

@[simp] theorem setTextField_payload (value : String) :
    (setTextField number value).payload = .delimited (textBytes value) := rfl

@[simp] theorem occurrences_nil : occurrences wanted [] = [] := rfl

@[simp] theorem occurrences_cons (field : Field) (fields : List Field) :
    occurrences wanted (field :: fields) =
      if field.number = wanted then field.payload :: occurrences wanted fields
      else occurrences wanted fields := by
  simp only [occurrences, List.filterMap_cons]
  split <;> simp_all

@[simp] theorem occurrences_append (front back : List Field) :
    occurrences wanted (front ++ back) = occurrences wanted front ++ occurrences wanted back := by
  simp [occurrences]

/-- Fields with one number are all occurrences of it and of no other. -/
theorem occurrences_of_same (number : Nat) {fields : List Field}
    (same : ∀ field ∈ fields, field.number = number) :
    occurrences wanted fields = if number = wanted then fields.map Field.payload else [] := by
  induction fields with
  | nil => simp
  | cons field others inductionHypothesis =>
    have next := inductionHypothesis fun other member => same other (by simp [member])
    have first := same field (by simp)
    simp only [occurrences_cons, next, first]
    split <;> rfl

@[simp] theorem occurrences_textField (value : String) :
    occurrences wanted (textField number value) =
      if number = wanted then (textField number value).map Field.payload else [] := by
  apply occurrences_of_same
  unfold textField
  split <;> simp

@[simp] theorem occurrences_bytesField (value : Bytes) :
    occurrences wanted (bytesField number value) =
      if number = wanted then (bytesField number value).map Field.payload else [] := by
  apply occurrences_of_same
  unfold bytesField
  split <;> simp

@[simp] theorem occurrences_intField (value : Int) :
    occurrences wanted (intField number value) =
      if number = wanted then (intField number value).map Field.payload else [] := by
  apply occurrences_of_same
  unfold intField
  split <;> simp

@[simp] theorem occurrences_doubleField (value : Binary64) :
    occurrences wanted (doubleField number value) =
      if number = wanted then (doubleField number value).map Field.payload else [] := by
  apply occurrences_of_same
  unfold doubleField
  split <;> simp

@[simp] theorem occurrences_map_messageField {α : Type} (items : List α)
    (fields : α → List Field) :
    occurrences wanted (items.map fun item => messageField number (fields item)) =
      if number = wanted then items.map fun item => .delimited (writeFields (fields item))
      else [] := by
  rw [occurrences_of_same number (by simp)]
  simp [Function.comp_def]

@[simp] theorem occurrences_map_setTextField (items : List String) :
    occurrences wanted (items.map (setTextField number)) =
      if number = wanted then items.map fun item => .delimited (textBytes item) else [] := by
  rw [occurrences_of_same number (by simp)]
  simp [Function.comp_def]

/-! ## Messages -/

variable {α β : Type}

/-- A message is read back from its bytes. -/
theorem message?_writeFields {fields : List Field} (fit : Fit fields)
    (read : List Field → Option α) :
    (Payload.delimited (writeFields fields)).message? read = read fields := by
  simp [Payload.message?, Payload.fields?, Payload.bytes?, readFields?_writeFields fit]

/-- A message in one part is read back. -/
theorem merged?_single {fields : List Field} (fit : Fit fields)
    (read : List Field → Option α) :
    merged? read [.delimited (writeFields fields)] = read fields := by
  simp [merged?, Payload.fields?, Payload.bytes?, readFields?_writeFields fit]

/-- A row of items is read back if each of them is. -/
theorem mapM_map_eq_some {γ : Type} {items : List α} {write : α → γ} {read : γ → Option β}
    {value : α → β} (reads : ∀ item ∈ items, read (write item) = some (value item)) :
    (items.map write).mapM read = some (items.map value) := by
  induction items with
  | nil => rfl
  | cons item others inductionHypothesis =>
    have first := reads item (by simp)
    have next := inductionHypothesis fun other member => reads other (by simp [member])
    simp [first, next]

/-- A row of messages is read back if each of them is. -/
theorem mapM_messages {items : List α} {fields : α → List Field} {read : List Field → Option β}
    {value : α → β} (fit : ∀ item ∈ items, Fit (fields item))
    (reads : ∀ item ∈ items, read (fields item) = some (value item)) :
    (items.map fun item => Payload.delimited (writeFields (fields item))).mapM
      (Payload.message? read) = some (items.map value) := by
  apply mapM_map_eq_some
  intro item member
  rw [message?_writeFields (fit item member), reads item member]

/-- A row of texts is read back. -/
theorem mapM_texts (items : List String) :
    (items.map fun item => Payload.delimited (textBytes item)).mapM Payload.text? =
      some items := by
  have read := mapM_map_eq_some fun item (_ : item ∈ items) => text?_textBytes item
  rwa [List.map_id'] at read

/-- A nested message that is not given is missing. -/
theorem nested?_none {fields : List Field} (read : List Field → Option α)
    (missing : occurrences number fields = []) : nested? read number fields = some none := by
  simp [nested?, missing]

/-- A nested message in one part is read back. -/
theorem nested?_single {fields inner : List Field} {read : List Field → Option α} {value : α}
    (given : occurrences number fields = [.delimited (writeFields inner)]) (fit : Fit inner)
    (reads : read inner = some value) : nested? read number fields = some (some value) := by
  simp [nested?, given, merged?_single fit, reads]

/-! ## Choices -/

variable {members : List (Nat × (List Payload → Option α))}

@[simp] theorem ofMembers_nil : ofMembers members [] = [] := rfl

@[simp] theorem ofMembers_cons (field : Field) (fields : List Field) :
    ofMembers members (field :: fields) =
      if (members.lookup field.number).isSome then field :: ofMembers members fields
      else ofMembers members fields := by
  simp [ofMembers, List.filter_cons]

@[simp] theorem ofMembers_append (front back : List Field) :
    ofMembers members (front ++ back) = ofMembers members front ++ ofMembers members back := by
  simp [ofMembers]

/-- A text field with the number of no member does not belong to a choice. -/
theorem ofMembers_textField (other : members.lookup number = none) (value : String) :
    ofMembers members (textField number value) = [] := by
  unfold textField
  split <;> simp [other]

/-- A choice of which no member is given is missing. -/
theorem choice?_none {fields : List Field} (missing : ofMembers members fields = []) :
    choice? members fields = some none := by
  simp [choice?, missing]

/-- A choice of which one member is given once is that member. -/
theorem choice?_single {fields : List Field} {field : Field} {read : List Payload → Option α}
    {value : α} (given : ofMembers members fields = [field])
    (member : members.lookup field.number = some read)
    (reads : read [field.payload] = some value) :
    choice? members fields = some (some value) := by
  simp [choice?, given, member, reads]

end RulePlane.Wire
