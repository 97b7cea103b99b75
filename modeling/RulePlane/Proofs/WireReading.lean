import Mathlib.Data.List.Basic
import RulePlane.Wire.Field

/-!
# Reading the wire format

The reader to `writeFields`, by the rules of proto3. A message is read in two steps: its bytes are
cut into numbered fields, and the fields of a number are then read as what the message declares.

Of a scalar field the last occurrence counts, and one that does not occur has its default. The
occurrences of a repeated field are its items, in order. The occurrences of a nested message are
parts of one message, so their fields are appended. Of the members of a choice the last one given
counts, with those of its own occurrences that no other member interrupts. Fields of other numbers
are skipped, whereas a declared field with a payload of the wrong form refuses the message.

The reader knows the three forms of payload that are written here. The other ones that exist, four
bytes and groups, belong to no message of this system and are refused.
-/

namespace RulePlane.Wire

-- A power of a number is core's own, as in the definition of a varint.
attribute [local instance (2000)] instPowNat

/-- A number below a bound, written as a varint of at most ten bytes. -/
def readNumber? (bound : Nat) (bytes : Bytes) : Option (Nat × Bytes) := do
  let (number, rest) ← readVarint? bytes
  if bytes.length ≤ rest.length + 10 ∧ number < bound then some (number, rest) else none

/-- Split off a given number of bytes. -/
def takeBytes? (count : Nat) (bytes : Bytes) : Option (Bytes × Bytes) :=
  if count ≤ bytes.length then some (bytes.take count, bytes.drop count) else none

/-- The number that some bytes write, the lowest first. -/
def ofLittleEndian : Bytes → Nat
  | [] => 0
  | byte :: rest => byte.toNat + 256 * ofLittleEndian rest

/-- Read a payload of the form that a key announces. The length of a delimited payload needs no
    bound, since that many bytes have to follow. -/
def readPayload? : Nat → Bytes → Option (Payload × Bytes)
  | 0, bytes => do
      let (number, rest) ← readNumber? 0x10000000000000000 bytes
      some (.varint number, rest)
  | 1, bytes => do
      let (content, rest) ← takeBytes? 8 bytes
      some (.fixed64 (ofLittleEndian content), rest)
  | 2, bytes => do
      let (length, rest) ← readVarint? bytes
      let (content, rest) ← takeBytes? length rest
      some (.delimited content, rest)
  | _, _ => none

/-- Read a field: a key of 32 bits, which holds the number and announces the form, and a payload.
    No field has the number zero. -/
def readField? (bytes : Bytes) : Option (Field × Bytes) := do
  let (key, rest) ← readNumber? 0x100000000 bytes
  if key / 8 = 0 then none
  else
    let (payload, rest) ← readPayload? (key % 8) rest
    some (⟨key / 8, payload⟩, rest)

/-! ## What reading leaves -/

/-- A varint takes at least one byte. -/
theorem readVarint?_shorter {bytes rest : Bytes} {number : Nat}
    (read : readVarint? bytes = some (number, rest)) : rest.length < bytes.length := by
  induction bytes generalizing number rest with
  | nil => cases read
  | cons byte others inductionHypothesis =>
    simp only [readVarint?] at read
    split at read
    · cases read
      simp
    · obtain ⟨⟨inner, left⟩, step, same⟩ := Option.map_eq_some_iff.1 read
      cases same
      have := inductionHypothesis step
      simp only [List.length_cons]
      omega

/-- A number takes at least one byte. -/
theorem readNumber?_shorter {bound : Nat} {bytes rest : Bytes} {number : Nat}
    (read : readNumber? bound bytes = some (number, rest)) : rest.length < bytes.length := by
  obtain ⟨⟨inner, left⟩, step, guarded⟩ := Option.bind_eq_some_iff.1 read
  dsimp only at guarded
  split at guarded
  · cases guarded
    exact readVarint?_shorter step
  · cases guarded

/-- Splitting off bytes adds none. -/
theorem takeBytes?_noLonger {count : Nat} {bytes content rest : Bytes}
    (taken : takeBytes? count bytes = some (content, rest)) : rest.length ≤ bytes.length := by
  simp only [takeBytes?] at taken
  split at taken
  · cases taken
    simp
  · cases taken

/-- Reading a payload adds no bytes. -/
theorem readPayload?_noLonger {form : Nat} {bytes rest : Bytes} {payload : Payload}
    (read : readPayload? form bytes = some (payload, rest)) : rest.length ≤ bytes.length := by
  unfold readPayload? at read
  split at read
  · obtain ⟨⟨number, left⟩, step, same⟩ := Option.bind_eq_some_iff.1 read
    cases same
    exact Nat.le_of_lt (readNumber?_shorter step)
  · obtain ⟨⟨content, left⟩, step, same⟩ := Option.bind_eq_some_iff.1 read
    cases same
    exact takeBytes?_noLonger step
  · obtain ⟨⟨length, behind⟩, step, next⟩ := Option.bind_eq_some_iff.1 read
    obtain ⟨⟨content, left⟩, taken, same⟩ := Option.bind_eq_some_iff.1 next
    cases same
    exact Nat.le_trans (takeBytes?_noLonger taken) (Nat.le_of_lt (readVarint?_shorter step))
  · cases read

/-- A field takes at least the byte of its key. -/
theorem readField?_shorter {bytes rest : Bytes} {field : Field}
    (read : readField? bytes = some (field, rest)) : rest.length < bytes.length := by
  obtain ⟨⟨key, behind⟩, step, next⟩ := Option.bind_eq_some_iff.1 read
  dsimp only at next
  split at next
  · cases next
  · obtain ⟨⟨payload, left⟩, content, same⟩ := Option.bind_eq_some_iff.1 next
    cases same
    exact Nat.lt_of_le_of_lt (readPayload?_noLonger content) (readNumber?_shorter step)

/-- Read the fields of a message. -/
def readFields? (bytes : Bytes) : Option (List Field) :=
  if bytes.isEmpty then some []
  else
    match _first : readField? bytes with
    | none => none
    | some (field, rest) => (readFields? rest).map (field :: ·)
termination_by bytes.length
decreasing_by exact readField?_shorter ‹_›

/-! ## Reading what was written -/

/-- A payload whose number fits the format. -/
def Payload.Fits : Payload → Prop
  | varint number => number < 0x10000000000000000
  | fixed64 bits => bits < 0x10000000000000000
  | delimited _ => True

/-- A field with a number that the format allows and a payload that fits it. -/
structure Field.Fits (field : Field) : Prop where
  positive : 0 < field.number
  small : field.number < 0x20000000
  payload : field.payload.Fits

/-- A varint has one byte more than its number of groups says. -/
theorem length_varintGroups (more number : Nat) : (varintGroups more number).length = more + 1 := by
  induction more generalizing number with
  | zero => rfl
  | succ more inductionHypothesis => simp [varintGroups, inductionHypothesis]

/-- A varint of 64 bits has at most ten bytes. -/
theorem length_varint_le {number : Nat} (fits : number < 0x10000000000000000) :
    (varint number).length ≤ 10 := by
  have order : number.log2 ≤ 63 := by
    by_cases zero : number = 0
    · subst zero
      decide
    · have := (Nat.log2_lt zero (k := 64)).2 (by simpa using fits)
      omega
  simp only [varint, length_varintGroups]
  omega

/-- A number below the bound is read back. -/
theorem readNumber?_varint {bound number : Nat} (rest : Bytes) (below : number < bound)
    (fits : number < 0x10000000000000000) :
    readNumber? bound (varint number ++ rest) = some (number, rest) := by
  have enough : (varint number ++ rest).length ≤ rest.length + 10 := by
    have short := length_varint_le fits
    simp only [List.length_append]
    omega
  simp only [readNumber?, readVarint?_varint, Option.bind_eq_bind, Option.bind_some]
  rw [if_pos ⟨enough, below⟩]

/-- Bytes are split off where they end. -/
theorem takeBytes?_append (content rest : Bytes) :
    takeBytes? content.length (content ++ rest) = some (content, rest) := by
  simp [takeBytes?]

/-- A number is written in as many bytes as are asked for. -/
theorem length_littleEndian (count number : Nat) : (littleEndian count number).length = count := by
  induction count generalizing number with
  | zero => rfl
  | succ count inductionHypothesis => simp [littleEndian, inductionHypothesis]

/-- A number that fits the bytes is read back from them. -/
theorem ofLittleEndian_littleEndian {count number : Nat} (fits : number < 256 ^ count) :
    ofLittleEndian (littleEndian count number) = number := by
  induction count generalizing number with
  | zero =>
    have : number = 0 := by simpa using fits
    simp [littleEndian, ofLittleEndian, this]
  | succ count inductionHypothesis =>
    have fewer : number / 256 < 256 ^ count := by
      apply Nat.div_lt_of_lt_mul
      rw [Nat.pow_succ] at fits
      omega
    have low : (number % 256).toUInt8.toNat = number % 256 := by
      simp [Nat.toUInt8]
    simp only [littleEndian, ofLittleEndian, low, inductionHypothesis fewer]
    omega

/-- A payload that fits is read back. -/
theorem readPayload?_write {payload : Payload} (fits : payload.Fits) (rest : Bytes) :
    readPayload? payload.wireType (payload.write ++ rest) = some (payload, rest) := by
  cases payload with
  | varint number =>
    have read : readNumber? 0x10000000000000000 (varint number ++ rest) = some (number, rest) :=
      readNumber?_varint rest fits fits
    simp [Payload.wireType, Payload.write, readPayload?, read]
  | fixed64 bits =>
    have split := takeBytes?_append (littleEndian 8 bits) rest
    have exact : ofLittleEndian (littleEndian 8 bits) = bits := ofLittleEndian_littleEndian fits
    rw [length_littleEndian] at split
    simp [Payload.wireType, Payload.write, readPayload?, split, exact]
  | delimited bytes =>
    simp [Payload.wireType, Payload.write, readPayload?, List.append_assoc, readVarint?_varint,
      takeBytes?_append]

/-- A field that fits is read back. -/
theorem readField?_write {field : Field} (fits : field.Fits) (rest : Bytes) :
    readField? (field.write ++ rest) = some (field, rest) := by
  have form : field.payload.wireType < 8 := by
    cases field.payload <;> simp [Payload.wireType]
  have positive := fits.positive
  have small := fits.small
  have key : readNumber? 0x100000000
      (varint (8 * field.number + field.payload.wireType) ++ (field.payload.write ++ rest)) =
        some (8 * field.number + field.payload.wireType, field.payload.write ++ rest) :=
    readNumber?_varint _ (by omega) (by omega)
  have number : (8 * field.number + field.payload.wireType) / 8 = field.number := by omega
  have announced : (8 * field.number + field.payload.wireType) % 8 = field.payload.wireType := by
    omega
  simp only [readField?, Field.write, List.append_assoc, key, Option.bind_eq_bind,
    Option.bind_some, number, announced, readPayload?_write fits.payload]
  rw [if_neg (by omega)]

/-- The fields of a message are read back if each of them fits. -/
theorem readFields?_writeFields {fields : List Field} (fit : ∀ field ∈ fields, field.Fits) :
    readFields? (writeFields fields) = some fields := by
  induction fields with
  | nil => simp [writeFields, readFields?]
  | cons field others inductionHypothesis =>
    have first := readField?_write (fit field (by simp)) (writeFields others)
    have next := inductionHypothesis fun other member => fit other (by simp [member])
    have joined : writeFields (field :: others) = field.write ++ writeFields others := rfl
    -- What is written of a field is not empty, since an empty row of bytes has no first field.
    have notEmpty : (writeFields (field :: others)).isEmpty = false := by
      by_contra empty
      have none : field.write ++ writeFields others = [] := by simpa [joined] using empty
      rw [none] at first
      cases first
    rw [readFields?, notEmpty, if_neg (by simp)]
    rw [joined]
    split
    · rename_i failed
      rw [first] at failed
      cases failed
    · rename_i read
      rw [first] at read
      cases read
      simp [next]

end RulePlane.Wire
