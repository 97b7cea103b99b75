import RulePlane.Text.Quoted

/-!
# Socket addresses

An address and port at which a server listens, as an operator writes it: `a.b.c.d:port`,
`[ipv6]:port` or `[ipv6%scope]:port`. An IPv6 address has eight groups of up to four hexadecimal
digits; one run of zero groups may be left out between two colons, and the last two groups may be
written as an IPv4 address. Addresses are printed in one form, whatever form they were read from.
-/

namespace RulePlane

/-- The four bytes of an IPv4 address. -/
structure Octets where
  first : Nat
  second : Nat
  third : Nat
  fourth : Nat
deriving DecidableEq, Repr, Inhabited

/-- An address and a port. An IPv6 address is given by its groups; scope 0 is no scope. -/
inductive SocketAddress where
  | ipv4 (octets : Octets) (port : Nat)
  | ipv6 (groups : List Nat) (scope : Nat) (port : Nat)
deriving DecidableEq, Repr

namespace SocketAddress

/-- Reads something from the front of a text, or leaves the text alone. -/
abbrev Reader (α : Type) := StateT (List Char) Option α

/-- The value of a digit in a base of up to sixteen. -/
def digit? (base : Nat) (character : Char) : Option Nat :=
  let value? : Option Nat :=
    if '0' ≤ character ∧ character ≤ '9' then some (character.toNat - '0'.toNat)
    else if 'a' ≤ character ∧ character ≤ 'f' then some (character.toNat - 'a'.toNat + 10)
    else if 'A' ≤ character ∧ character ≤ 'F' then some (character.toNat - 'A'.toNat + 10)
    else none
  value?.filter (· < base)

/-- The digits at the front of a text, and the text behind them. -/
def splitDigits (base : Nat) : List Char → List Nat × List Char
  | [] => ([], [])
  | character :: rest =>
      match digit? base character with
      | some value =>
          let (others, rest) := splitDigits base rest
          (value :: others, rest)
      | none => ([], character :: rest)

/-- The number that a row of digits writes. -/
def digitsValue (base : Nat) (digits : List Nat) : Nat :=
  digits.foldl (fun value digit => base * value + digit) 0

/-- Read all digits at the front as a number below a bound. -/
def readNumber (base bound : Nat) : Reader (List Nat × Nat) := fun text =>
  let (digits, rest) := splitDigits base text
  let value := digitsValue base digits
  if digits.isEmpty || bound ≤ value then none else some ((digits, value), rest)

/-- Read one given character. -/
def readMark (mark : Char) : Reader Unit
  | [] => none
  | character :: rest => if character = mark then some ((), rest) else none

/-- Read one byte of an IPv4 address: no leading zeros. -/
def readOctet : Reader Nat := do
  let (digits, value) ← readNumber 10 256
  if digits.head? = some 0 ∧ digits.length ≠ 1 then failure
  return value

/-- Read an IPv4 address. -/
def readOctets : Reader Octets := do
  let first ← readOctet
  readMark '.'
  let second ← readOctet
  readMark '.'
  let third ← readOctet
  readMark '.'
  return ⟨first, second, third, ← readOctet⟩

/-- Read one group of an IPv6 address. -/
def readGroup : Reader Nat := do
  let (digits, value) ← readNumber 16 0x10000
  if 4 < digits.length then failure
  return value

/-- Read something behind a colon; at the start of a row there is no colon. -/
def behindColon {α : Type} (starting : Bool) (reader : Reader α) : Reader α := do
  if !starting then readMark ':'
  reader

/-- The two groups that an IPv4 address writes. -/
def groupsOf (octets : Octets) : List Nat :=
  [octets.first * 256 + octets.second, octets.third * 256 + octets.fourth]

/-- Read up to a number of groups in a row. The row ends behind an IPv4 address, which is told with
    the groups and takes the room of two. -/
def readGroups (starting : Bool) : Nat → List Char → (List Nat × Bool) × List Char
  | 0, text => (([], false), text)
  | room + 1, text =>
      let embedded := if room = 0 then none else (behindColon starting readOctets).run text
      match embedded with
      | some (octets, rest) => ((groupsOf octets, true), rest)
      | none =>
          match (behindColon starting readGroup).run text with
          | some (group, rest) =>
              let ((groups, embedded), rest) := readGroups false room rest
              ((group :: groups, embedded), rest)
          | none => (([], false), text)

/-- The number of groups of an IPv6 address. -/
def groupCount : Nat := 8

/-- Read a double colon. -/
def readGap : Reader Unit := do
  readMark ':'
  readMark ':'

/-- Read the groups of an IPv6 address, with the zeros that a double colon leaves out. An IPv4
    address may only stand at the end. -/
def readAddress : Reader (List Nat) := fun text =>
  let ((head, embedded), text) := readGroups true groupCount text
  if head.length = groupCount then some (head, text)
  else if embedded then none
  else
    match readGap text with
    | some (_, text) =>
        let ((tail, _), text) := readGroups true (groupCount - (head.length + 1)) text
        let zeros := List.replicate (groupCount - head.length - tail.length) 0
        some (head ++ zeros ++ tail, text)
    | none => none

/-- Read a scope; a text without a sound one has scope 0 and is left alone. -/
def readScope : Reader Nat := fun text =>
  let scope : Reader Nat := do
    readMark '%'
    let (_, value) ← readNumber 10 0x100000000
    return value
  (scope.run text).getD (0, text) |> some

/-- Read a port behind its colon. -/
def readPort : Reader Nat := do
  readMark ':'
  let (_, value) ← readNumber 10 0x10000
  return value

/-- Read an IPv4 address with its port. -/
def readIpv4 : Reader SocketAddress := do
  let octets ← readOctets
  return .ipv4 octets (← readPort)

/-- Read an IPv6 address between brackets with its port. -/
def readIpv6 : Reader SocketAddress := do
  readMark '['
  let groups ← readAddress
  let scope ← readScope
  readMark ']'
  return .ipv6 groups scope (← readPort)

/-- Read a socket address; nothing may follow it. -/
def parse? (text : String) : Option SocketAddress :=
  match (readIpv4 <|> readIpv6).run text.toList with
  | some (address, []) => some address
  | _ => none

/-- Four bytes between points. -/
def renderOctets (octets : Octets) : String :=
  String.intercalate "."
    ([octets.first, octets.second, octets.third, octets.fourth].map (toString ·))

/-- Groups in lower-case hexadecimal digits between colons. -/
def renderGroups (groups : List Nat) : String :=
  String.intercalate ":" (groups.map fun group => String.ofList (Text.hexDigits group))

/-- The number of zeros at the front of a list. -/
def zerosAhead (groups : List Nat) : Nat := (groups.takeWhile (· = 0)).length

/-- Where the longest run of zeros starts and how long it is; of equally long runs the first. -/
def longestZeros : List Nat → Nat × Nat
  | [] => (0, 0)
  | group :: rest =>
      let (start, length) := longestZeros rest
      let here := zerosAhead (group :: rest)
      if 0 < here ∧ length ≤ here then (0, here) else (start + 1, length)

/-- An IPv6 address: an embedded IPv4 address is written as one, and the longest run of at least two
    zero groups is left out. -/
def renderAddress (groups : List Nat) : String :=
  match groups with
  | [0, 0, 0, 0, 0, 65535, high, low] =>
      "::ffff:" ++ renderOctets ⟨high / 256, high % 256, low / 256, low % 256⟩
  | _ =>
      let (start, length) := longestZeros groups
      if 1 < length then
        renderGroups (groups.take start) ++ "::" ++ renderGroups (groups.drop (start + length))
      else renderGroups groups

/-- The printed form of a socket address. -/
def render : SocketAddress → String
  | ipv4 octets port => renderOctets octets ++ ":" ++ toString port
  | ipv6 groups scope port =>
      let zone := if scope = 0 then "" else "%" ++ toString scope
      "[" ++ renderAddress groups ++ zone ++ "]:" ++ toString port

end SocketAddress

end RulePlane
