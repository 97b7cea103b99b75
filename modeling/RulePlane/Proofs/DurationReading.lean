import RulePlane.Proofs.Binary64Rounding
import RulePlane.Proofs.PolicyRanges
import RulePlane.Proofs.WrittenNumbers
import RulePlane.Quantity.Duration

/-!
# Durations as they are read

What the text of a duration denotes, stated apart from its reader: nothing, a bare number, or a row
of components whose values are summed. The reader gives exactly this for every text. A row is a cut
of the whole text, so the error that is reported is the error of the first component that has one,
and a number that the whole text writes is never cut.
-/

namespace RulePlane.Text

/-- Whether a text is what remains of another one without the blanks around it. -/
structure Trims (text trimmed : List Char) : Prop where
  around : ∃ before after, text = before ++ (trimmed ++ after) ∧
    (∀ character ∈ before, isBlank character = true) ∧
    (∀ character ∈ after, isBlank character = true)
  first : ∀ character ∈ trimmed.head?, isBlank character = false
  last : ∀ character ∈ trimmed.getLast?, isBlank character = false

/-- What is trimmed is what remains without the blanks around it. -/
theorem trims_trim (text : List Char) : Trims text (trim text) := by
  have spelled : text.dropWhile isBlank =
      trim text ++ ((text.dropWhile isBlank).reverse.takeWhile isBlank).reverse := by
    rw [trim, ← List.reverse_append, List.takeWhile_append_dropWhile, List.reverse_reverse]
  constructor
  · refine ⟨text.takeWhile isBlank,
      ((text.dropWhile isBlank).reverse.takeWhile isBlank).reverse, ?_, ?_, ?_⟩
    · rw [← spelled, List.takeWhile_append_dropWhile]
    · exact fun _ => List.mem_takeWhile_imp
    · exact fun _ member => List.mem_takeWhile_imp (List.mem_reverse.1 member)
  · intro character first
    have head : character ∈ (text.dropWhile isBlank).head? := by
      rw [spelled, List.head?_append, Option.mem_def.1 first]
      rfl
    exact head_dropWhile character head
  · intro character last
    rw [trim, List.getLast?_reverse] at last
    exact head_dropWhile character last

/-- Only one text remains without the blanks around another. -/
theorem Trims.eq_trim {text trimmed : List Char} (trims : Trims text trimmed) :
    trimmed = trim text := by
  obtain ⟨⟨before, after, rfl, blankBefore, blankAfter⟩, first, last⟩ := trims
  rw [trim, List.dropWhile_append_of_pos blankBefore]
  cases trimmed with
  | nil =>
    have none : after.dropWhile isBlank = [] := List.dropWhile_eq_nil_iff.2 blankAfter
    simp [none]
  | cons character others =>
    have starts : isBlank character = false := first character rfl
    have ends : ∀ letter ∈ (character :: others).reverse.head?, isBlank letter = false := by
      rwa [List.head?_reverse]
    have behind : ∀ letter ∈ after.reverse, isBlank letter = true :=
      fun letter member => blankAfter letter (List.mem_reverse.1 member)
    rw [List.cons_append, List.dropWhile_cons_of_neg (by simp [starts]), ← List.cons_append,
      List.reverse_append, (cut_run behind ends).2, List.reverse_reverse]

end RulePlane.Text

namespace RulePlane.Quantity

open Number (Binary64 Literal LiteralError Written)

/-- One component of a duration: what stands before its letters, and the letters. -/
structure Component where
  number : List Char
  unit : List Char

/-- Where the first component of a text ends: behind the first run of letters, which goes as far as
    there are any. -/
structure Cut (number unit rest : List Char) : Prop where
  bare : ∀ character ∈ number, Text.isLetter character = false
  some : unit ≠ []
  lettered : ∀ character ∈ unit, Text.isLetter character = true
  maximal : ∀ character ∈ rest.head?, Text.isLetter character = false

/-- How a text is cut into components. Only the last component may have no letters. -/
inductive Row : List Char → List Component → Prop
  | done : Row [] []
  | unlettered {number : List Char} (some : number ≠ [])
      (bare : ∀ character ∈ number, Text.isLetter character = false) :
      Row number [⟨number, []⟩]
  | component {number unit rest : List Char} {components : List Component}
      (cut : Cut number unit rest) (row : Row rest components) :
      Row (number ++ (unit ++ rest)) (⟨number, unit⟩ :: components)

/-- What is wrong with a component. Its number is judged before its unit. -/
inductive Component.Faulty : Component → QuantityError → Prop
  | unlettered {number : List Char} : Faulty ⟨number, []⟩ (.invalidUnit "")
  | number {number unit : List Char} (some : unit ≠ [])
      (unwritten : ∀ literal, ¬ Written number literal) :
      Faulty ⟨number, unit⟩ (.notANumber (if number = [] then .empty else .invalid))
  | unit {number unit : List Char} {literal : Literal} (some : unit ≠ [])
      (written : Written number literal) (unknown : unitMillis? (String.ofList unit) = none) :
      Faulty ⟨number, unit⟩ (.invalidUnit (String.ofList unit))

/-- The milliseconds of a component: its number times those of its unit. -/
inductive Component.Amounts : Component → Binary64 → Prop
  | product {number unit : List Char} {literal : Literal} {millis : Nat}
      (written : Written number literal) (known : unitMillis? (String.ofList unit) = some millis) :
      Amounts ⟨number, unit⟩ ((Binary64.ofLiteral literal).mul (Binary64.ofNat millis))

/-- The whole milliseconds that are reported for a number: the nearest integer, a half upwards, of
    what is finite, not below zero and at most `2 ^ 63`. -/
def reported (number : Binary64) : Except QuantityError Nat :=
  match number.value? with
  | none => .error .outOfRange
  | some value =>
      if 0 ≤ value ∧ value ≤ 2 ^ 63 then .ok (min (round value).toNat (2 ^ 63 - 1))
      else .error .outOfRange

/-- What the text of a duration denotes, without blanks around it. -/
inductive Denotes : List Char → Except QuantityError Nat → Prop
  | empty : Denotes [] (.error .empty)
  | number {text : List Char} {literal : Literal} (written : Written text literal) :
      Denotes text (reported (Binary64.ofLiteral literal))
  | fault {text : List Char} {before after : List Component} {bad : Component}
      {fault : QuantityError} (some : text ≠ []) (unwritten : ∀ literal, ¬ Written text literal)
      (row : Row text (before ++ bad :: after))
      (good : ∀ component ∈ before, ∃ amount, component.Amounts amount)
      (faulty : bad.Faulty fault) :
      Denotes text (.error fault)
  | sum {text : List Char} {components : List Component} {amounts : List Binary64}
      (some : text ≠ []) (unwritten : ∀ literal, ¬ Written text literal)
      (row : Row text components)
      (good : List.Forall₂ Component.Amounts components amounts) :
      Denotes text (reported (amounts.foldl Binary64.add (Binary64.zero false)))

/-! ## Rounding -/

/-- Only numbers with an exponent that is not negative can exceed the range. -/
theorem exceeds_iff {mantissa : Nat} (small : mantissa < Binary64.mantissaLimit) (exponent : Int) :
    (0 ≤ exponent ∧ greatestMillis + 1 < mantissa * 2 ^ exponent.natAbs) ↔
      (2 : ℚ) ^ 63 < mantissa * (2 : ℚ) ^ exponent := by
  rcases lt_or_ge exponent 0 with below | above
  · have power : (2 : ℚ) ^ exponent ≤ 1 := zpow_le_one_of_nonpos₀ (by norm_num) below.le
    have bounded : mantissa * (2 : ℚ) ^ exponent ≤ 2 ^ 63 :=
      calc mantissa * (2 : ℚ) ^ exponent ≤ mantissa :=
            mul_le_of_le_one_right (Nat.cast_nonneg _) power
        _ ≤ Binary64.mantissaLimit := by exact_mod_cast small.le
        _ ≤ 2 ^ 63 := by norm_num [Binary64.mantissaLimit]
    exact ⟨fun both => absurd both.1 below.not_ge, fun beyond => absurd bounded beyond.not_ge⟩
  · have product := Binary64.product_of_nonnegative mantissa 2 above.not_gt
    simp only [Nat.cast_ofNat, Nat.cast_one, div_one] at product
    have limit : ((greatestMillis + 1 : Nat) : ℚ) = 2 ^ 63 := by norm_num [greatestMillis]
    rw [← product, ← limit, Nat.cast_lt]
    exact and_iff_right above

/-- A number in normal form is reported by its value. -/
theorem wholeMillis_eq_reported {number : Binary64} (normal : number.Normal) :
    wholeMillis number = reported number := by
  cases number with
  | nan negative => rfl
  | infinite negative => rfl
  | finite negative mantissa exponent =>
    have power : (0 : ℚ) < (2 : ℚ) ^ exponent := zpow_pos two_pos _
    have nonnegative : (0 : ℚ) ≤ mantissa * (2 : ℚ) ^ exponent := by positivity
    have exceeds := exceeds_iff normal.1 exponent
    have whole : (round ((mantissa : ℚ) * (2 : ℚ) ^ exponent)).toNat =
        Binary64.roundMagnitude mantissa exponent := by
      rw [← Binary64.roundMagnitude_eq_round, Int.toNat_natCast]
    by_cases below : negative = true ∧ mantissa ≠ 0
    · -- A negative zero is not below zero, so the mantissa matters.
      obtain ⟨rfl, some⟩ := below
      have positive : (0 : ℚ) < mantissa * (2 : ℚ) ^ exponent := by positivity
      have outside : ¬ (0 : ℚ) ≤ -(mantissa * (2 : ℚ) ^ exponent) := by linarith
      simp [wholeMillis, reported, Binary64.value?, Number.withSign, some, outside]
    · have value : Number.withSign negative (mantissa * (2 : ℚ) ^ exponent) =
          mantissa * (2 : ℚ) ^ exponent := by
        cases negative with
        | false => rfl
        | true =>
          have zero : mantissa = 0 := by simpa using below
          simp [Number.withSign, zero]
      have signed : (negative && mantissa != 0) = false := by simpa using below
      simp only [wholeMillis, reported, Binary64.value?, value, signed, exceeds, nonnegative,
        true_and, Bool.false_eq_true, if_false, whole]
      by_cases beyond : (2 : ℚ) ^ 63 < mantissa * (2 : ℚ) ^ exponent
      · rw [if_pos beyond, if_neg beyond.not_ge]
      · rw [if_neg beyond, if_pos (not_lt.1 beyond)]
        rfl

/-! ## Components -/

/-- A text that writes a literal is read as its number. -/
theorem parse_of_written {text : List Char} {literal : Literal} (written : Written text literal) :
    Binary64.parse text = .ok (Binary64.ofLiteral literal) := by
  rw [Binary64.parse, written.parse]
  rfl

/-- A text that writes no literal is refused. -/
theorem parse_of_not_written {text : List Char} (unwritten : ∀ literal, ¬ Written text literal) :
    Binary64.parse text = .error (if text = [] then .empty else .invalid) := by
  rw [Binary64.parse, Literal.parse_eq_error_of_not_written unwritten]
  rfl

variable {number unit rest : List Char}

/-- The reader of components cuts a text where its rows are cut. -/
theorem Cut.read (cut : Cut number unit rest) :
    (number ++ (unit ++ rest)).takeWhile (fun character => !Text.isLetter character) = number ∧
      (number ++ (unit ++ rest)).dropWhile (fun character => !Text.isLetter character) =
        unit ++ rest ∧
      (unit ++ rest).takeWhile Text.isLetter = unit ∧
      (unit ++ rest).dropWhile Text.isLetter = rest := by
  have unlettered : ∀ character ∈ number, (!Text.isLetter character) = true :=
    fun character member => by simp [cut.bare character member]
  have begins : ∀ character ∈ (unit ++ rest).head?, (!Text.isLetter character) = false := by
    intro character first
    rw [List.head?_append_of_ne_nil _ cut.some] at first
    simp [cut.lettered character (List.mem_of_mem_head? first)]
  obtain ⟨numbered, behind⟩ := Text.cut_run unlettered begins
  obtain ⟨united, left⟩ := Text.cut_run cut.lettered cut.maximal
  exact ⟨numbered, behind, united, left⟩

/-- A good component is read as what it amounts to. -/
theorem readComponent_of_amounts (cut : Cut number unit rest) {amount : Binary64}
    (good : Component.Amounts ⟨number, unit⟩ amount) :
    readComponent (number ++ (unit ++ rest)) = .ok (amount, rest) := by
  obtain ⟨numbered, behind, united, left⟩ := cut.read
  have filled : (unit ++ rest).isEmpty = false := by simp [cut.some]
  obtain ⟨written, known⟩ := good
  simp only [readComponent, numbered, behind, filled, united, left, parse_of_written written, known,
    Bool.false_eq_true, if_false]

/-- A faulty component is refused with its fault. -/
theorem readComponent_of_faulty (cut : Cut number unit rest) {fault : QuantityError}
    (bad : Component.Faulty ⟨number, unit⟩ fault) :
    readComponent (number ++ (unit ++ rest)) = .error fault := by
  obtain ⟨numbered, behind, united, left⟩ := cut.read
  have filled : (unit ++ rest).isEmpty = false := by simp [cut.some]
  cases bad with
  | unlettered => exact absurd rfl cut.some
  | number some unwritten =>
    simp only [readComponent, numbered, behind, filled, parse_of_not_written unwritten,
      Bool.false_eq_true, if_false]
  | unit some written unknown =>
    simp only [readComponent, numbered, behind, filled, united, parse_of_written written, unknown,
      Bool.false_eq_true, if_false]

/-- A text without letters is refused for its missing unit. -/
theorem readComponent_unlettered (bare : ∀ character ∈ number, Text.isLetter character = false) :
    readComponent number = .error (.invalidUnit "") := by
  have none : number.dropWhile (fun character => !Text.isLetter character) = [] :=
    List.dropWhile_eq_nil_iff.2 fun character member => by simp [bare character member]
  simp only [readComponent, none, List.isEmpty_nil, if_true]

/-- A component that is read is added to the sum. -/
theorem sumComponents_of_read {text : List Char} {value : Binary64}
    (read : readComponent text = .ok (value, rest)) (total : Binary64) :
    sumComponents total text = sumComponents (total.add value) rest := by
  rw [sumComponents]
  split
  · rename_i none
    rw [List.isEmpty_iff.1 none, readComponent_unlettered (List.forall_mem_nil _)] at read
    cases read
  · split
    · rename_i refused
      rw [read] at refused
      cases refused
    · rename_i accepted
      rw [read] at accepted
      cases accepted
      rfl

/-- A component that is refused ends the sum. -/
theorem sumComponents_of_refused {text : List Char} {fault : QuantityError} (some : text ≠ [])
    (refused : readComponent text = .error fault) (total : Binary64) :
    sumComponents total text = .error fault := by
  rw [sumComponents, if_neg (by simp [some])]
  split
  · rename_i found
    rw [refused] at found
    cases found
    rfl
  · rename_i accepted
    rw [refused] at accepted
    cases accepted

/-! ## Rows -/

/-- A text that begins with a component has a letter. -/
theorem Cut.exists_letter (cut : Cut number unit rest) :
    ∃ character ∈ number ++ (unit ++ rest), Text.isLetter character = true := by
  obtain ⟨letter, member⟩ := List.exists_mem_of_ne_nil unit cut.some
  exact ⟨letter, by simp [member], cut.lettered letter member⟩

/-- A text with a letter begins with a component. -/
theorem exists_cut (text : List Char) (letter : Char) (member : letter ∈ text)
    (lettered : Text.isLetter letter = true) :
    ∃ number unit rest, text = number ++ (unit ++ rest) ∧ Cut number unit rest := by
  set number := text.takeWhile fun character => !Text.isLetter character
  set behind := text.dropWhile fun character => !Text.isLetter character with named
  refine ⟨number, behind.takeWhile Text.isLetter, behind.dropWhile Text.isLetter, ?_, ?_⟩
  · rw [List.takeWhile_append_dropWhile, List.takeWhile_append_dropWhile]
  · constructor
    · intro character bare
      simpa using List.mem_takeWhile_imp bare
    · have starts : ∀ character ∈ behind.head?, (!Text.isLetter character) = false :=
        Text.head_dropWhile
      cases remaining : behind with
      | nil =>
        have bare := List.dropWhile_eq_nil_iff.1 remaining letter member
        rw [lettered] at bare
        cases bare
      | cons first others =>
        rw [remaining] at starts
        have first : Text.isLetter first = true := by simpa using starts first rfl
        rw [List.takeWhile_cons_of_pos first]
        exact List.cons_ne_nil _ _
    · exact fun _ => List.mem_takeWhile_imp
    · exact Text.head_dropWhile

/-- Every text is cut into components. -/
theorem exists_row (text : List Char) : ∃ components, Row text components := by
  induction length : text.length using Nat.strong_induction_on generalizing text with
  | _ size inductionHypothesis =>
    by_cases lettered : ∃ letter ∈ text, Text.isLetter letter = true
    · obtain ⟨letter, member, lettered⟩ := lettered
      obtain ⟨number, unit, rest, rfl, cut⟩ := exists_cut text letter member lettered
      have shorter : rest.length < size := by
        have := List.length_pos_of_ne_nil cut.some
        simp only [List.length_append] at length
        omega
      obtain ⟨components, row⟩ := inductionHypothesis rest.length shorter rest rfl
      exact ⟨_, .component cut row⟩
    · have bare : ∀ character ∈ text, Text.isLetter character = false :=
        fun character member => by
          by_contra letter
          exact lettered ⟨character, member, by simpa using letter⟩
      by_cases none : text = []
      · rw [none]
        exact ⟨[], .done⟩
      · exact ⟨_, .unlettered none bare⟩

/-- A text is cut in one way only. -/
theorem Row.unique {text : List Char} {one other : List Component} (first : Row text one)
    (second : Row text other) : one = other := by
  induction first generalizing other with
  | done =>
    generalize same : ([] : List Char) = text at second
    cases second with
    | done => rfl
    | unlettered some bare => exact absurd same.symm some
    | component cut row =>
      obtain ⟨letter, member, -⟩ := cut.exists_letter
      rw [← same] at member
      cases member
  | unlettered some bare =>
    cases second with
    | done => exact absurd rfl some
    | unlettered _ _ => rfl
    | component cut row =>
      obtain ⟨letter, member, lettered⟩ := cut.exists_letter
      rw [bare letter member] at lettered
      cases lettered
  | @component number unit rest components cut row inductionHypothesis =>
    obtain ⟨numbered, behind, united, left⟩ := cut.read
    obtain ⟨letter, member, lettered⟩ := cut.exists_letter
    generalize number ++ (unit ++ rest) = text at second numbered behind member
    cases second with
    | done => cases member
    | unlettered some bare =>
      rw [bare letter member] at lettered
      cases lettered
    | component otherCut otherRow =>
      obtain ⟨numbered', behind', united', left'⟩ := otherCut.read
      rw [numbered] at numbered'
      rw [behind] at behind'
      rw [← behind', united] at united'
      rw [← behind', left] at left'
      subst numbered' united' left'
      rw [inductionHypothesis otherRow]

/-- A component without letters is worth nothing. -/
theorem not_amounts_unlettered (amount : Binary64) : ¬ Component.Amounts ⟨number, []⟩ amount := by
  rintro ⟨-, known⟩
  exact absurd known (by simp [unitMillis?])

/-- The components of a row are summed if all are good. -/
theorem Row.sum {text : List Char} {components : List Component} {amounts : List Binary64}
    (row : Row text components) (good : List.Forall₂ Component.Amounts components amounts)
    (total : Binary64) :
    sumComponents total text = .ok (amounts.foldl Binary64.add total) := by
  induction row generalizing amounts total with
  | done =>
    cases good
    rw [sumComponents]
    rfl
  | unlettered some bare =>
    cases good with
    | cons first others => exact absurd first (not_amounts_unlettered _)
  | component cut row inductionHypothesis =>
    cases good with
    | cons first others =>
      rw [sumComponents_of_read (readComponent_of_amounts cut first), inductionHypothesis others]
      rfl

/-- The first fault in a row is the one that is reported. -/
theorem Row.fault {text : List Char} {before after : List Component} {bad : Component}
    {fault : QuantityError} (row : Row text (before ++ bad :: after))
    (good : ∀ component ∈ before, ∃ amount, component.Amounts amount) (faulty : bad.Faulty fault)
    (total : Binary64) : sumComponents total text = .error fault := by
  induction before generalizing text total with
  | nil =>
    cases row with
    | unlettered some bare =>
      cases faulty with
      | unlettered => exact sumComponents_of_refused some (readComponent_unlettered bare) total
      | number some _ => exact absurd rfl some
      | unit some _ _ => exact absurd rfl some
    | component cut row =>
      refine sumComponents_of_refused ?_ (readComponent_of_faulty cut faulty) total
      simp [cut.some]
  | cons first others inductionHypothesis =>
    obtain ⟨amount, amounts⟩ := good first List.mem_cons_self
    generalize listed : first :: others ++ bad :: after = components at row
    cases row with
    | done => cases listed
    | unlettered some bare =>
      rw [(List.cons.inj listed).1] at amounts
      exact absurd amounts (not_amounts_unlettered _)
    | component cut row =>
      cases listed
      rw [sumComponents_of_read (readComponent_of_amounts cut amounts)]
      exact inductionHypothesis row (fun component member =>
        good component (List.mem_cons_of_mem _ member)) _

/-- A component is good or faulty. -/
theorem Component.good_or_faulty (component : Component) :
    (∃ amount, component.Amounts amount) ∨ ∃ fault, component.Faulty fault := by
  obtain ⟨number, unit⟩ := component
  by_cases none : unit = []
  · subst none
    exact .inr ⟨_, .unlettered⟩
  by_cases written : ∃ literal, Written number literal
  · obtain ⟨literal, written⟩ := written
    cases known : unitMillis? (String.ofList unit) with
    | none => exact .inr ⟨_, .unit none written known⟩
    | some millis => exact .inl ⟨_, .product written known⟩
  · exact .inr ⟨_, .number none (not_exists.1 written)⟩

/-- The number of a unit's milliseconds is exact. -/
theorem value?_of_unit {unit : String} {millis : Nat} (known : unitMillis? unit = some millis) :
    (Binary64.ofNat millis).value? = some (millis : ℚ) := by
  apply Binary64.value?_ofNat
  simp only [unitMillis?] at known
  split_ifs at known <;> cases known <;> decide

/-- What a component amounts to is the rounding of its number times its unit. -/
theorem rounds_product {literal : Literal} {value : ℚ} {unit : String} {millis : Nat}
    (finite : (Binary64.ofLiteral literal).value? = some value)
    (known : unitMillis? unit = some millis) :
    Binary64.Rounds (value * millis)
      ((Binary64.ofLiteral literal).mul (Binary64.ofNat millis)) :=
  Binary64.rounds_mul finite (value?_of_unit known)

/-- How the numbers of durations are computed. Each step gives a number of the format that is
    nearest to what is exact, and of two nearest ones that with the even mantissa. -/
structure CorrectlyRounded : Prop where
  /-- What a literal writes is rounded once. -/
  literal : ∀ {literal : Literal} {exact : ℚ}, literal.value? = some exact →
    Binary64.Rounds exact (Binary64.ofLiteral literal)
  /-- The product of the number and the unit of a component is rounded again. -/
  product : ∀ {literal : Literal} {value : ℚ} {unit : String} {millis : Nat},
    (Binary64.ofLiteral literal).value? = some value → unitMillis? unit = some millis →
      Binary64.Rounds (value * millis)
        ((Binary64.ofLiteral literal).mul (Binary64.ofNat millis))
  /-- So is the sum after each component. -/
  sum : ∀ {total amount : Binary64} {one other : ℚ}, total.value? = some one →
    amount.value? = some other → Binary64.Rounds (one + other) (total.add amount)

/-- Of components either all are good, or there is a first one that is not. -/
theorem good_or_first_faulty (components : List Component) :
    (∃ amounts, List.Forall₂ Component.Amounts components amounts) ∨
      ∃ before bad after fault, components = before ++ bad :: after ∧
        (∀ component ∈ before, ∃ amount, component.Amounts amount) ∧
        Component.Faulty bad fault := by
  induction components with
  | nil => exact .inl ⟨[], .nil⟩
  | cons first others inductionHypothesis =>
    rcases first.good_or_faulty with ⟨amount, good⟩ | ⟨fault, faulty⟩
    · rcases inductionHypothesis with
        ⟨amounts, all⟩ | ⟨before, bad, after, fault, rfl, rest, faulty⟩
      · exact .inl ⟨amount :: amounts, .cons good all⟩
      · refine .inr ⟨first :: before, bad, after, fault, rfl, ?_, faulty⟩
        exact List.forall_mem_cons.2 ⟨⟨amount, good⟩, rest⟩
    · exact .inr ⟨[], first, others, fault, rfl, List.forall_mem_nil _, faulty⟩

/-! ## Durations -/

/-- A sum from a number in normal form is in normal form. -/
theorem normal_foldl_add {total : Binary64} (normal : total.Normal) (amounts : List Binary64) :
    (amounts.foldl Binary64.add total).Normal := by
  induction amounts generalizing total with
  | nil => exact normal
  | cons amount others inductionHypothesis =>
    exact inductionHypothesis (Binary64.normal_add total amount)

/-- The empty text writes no literal. -/
theorem not_written_nil (literal : Literal) : ¬ Written [] literal := by
  intro written
  cases written.parse

/-- The reader gives what a text denotes. -/
theorem Denotes.read {text : List Char} {result : Except QuantityError Nat}
    (denotes : Denotes text result) : millisOfTrimmed text = result := by
  cases denotes with
  | empty => rfl
  | @number _ literal written =>
    have filled : text.isEmpty = false := by
      cases text with
      | nil => exact absurd written (not_written_nil _)
      | cons character others => rfl
    simp only [millisOfTrimmed, filled, Bool.false_eq_true, if_false, parse_of_written written]
    exact wholeMillis_eq_reported (Binary64.normal_ofLiteral literal)
  | fault some unwritten row good faulty =>
    have filled : text.isEmpty = false := List.isEmpty_eq_false_iff.2 some
    simp only [millisOfTrimmed, filled, Bool.false_eq_true, if_false,
      parse_of_not_written unwritten, row.fault good faulty]
  | @sum _ components amounts some unwritten row good =>
    have filled : text.isEmpty = false := List.isEmpty_eq_false_iff.2 some
    simp only [millisOfTrimmed, filled, Bool.false_eq_true, if_false,
      parse_of_not_written unwritten, row.sum good]
    exact wholeMillis_eq_reported (normal_foldl_add (Binary64.normal_zero false) amounts)

/-- Every text denotes something. -/
theorem exists_denotes (text : List Char) : ∃ result, Denotes text result := by
  by_cases none : text = []
  · subst none
    exact ⟨_, .empty⟩
  by_cases written : ∃ literal, Written text literal
  · obtain ⟨literal, written⟩ := written
    exact ⟨_, .number written⟩
  obtain ⟨components, row⟩ := exists_row text
  rcases good_or_first_faulty components with
    ⟨amounts, good⟩ | ⟨before, bad, after, fault, rfl, good, faulty⟩
  · exact ⟨_, .sum none (not_exists.1 written) row good⟩
  · exact ⟨_, .fault none (not_exists.1 written) row good faulty⟩

/-- The reader gives exactly what a text denotes. -/
theorem millisOfTrimmed_eq_iff (text : List Char) (result : Except QuantityError Nat) :
    millisOfTrimmed text = result ↔ Denotes text result := by
  constructor
  · rintro rfl
    obtain ⟨result, denotes⟩ := exists_denotes text
    rwa [denotes.read]
  · exact Denotes.read

/-- The milliseconds of a duration are what it denotes without the blanks around it, whether that
    is a number or a fault, and no number exceeds `2 ^ 63 - 1`. What a text denotes is computed with
    correct rounding in each step. -/
theorem parseMillis_exact (text : String) :
    (∀ result, parseMillis text = result ↔
      ∃ trimmed, Text.Trims text.toList trimmed ∧ Denotes trimmed result) ∧
    (∀ millis, parseMillis text = .ok millis → millis ≤ 2 ^ 63 - 1) ∧
    CorrectlyRounded := by
  refine ⟨?_, fun millis parsed => parseMillis_le parsed,
    ⟨Binary64.rounds_ofLiteral, rounds_product, Binary64.rounds_add⟩⟩
  intro result
  rw [parseMillis, millisOfTrimmed_eq_iff]
  constructor
  · intro denotes
    exact ⟨_, Text.trims_trim _, denotes⟩
  · rintro ⟨trimmed, trims, denotes⟩
    rwa [← trims.eq_trim]

/-- A bare number may have an exponent, where a component has the unknown unit `e`. -/
example : ["1e3", " 1m30s ", "1e3s"].map (fun text => (parseMillis text).toOption) =
    [some 1000, some 90000, none] := by
  decide +kernel

end RulePlane.Quantity
