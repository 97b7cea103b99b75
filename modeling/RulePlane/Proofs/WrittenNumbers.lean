import Mathlib.Data.List.TakeWhile
import RulePlane.Number.Literal

/-!
# Written numbers

The grammar of number literals, stated apart from their reader: an optional sign, then digits with
an optional point and an optional exponent, or one of the special words in any case. The reader
accepts exactly the texts of the grammar, and a text writes one literal only.
-/

namespace RulePlane.Text

/-- A run of characters ends where the text goes on without their property. -/
theorem cut_run {property : Char → Bool} {run rest : List Char}
    (held : ∀ character ∈ run, property character = true)
    (ends : ∀ character ∈ rest.head?, property character = false) :
    (run ++ rest).takeWhile property = run ∧ (run ++ rest).dropWhile property = rest := by
  rw [List.takeWhile_append_of_pos held, List.dropWhile_append_of_pos held]
  cases rest with
  | nil => simp
  | cons character others =>
    have missing : property character = false := ends character rfl
    simp [missing]

/-- Behind the longest run of a property it does not hold. -/
theorem head_dropWhile {property : Char → Bool} {text : List Char} :
    ∀ character ∈ (text.dropWhile property).head?, property character = false := by
  intro character first
  have head := List.head?_dropWhile_not property text
  rw [Option.mem_def.1 first] at head
  exact head

end RulePlane.Text

namespace RulePlane.Number

/-- Whether all characters of a text are digits. -/
def AllDigits (text : List Char) : Prop := ∀ character ∈ text, isDigit character = true

/-- How a sign is written, and whether it makes a number negative. -/
inductive SignWritten : List Char → Bool → Prop
  | absent : SignWritten [] false
  | plus : SignWritten ['+'] false
  | minus : SignWritten ['-'] true

/-- How the part behind the whole digits is written, and the digits of it. -/
inductive FractionWritten : List Char → List Char → Prop
  | absent : FractionWritten [] []
  | point {digits : List Char} (all : AllDigits digits) : FractionWritten ('.' :: digits) digits

/-- How an exponent is written, and its value. -/
inductive ExponentWritten : List Char → Int → Prop
  | absent : ExponentWritten [] 0
  | marked {mark : Char} {sign digits : List Char} {negative : Bool}
      (marks : mark = 'e' ∨ mark = 'E') (signed : SignWritten sign negative) (some : digits ≠ [])
      (all : AllDigits digits) :
      ExponentWritten (mark :: (sign ++ digits))
        (if negative then -(digitsValue digits : Int) else digitsValue digits)

/-- How a number literal is written. Digits stand on one side of the point at least. -/
inductive Written : List Char → Literal → Prop
  | decimal {sign whole behind fraction tail : List Char} {negative : Bool} {exponent : Int}
      (signed : SignWritten sign negative) (all : AllDigits whole)
      (pointed : FractionWritten behind fraction) (some : whole ++ fraction ≠ [])
      (scaled : ExponentWritten tail exponent) :
      Written (sign ++ (whole ++ (behind ++ tail)))
        (.decimal negative (digitsValue (whole ++ fraction)) (exponent - fraction.length))
  | infinite {sign word : List Char} {negative : Bool} (signed : SignWritten sign negative)
      (spelled : word.map Char.toLower = "inf".toList ∨ word.map Char.toLower = "infinity".toList) :
      Written (sign ++ word) (.infinite negative)
  | nan {sign word : List Char} {negative : Bool} (signed : SignWritten sign negative)
      (spelled : word.map Char.toLower = "nan".toList) :
      Written (sign ++ word) (.nan negative)

/-! ## Signs -/

/-- Whether a text begins with no sign. -/
def Unsigned (text : List Char) : Prop :=
  ∀ character ∈ text.head?, character ≠ '-' ∧ character ≠ '+'

/-- A sign is split off the text that it stands before. -/
theorem splitSign_append {sign rest : List Char} {negative : Bool}
    (signed : SignWritten sign negative) (bare : Unsigned rest) :
    splitSign (sign ++ rest) = (negative, rest) := by
  cases signed with
  | plus => rfl
  | minus => rfl
  | absent =>
    cases rest with
    | nil => rfl
    | cons character others =>
      obtain ⟨notMinus, notPlus⟩ := bare character rfl
      simp [splitSign, notMinus, notPlus]

/-- What is split off a text is a sign. -/
theorem exists_sign (text : List Char) :
    ∃ sign, SignWritten sign (splitSign text).1 ∧ text = sign ++ (splitSign text).2 := by
  unfold splitSign
  split
  · exact ⟨_, .minus, rfl⟩
  · exact ⟨_, .plus, rfl⟩
  · exact ⟨_, .absent, rfl⟩

/-- A digit is no sign. -/
theorem unsigned_of_isDigit {character : Char} (digit : isDigit character = true) :
    character ≠ '-' ∧ character ≠ '+' := by
  constructor <;> rintro rfl <;> exact absurd digit (by decide)

/-! ## Exponents -/

/-- The reader of exponents accepts exactly the written ones. -/
theorem parseExponent?_eq_some_iff (text : List Char) (exponent : Int) :
    parseExponent? text = some exponent ↔ ExponentWritten text exponent := by
  constructor
  · intro read
    cases text with
    | nil =>
      cases read
      exact .absent
    | cons mark rest =>
      obtain ⟨sign, signed, spelled⟩ := exists_sign rest
      simp only [parseExponent?] at read
      split at read
      · rename_i marks
        split at read
        · cases read
        · rename_i digits
          simp only [Bool.or_eq_true, List.isEmpty_iff, Bool.not_eq_true', not_or,
            Bool.not_eq_false, List.all_eq_true] at digits
          have written := ExponentWritten.marked marks signed digits.1 digits.2
          rw [← spelled] at written
          split at read
          · rename_i negative
            cases read
            simpa only [negative, if_true] using written
          · rename_i positive
            cases read
            simpa only [positive, Bool.false_eq_true, if_false] using written
      · cases read
  · intro written
    cases written with
    | absent => rfl
    | @marked mark sign digits negative marks signed some all =>
      have bare : Unsigned digits := fun character first =>
        unsigned_of_isDigit (all character (List.mem_of_mem_head? first))
      have every : digits.all isDigit = true := List.all_eq_true.2 all
      simp only [parseExponent?, marks, if_true, splitSign_append signed bare, every,
        List.isEmpty_eq_false_iff.2 some, Bool.not_true, Bool.or_false, Bool.false_eq_true,
        if_false]
      cases negative <;> rfl

/-- An exponent does not begin with a digit or a point. -/
theorem ExponentWritten.head {text : List Char} {exponent : Int}
    (written : ExponentWritten text exponent) :
    ∀ character ∈ text.head?, isDigit character = false ∧ character ≠ '.' := by
  intro character first
  cases written with
  | absent => cases first
  | marked marks _ _ _ =>
    cases first
    rcases marks with rfl | rfl <;> decide

/-! ## Decimals -/

/-- The part behind the whole digits is split at the end of its own digits. -/
theorem splitFraction_append {behind fraction tail : List Char}
    (pointed : FractionWritten behind fraction)
    (ends : ∀ character ∈ tail.head?, isDigit character = false ∧ character ≠ '.') :
    splitFraction (behind ++ tail) = (fraction, tail) := by
  cases pointed with
  | absent =>
    cases tail with
    | nil => rfl
    | cons character others =>
      have notPoint : character ≠ '.' := (ends character rfl).2
      simp [splitFraction, notPoint]
  | point all =>
    obtain ⟨taken, dropped⟩ := Text.cut_run all fun character first => (ends character first).1
    simp only [List.cons_append, splitFraction, taken, dropped]

/-- What is split off behind the whole digits is a point with digits, or nothing. -/
theorem exists_fraction (text : List Char) :
    ∃ behind, FractionWritten behind (splitFraction text).1 ∧
      text = behind ++ (splitFraction text).2 := by
  unfold splitFraction
  split
  · exact ⟨_, .point fun _ => List.mem_takeWhile_imp, by simp⟩
  · exact ⟨_, .absent, rfl⟩

/-- The reader of decimals gives what the text writes. -/
theorem parseDecimal?_append {whole behind fraction tail : List Char} {exponent : Int}
    (negative : Bool) (all : AllDigits whole) (pointed : FractionWritten behind fraction)
    (some : whole ++ fraction ≠ []) (scaled : ExponentWritten tail exponent) :
    parseDecimal? negative (whole ++ (behind ++ tail)) =
      .some (.decimal negative (digitsValue (whole ++ fraction)) (exponent - fraction.length)) := by
  have ends : ∀ character ∈ (behind ++ tail).head?, isDigit character = false := by
    intro character first
    cases pointed with
    | absent => exact (scaled.head character first).1
    | point _ =>
      cases first
      decide
  obtain ⟨taken, dropped⟩ := Text.cut_run all ends
  have digits : (whole.isEmpty && fraction.isEmpty) = false := by
    rw [← Bool.not_eq_true, Bool.and_eq_true, List.isEmpty_iff, List.isEmpty_iff]
    exact fun none => some (by simp [none.1, none.2])
  have read := (parseExponent?_eq_some_iff tail exponent).2 scaled
  simp [parseDecimal?, taken, dropped, splitFraction_append pointed scaled.head, digits, read]

/-- What the reader of decimals accepts is written as one. -/
theorem written_of_parseDecimal? {sign text : List Char} {negative : Bool} {literal : Literal}
    (signed : SignWritten sign negative) (read : parseDecimal? negative text = some literal) :
    Written (sign ++ text) literal := by
  obtain ⟨behind, pointed, spelled⟩ := exists_fraction (text.dropWhile isDigit)
  simp only [parseDecimal?] at read
  split at read
  · cases read
  · rename_i digits
    simp only [Bool.and_eq_true, List.isEmpty_iff] at digits
    simp only [Option.bind_eq_bind, Option.bind_eq_some_iff] at read
    obtain ⟨exponent, scaled, read⟩ := read
    cases read
    have whole : AllDigits (text.takeWhile isDigit) := fun _ => List.mem_takeWhile_imp
    have written := Written.decimal signed whole pointed
      (fun none => digits (List.append_eq_nil_iff.1 none))
      ((parseExponent?_eq_some_iff _ _).1 scaled)
    rwa [← spelled, List.takeWhile_append_dropWhile] at written

/-! ## Words -/

/-- The case of a digit cannot be changed. -/
theorem toLower_of_isDigit {character : Char} (digit : isDigit character = true) :
    character.toLower = character := by
  simp only [isDigit, Bool.and_eq_true, decide_eq_true_eq, Char.le_def] at digit
  unfold Char.toLower
  rw [dif_neg]
  rintro ⟨upper, _⟩
  exact absurd (UInt32.le_trans upper digit.2) (by decide)

/-- Whether a text is one of the special words, in any case. -/
def SpecialWord (text : List Char) : Prop :=
  text.map Char.toLower = "inf".toList ∨ text.map Char.toLower = "infinity".toList ∨
    text.map Char.toLower = "nan".toList

/-- What a special word begins with begins no number and is no sign. -/
theorem SpecialWord.head {word : List Char} (special : SpecialWord word) :
    ∀ character ∈ word.head?, (character ≠ '-' ∧ character ≠ '+') ∧
      isDigit character = false ∧ character ≠ '.' := by
  intro character first
  have lower : character.toLower = 'i' ∨ character.toLower = 'n' := by
    cases word with
    | nil => cases first
    | cons head others =>
      cases first
      rcases special with spelled | spelled | spelled
      · exact .inl (List.cons.inj spelled).1
      · exact .inl (List.cons.inj spelled).1
      · exact .inr (List.cons.inj spelled).1
  refine ⟨⟨?_, ?_⟩, ?_, ?_⟩
  · rintro rfl
    exact absurd lower (by decide)
  · rintro rfl
    exact absurd lower (by decide)
  · by_contra digit
    have digit : isDigit character = true := by simpa using digit
    rw [toLower_of_isDigit digit] at lower
    rcases lower with rfl | rfl <;> exact absurd digit (by decide)
  · rintro rfl
    exact absurd lower (by decide)

/-- A text that begins like no decimal is read as none. -/
theorem parseDecimal?_eq_none {text : List Char} (negative : Bool)
    (ends : ∀ character ∈ text.head?, isDigit character = false ∧ character ≠ '.') :
    parseDecimal? negative text = none := by
  have nothing : AllDigits [] := List.forall_mem_nil _
  obtain ⟨taken, dropped⟩ := Text.cut_run nothing fun character first => (ends character first).1
  have split : splitFraction text = ([], text) := splitFraction_append .absent ends
  simp only [List.nil_append] at taken dropped
  simp [parseDecimal?, taken, dropped, split]

/-- A special word with a sign is read as the literal that the word stands for. -/
theorem parse_word {sign word : List Char} {negative : Bool} {literal : Literal}
    (signed : SignWritten sign negative) (special : SpecialWord word)
    (read : parseWord? negative word = some literal) :
    Literal.parse (sign ++ word) = .ok literal := by
  have head := special.head
  have filled : (sign ++ word).isEmpty = false := by
    cases word with
    | nil => simp [SpecialWord] at special
    | cons character others => simp
  have bare : Unsigned word := fun character first => (head character first).1
  have noDecimal := parseDecimal?_eq_none negative fun character first => (head character first).2
  simp only [Literal.parse, filled, Bool.false_eq_true, if_false, splitSign_append signed bare,
    noDecimal, read]

/-! ## Literals -/

/-- What is written as a literal is read as that literal. -/
theorem Written.parse {text : List Char} {literal : Literal} (written : Written text literal) :
    Literal.parse text = .ok literal := by
  cases written with
  | @decimal sign whole behind fraction tail negative exponent signed all pointed some scaled =>
    -- A decimal begins with a digit or a point, so the sign ends before it.
    have bare : Unsigned (whole ++ (behind ++ tail)) := by
      intro character first
      cases whole with
      | cons digit others =>
        cases first
        exact unsigned_of_isDigit (all _ List.mem_cons_self)
      | nil =>
        cases pointed with
        | absent => exact absurd rfl some
        | point _ =>
          cases first
          decide
    have filled : (sign ++ (whole ++ (behind ++ tail))).isEmpty = false := by
      cases whole with
      | cons digit others => simp
      | nil =>
        cases pointed with
        | absent => exact absurd rfl some
        | point _ => simp
    simp only [Literal.parse, filled, Bool.false_eq_true, if_false, splitSign_append signed bare,
      parseDecimal?_append negative all pointed some scaled]
  | infinite signed spelled =>
    refine parse_word signed (spelled.imp_right .inl) ?_
    simp only [parseWord?, spelled, if_true]
  | @nan sign word negative signed spelled =>
    refine parse_word signed (.inr (.inr spelled)) ?_
    have other : ¬ ("nan".toList = "inf".toList ∨ "nan".toList = "infinity".toList) := by decide
    simp only [parseWord?, spelled, other, if_false, if_true]

/-- What is read as a literal is written as that literal. -/
theorem written_of_parse {text : List Char} {literal : Literal}
    (read : Literal.parse text = .ok literal) : Written text literal := by
  obtain ⟨sign, signed, spelled⟩ := exists_sign text
  simp only [Literal.parse] at read
  split at read
  · cases read
  · split at read
    · rename_i decimal
      cases read
      rw [spelled]
      exact written_of_parseDecimal? signed decimal
    · split at read
      · rename_i word
        cases read
        rw [spelled]
        simp only [parseWord?] at word
        split at word
        · rename_i infinite
          cases word
          exact .infinite signed infinite
        · split at word
          · rename_i nan
            cases word
            exact .nan signed nan
          · cases word
      · cases read

/-- The reader of literals accepts exactly the written ones. -/
theorem Literal.parse_eq_ok_iff (text : List Char) (literal : Literal) :
    Literal.parse text = .ok literal ↔ Written text literal :=
  ⟨written_of_parse, Written.parse⟩

/-- A text writes one literal only. -/
theorem Written.unique {text : List Char} {one other : Literal} (first : Written text one)
    (second : Written text other) : one = other :=
  Except.ok.inj (first.parse.symm.trans second.parse)

/-- A text that writes no literal is refused, as empty if it is. -/
theorem Literal.parse_eq_error_of_not_written {text : List Char}
    (unwritten : ∀ literal, ¬ Written text literal) :
    Literal.parse text = .error (if text = [] then .empty else .invalid) := by
  cases read : Literal.parse text with
  | ok literal => exact absurd (written_of_parse read) (unwritten literal)
  | error fault =>
    have empty := Literal.parse_eq_empty_iff text
    rw [read] at empty
    cases fault <;> simp_all

end RulePlane.Number
