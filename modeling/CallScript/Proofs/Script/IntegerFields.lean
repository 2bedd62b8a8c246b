import CallScript.Proofs.Number.Decimal
import CallScript.Proofs.Script.Tokens

/-! # Parameters that are declared integers

A parameter that is declared an integer may also be written with a point or an exponent.  Such a token denotes
a rational number (`Numeral`).  It is read as a double first, so that what counts is the nearest double: if
that is an integer of 64 bits, it is the value, also where the number that was written is another one.

* `Numeral`: a token denotes a rational number.
* `Numeral.numeral?_eq`, `Numeral.of_numeral?`: the parts that a token is read as come to the number that it
  denotes.
* `decode_declared_cases`: the tokens that a declaration makes a difference to.
* `declared_integers_are_rounded`: the value of such a token.
* `another_integer_is_read`: a token whose value is not the number that was written. -/

namespace CallScript

theorem Text.digitsToNat_append (s t : List Char) :
    digitsToNat (s ++ t) = digitsToNat s * 10 ^ t.length + digitsToNat t := by
  have fold (n : Nat) : t.foldl (fun n c => n * 10 + (c.toNat - '0'.toNat)) n =
      n * 10 ^ t.length + digitsToNat t := by
    unfold digitsToNat
    induction t generalizing n with
    | nil => simp
    | cons c t ih =>
        rw [List.foldl_cons, List.foldl_cons, ih, ih (0 * 10 + _), List.length_cons, pow_succ]
        ring
  have both : digitsToNat (s ++ t) = t.foldl (fun n c => n * 10 + (c.toNat - '0'.toNat)) (digitsToNat s) :=
    List.foldl_append
  rw [both, fold]

namespace Token

open Literal (IsSign IsDigits IsExponent)

/-! ### Numerals -/

/-- Digits with a point among them or without; those before the point and those after it. -/
inductive IsMantissa : List Char → List Char → List Char → Prop
  | whole {digits : List Char} (filled : IsDigits digits) : IsMantissa digits digits []
  | pointed {whole fraction : List Char} (whole_digits : ∀ c ∈ whole, Text.isDigit c = true)
      (fraction_digits : ∀ c ∈ fraction, Text.isDigit c = true) (some_digit : whole ++ fraction ≠ []) :
      IsMantissa (whole ++ '.' :: fraction) whole fraction

/-- The number that the digits around a point come to, by the place values of decimal notation. -/
def mantissaValue (whole fraction : List Char) : ℚ :=
  Text.digitsToNat whole + Text.digitsToNat fraction / 10 ^ fraction.length

/-- The number that the sign and the digits of an exponent come to. -/
def exponentValue (negative : Bool) (digits : List Char) : Int :=
  if negative then -(Text.digitsToNat digits : Int) else Text.digitsToNat digits

/-- A token denotes a rational number in decimal notation. -/
inductive Numeral : List Char → ℚ → Prop
  | mk {sign mantissa whole fraction exponent exponentDigits : List Char} {negative exponentNegative : Bool}
      (signed : IsSign sign negative) (digits : IsMantissa mantissa whole fraction)
      (exponential : IsExponent exponent exponentNegative exponentDigits) :
      Numeral (sign ++ (mantissa ++ exponent)) (Binary64.signed negative
        (mantissaValue whole fraction * 10 ^ exponentValue exponentNegative exponentDigits))

/-- A token is an integer as written. -/
def IsPlain (token : List Char) : Prop :=
  ∃ sign digits negative, IsSign sign negative ∧ IsDigits digits ∧ token = sign ++ digits

section

variable {token mantissa whole fraction exponent digits : List Char} {negative : Bool} {q : ℚ}

theorem isDigits_iff : (!digits.isEmpty && digits.all Text.isDigit) = true ↔ IsDigits digits := by
  simp [IsDigits, List.all_eq_true]

theorem plainInteger?_eq_none_iff : plainInteger? token = none ↔ ¬ IsPlain token := by
  constructor
  · rintro none_read ⟨sign, digits, negative, signed, filled, rfl⟩
    rw [plainInteger?_digits signed filled] at none_read
    cases none_read
  · intro not_plain
    unfold plainInteger?
    simp only
    split
    next all_digits =>
      obtain ⟨sign, token_eq, signed⟩ := Literal.reads_sign token
      exact absurd ⟨sign, _, _, signed, isDigits_iff.mp all_digits, token_eq⟩ not_plain
    · rfl

theorem exponentTail_eq (exponential : IsExponent exponent negative digits) :
    exponentTail exponent = some (negative, digits) := by
  cases exponential with
  | none => rfl
  | @some mark sign digits negative marks signed filled =>
      have signed_eq : Literal.sign (sign ++ (digits ++ [])) = (negative, digits ++ []) :=
        Literal.sign_append signed filled
      rw [List.append_nil] at signed_eq
      have all_digits : digits.all Text.isDigit = true := List.all_eq_true.mpr filled.2
      simp [exponentTail, marks, signed_eq, filled.1, all_digits]

theorem isExponent_of_exponentTail (read : exponentTail exponent = some (negative, digits)) :
    IsExponent exponent negative digits := by
  cases exponent with
  | nil =>
      cases read
      exact .none
  | cons mark rest =>
      obtain ⟨marks, read⟩ := Option.ite_none_right_eq_some.mp read
      obtain ⟨all_digits, read⟩ := Option.ite_none_right_eq_some.mp read
      cases read
      obtain ⟨sign, rest_eq, signed⟩ := Literal.reads_sign rest
      have marks : mark = 'e' ∨ mark = 'E' := by simpa using marks
      have filled : IsDigits (Literal.sign rest).2 := isDigits_iff.mp all_digits
      have written := IsExponent.some marks signed filled
      rw [← rest_eq] at written
      exact written

theorem IsMantissa.head (parts : IsMantissa mantissa whole fraction) :
    ∃ c more, mantissa = c :: more ∧ (Text.isDigit c = true ∨ c = '.') := by
  cases parts with
  | whole filled =>
      obtain ⟨c, more, rfl⟩ := List.exists_cons_of_ne_nil filled.1
      exact ⟨c, more, rfl, .inl (filled.2 c List.mem_cons_self)⟩
  | pointed whole_digits _ _ =>
      cases whole with
      | nil => exact ⟨'.', _, rfl, .inr rfl⟩
      | cons c more => exact ⟨c, _, rfl, .inl (whole_digits c List.mem_cons_self)⟩

/-- The digits around a point are read as such, up to the exponent. -/
theorem numeral?_eq {sign exponentDigits : List Char} {exponentNegative : Bool} (signed : IsSign sign negative)
    (parts : IsMantissa mantissa whole fraction)
    (exponential : IsExponent exponent exponentNegative exponentDigits) :
    numeral? (sign ++ (mantissa ++ exponent)) =
      some ⟨negative, whole, fraction, exponentNegative, exponentDigits⟩ := by
  have tail_eq := exponentTail_eq exponential
  have stop := exponential.stop Literal.Stops.nil
  rw [List.append_nil] at stop
  have sign_eq : Literal.sign (sign ++ (mantissa ++ exponent)) = (negative, mantissa ++ exponent) := by
    obtain ⟨c, more, rfl, first⟩ := parts.head
    have no_sign : c ≠ '+' ∧ c ≠ '-' := by
      rcases first with digit | rfl
      · exact Literal.isDigit_ne_sign digit
      · decide
    exact Literal.sign_cons signed no_sign.1 no_sign.2 _
  unfold numeral?
  rw [sign_eq]
  simp only
  cases parts with
  | whole filled =>
      have span := Literal.digits_append filled fun c head => (stop c head).1
      have no_point : ∀ s, exponent ≠ '.' :: s := by
        rintro s rfl
        exact (stop '.' rfl).2 rfl
      rw [span]
      simp only
      have some_digit : ¬ (mantissa.isEmpty && List.isEmpty ([] : List Char)) = true := by simp [filled.1]
      rw [if_neg some_digit, tail_eq]
      rfl
  | pointed whole_digits fraction_digits some_digit =>
      have before := Text.spanOf_append_cons whole_digits (by decide : Text.isDigit '.' = false)
        (fraction ++ exponent)
      have after : Text.spanOf Text.isDigit (fraction ++ exponent) = (fraction, exponent) :=
        Text.spanOf_eq_iff.mpr ⟨rfl, fraction_digits, fun c head => (stop c head).1⟩
      rw [List.append_assoc, List.cons_append, before]
      simp only [after]
      have filled : ¬ (whole.isEmpty && fraction.isEmpty) = true := by
        simpa using some_digit
      rw [if_neg filled, tail_eq]
      rfl

/-- Taking the digits after the point as digits before it is made up for by the exponent. -/
theorem value_ofParts (exponentNegative : Bool) (exponentDigits : List Char) :
    (Decimal.ofParts ⟨negative, whole, fraction, exponentNegative, exponentDigits⟩).value =
      Binary64.signed negative
        (mantissaValue whole fraction * 10 ^ exponentValue exponentNegative exponentDigits) := by
  have ten_ne_zero : (10 : ℚ) ≠ 0 := by norm_num
  unfold Decimal.value Decimal.ofParts mantissaValue
  refine congrArg (Binary64.signed negative) ?_
  simp only
  rw [zpow_sub₀ ten_ne_zero, zpow_natCast, Text.digitsToNat_append]
  have shift_ne_zero : (10 : ℚ) ^ fraction.length ≠ 0 := pow_ne_zero _ ten_ne_zero
  calc ((Text.digitsToNat whole * 10 ^ fraction.length + Text.digitsToNat fraction : ℕ) : ℚ) *
        (10 ^ exponentValue exponentNegative exponentDigits / 10 ^ fraction.length)
      = (Text.digitsToNat whole * 10 ^ fraction.length + Text.digitsToNat fraction) / 10 ^ fraction.length *
        10 ^ exponentValue exponentNegative exponentDigits := by
          push_cast
          ring
    _ = (Text.digitsToNat whole + Text.digitsToNat fraction / 10 ^ fraction.length) *
        10 ^ exponentValue exponentNegative exponentDigits := by
          rw [add_div, mul_div_cancel_right₀ _ shift_ne_zero]

/-- The parts that a token is read as come to the number that it denotes. -/
theorem Numeral.numeral?_eq (numeral : Numeral token q) :
    ∃ parts, numeral? token = some parts ∧ (Decimal.ofParts parts).value = q := by
  obtain ⟨signed, parts, exponential⟩ := numeral
  exact ⟨_, Token.numeral?_eq signed parts exponential, value_ofParts _ _⟩

/-- What is read as the parts of a numeral is one, and denotes the number that they come to. -/
theorem Numeral.of_numeral? {parts : Decimal.Parts} (read : numeral? token = some parts) :
    Numeral token (Decimal.ofParts parts).value := by
  obtain ⟨sign, token_eq, signed⟩ := Literal.reads_sign token
  generalize sign_eq : Literal.sign token = signed_parts at token_eq signed
  obtain ⟨negative, unsigned⟩ := signed_parts
  generalize span : Text.spanOf Text.isDigit unsigned = whole_parts
  obtain ⟨whole, rest⟩ := whole_parts
  obtain ⟨unsigned_eq, whole_digits, -⟩ := Text.spanOf_eq_iff.mp span
  simp only [numeral?, sign_eq, span] at read
  -- From the mantissa and what is behind it.
  have assembled {mantissa fraction exponent : List Char} (digits : IsMantissa mantissa whole fraction)
      (unsigned_parts : unsigned = mantissa ++ exponent)
      (tail : (exponentTail exponent).map
        (fun parsed => Decimal.Parts.mk negative whole fraction parsed.1 parsed.2) = some parts) :
      Numeral token (Decimal.ofParts parts).value := by
    obtain ⟨⟨down, exponent_digits⟩, exponent_read, rfl⟩ := Option.map_eq_some_iff.mp tail
    rw [token_eq, unsigned_parts, value_ofParts]
    exact .mk signed digits (isExponent_of_exponentTail exponent_read)
  obtain ⟨some_digit, tail⟩ := Option.ite_none_left_eq_some.mp read
  rw [Bool.and_eq_true, not_and, List.isEmpty_iff, List.isEmpty_iff] at some_digit
  revert some_digit tail
  split
  next after =>
    intro some_digit tail
    generalize fraction_span : Text.spanOf Text.isDigit after = fraction_parts at some_digit tail
    obtain ⟨fraction, exponent⟩ := fraction_parts
    obtain ⟨after_eq, fraction_digits, -⟩ := Text.spanOf_eq_iff.mp fraction_span
    refine assembled (.pointed whole_digits fraction_digits ?_) (by simp [unsigned_eq, after_eq]) tail
    exact fun nothing => some_digit (List.append_eq_nil_iff.mp nothing).1 (List.append_eq_nil_iff.mp nothing).2
  next =>
    intro some_digit tail
    exact assembled (.whole ⟨fun nothing => some_digit nothing rfl, whole_digits⟩) unsigned_eq tail

theorem Numeral.first (numeral : Numeral token q) : ∃ c more, token = c :: more ∧
    (c = '.' ∨ c = '+' ∨ c = '-' ∨ Text.isDigit c = true) := by
  obtain ⟨signed, parts, exponential⟩ := numeral
  obtain ⟨c, more, rfl, first⟩ := parts.head
  cases signed with
  | plus => exact ⟨'+', _, rfl, .inr (.inl rfl)⟩
  | minus => exact ⟨'-', _, rfl, .inr (.inr (.inl rfl))⟩
  | none => exact ⟨c, _, rfl, first.elim (fun digit => .inr (.inr (.inr digit))) .inl⟩

theorem Numeral.head (numeral : Numeral token q) : ∃ c more, token = c :: more ∧
    Literal.isQuote c = false ∧ c ≠ '[' ∧ c ≠ '\x7b' ∧ c ≠ '$' ∧ c.isAlpha = false := by
  obtain ⟨c, more, token_eq, rfl | start⟩ := numeral.first
  · exact ⟨'.', more, token_eq, by decide⟩
  · obtain ⟨no_quote, no_dollar, -, no_list, no_mapping⟩ := Literal.number_start start
    refine ⟨c, more, token_eq, no_quote, no_list, no_mapping, no_dollar, ?_⟩
    rcases start with rfl | rfl | digit
    · decide
    · decide
    · apply Bool.eq_false_iff.mpr
      intro letter
      rw [Literal.not_isDigit_of_isAlpha letter] at digit
      cases digit

theorem Numeral.bare_eq (numeral : Numeral token q) : bare token = .text (String.ofList token) := by
  obtain ⟨c, more, rfl, -, -, -, no_dollar, no_letter⟩ := numeral.head
  have not_lower {d : Char} (letter : d ∈ ['t', 'f']) : c.toLower ≠ d := by
    rintro rfl
    rw [Literal.isAlpha_of_toLower letter] at no_letter
    cases no_letter
  have no_true : c.toLower ≠ 't' := not_lower (by decide)
  have no_false : c.toLower ≠ 'f' := not_lower (by decide)
  have no_reference : referenced? (c :: more) = none := by
    unfold referenced?
    split
    next same => exact absurd (List.cons.inj same).1 no_dollar
    · rfl
  simp [bare, Text.eqIgnoringCase, no_true, no_false, no_reference]

end

/-! ### Values -/

section

variable {raw : List Char} {q : ℚ}

theorem decode_eq_unquoted_of_numeral (numeral : Numeral (Text.trim raw) q) (isInteger : Bool) :
    decode isInteger raw = unquoted isInteger (Text.trim raw) := by
  obtain ⟨c, more, token_eq, no_quote, no_list, no_mapping, -⟩ := numeral.head
  have trimmed := Text.trim_trim raw
  rw [← decode_trim]
  rw [token_eq] at trimmed ⊢
  exact decode_unquoted trimmed no_quote (not_or.mpr ⟨no_list, no_mapping⟩)

/-- A numeral that is no integer as written is read as the integer that the nearest double is. -/
theorem decode_numeral (numeral : Numeral (Text.trim raw) q) (not_plain : ¬ IsPlain (Text.trim raw)) :
    ∃ d : Decimal, d.value = q ∧ decode true raw = match integral? d.toBinary64 with
      | some n => .ok (.integer n)
      | none => .error (.notIntegral (Text.trim raw)) := by
  obtain ⟨parts, read, value_eq⟩ := numeral.numeral?_eq
  refine ⟨Decimal.ofParts parts, value_eq, ?_⟩
  have no_integer := plainInteger?_eq_none_iff.mpr not_plain
  rw [decode_eq_unquoted_of_numeral numeral]
  cases result : integral? (Decimal.ofParts parts).toBinary64 with
  | none => simp [unquoted, no_integer, read, result]
  | some n => simp [unquoted, no_integer, read, result]

theorem decode_numeral_undeclared (numeral : Numeral (Text.trim raw) q) (not_plain : ¬ IsPlain (Text.trim raw)) :
    decode false raw = .ok (.text (String.ofList (Text.trim raw))) := by
  have no_integer := plainInteger?_eq_none_iff.mpr not_plain
  rw [decode_eq_unquoted_of_numeral numeral]
  simp [unquoted, no_integer, numeral.bare_eq]

/-- A declaration makes a difference to a token only if it is such a numeral, which is a text without it, and with
it the integer that the nearest double is, or a fault if this is none of 64 bits. -/
theorem decode_declared_cases (raw : List Char) : decode true raw = decode false raw ∨
    ∃ q, Numeral (Text.trim raw) q ∧ ¬ IsPlain (Text.trim raw) ∧
      decode false raw = .ok (.text (String.ofList (Text.trim raw))) ∧
      ((∃ (n : Int64) (x : Binary64), Binary64.Nearest q x ∧ x.value = n.toInt ∧
          decode true raw = .ok (.integer n)) ∨
        (∀ x, Binary64.Nearest q x → ∀ n : Int64, x.value ≠ n.toInt) ∧
          decode true raw = .error (.notIntegral (Text.trim raw))) := by
  cases plain : plainInteger? (Text.trim raw) with
  | some parts => exact .inl (by simp [decode, unquoted, plain])
  | none =>
      cases read : numeral? (Text.trim raw) with
      | none => exact .inl (by simp [decode, unquoted, plain, read])
      | some parts =>
          have numeral := Numeral.of_numeral? read
          have not_plain := plainInteger?_eq_none_iff.mp plain
          obtain ⟨d, value_eq, declared⟩ := decode_numeral numeral not_plain
          refine .inr ⟨_, numeral, not_plain, decode_numeral_undeclared numeral not_plain, ?_⟩
          rw [← value_eq, declared]
          cases result : integral? d.toBinary64 with
          | some n =>
              obtain ⟨x, nearest, is_integer⟩ := Decimal.integral_iff.mp result
              exact .inl ⟨n, x, nearest, is_integer, rfl⟩
          | none =>
              refine .inr ⟨fun x nearest n is_integer => ?_, rfl⟩
              rw [Decimal.integral_iff.mpr ⟨x, nearest, is_integer⟩] at result
              cases result

/-- A numeral that is no integer as written has the value of the nearest double, for a parameter that is
declared an integer: the integer that this double is, and no value if it is none of 64 bits.  That is the
number as written if that is a double itself, and otherwise a number close to it. -/
theorem declared_integers_are_rounded (numeral : Numeral (Text.trim raw) q)
    (not_plain : ¬ IsPlain (Text.trim raw)) :
    (∀ n : Int64, decode true raw = .ok (.integer n) ↔ ∃ x, Binary64.Nearest q x ∧ x.value = n.toInt) ∧
      ((∀ n : Int64, decode true raw ≠ .ok (.integer n)) →
        decode true raw = .error (.notIntegral (Text.trim raw))) ∧
      (∀ n : Int64, decode true raw = .ok (.integer n) → |q - n.toInt| ≤ max (|q| / 2 ^ 53) (2 ^ (-1075 : Int))) ∧
      ((∃ x : Binary64, x.IsFinite ∧ x.value = q) →
        ∀ n : Int64, decode true raw = .ok (.integer n) ↔ q = n.toInt) := by
  obtain ⟨d, rfl, decode_eq⟩ := decode_numeral numeral not_plain
  have read_iff (n : Int64) : decode true raw = .ok (.integer n) ↔ integral? d.toBinary64 = some n := by
    rw [decode_eq]
    cases integral? d.toBinary64 <;> simp
  have nearest_iff (n : Int64) : decode true raw = .ok (.integer n) ↔
      ∃ x, Binary64.Nearest d.value x ∧ x.value = n.toInt := (read_iff n).trans Decimal.integral_iff
  refine ⟨nearest_iff, fun no_integer => ?_, fun n read => ?_, ?_⟩
  · cases read : integral? d.toBinary64 with
    | some n => exact absurd ((read_iff n).mpr read) (no_integer n)
    | none => rw [decode_eq, read]
  · exact Decimal.close_of_integral ((read_iff n).mp read)
  · rintro ⟨x, finite, value_eq⟩ n
    have own := (Binary64.Rounded.of_value_eq finite value_eq).toNearest
    rw [nearest_iff]
    constructor
    · rintro ⟨y, nearest, is_integer⟩
      rw [← value_eq, own.unique nearest, is_integer]
    · intro is_integer
      exact ⟨x, own, value_eq.trans is_integer⟩

end

/-- A hundred with an exponent is a double, and is read as such. -/
theorem a_hundred_is_read : Numeral (Text.trim " 1e2".toList) 100 ∧ ¬ IsPlain (Text.trim " 1e2".toList) ∧
    ∃ x, Binary64.Nearest 100 x ∧ x.value = (100 : Int64).toInt := by
  have trimmed : Text.trim " 1e2".toList = [] ++ (['1'] ++ ['e', '2']) := by decide +kernel
  have denoted : Binary64.signed false (mantissaValue ['1'] [] * 10 ^ exponentValue false ['2']) = 100 := by
    have one : Text.digitsToNat ['1'] = 1 := rfl
    have two : Text.digitsToNat ['2'] = 2 := rfl
    have none : Text.digitsToNat [] = 0 := rfl
    norm_num [Binary64.signed, mantissaValue, exponentValue, one, two, none]
  have numeral : Numeral (Text.trim " 1e2".toList) 100 := by
    rw [trimmed, ← denoted]
    exact .mk .none (.whole ⟨List.cons_ne_nil _ _, List.all_eq_true.mp rfl⟩)
      (.some (.inl rfl) .none ⟨List.cons_ne_nil _ _, List.all_eq_true.mp rfl⟩)
  have not_plain : ¬ IsPlain (Text.trim " 1e2".toList) := by
    rw [← plainInteger?_eq_none_iff]
    decide +kernel
  exact ⟨numeral, not_plain, ((declared_integers_are_rounded numeral not_plain).1 100).mp rfl⟩

/-- The first integer that is no double, written with a point, is read as another one. -/
theorem another_integer_is_read : Numeral "9007199254740993.0".toList 9007199254740993 ∧
    ¬ IsPlain "9007199254740993.0".toList ∧
    decode true "9007199254740993.0".toList = .ok (.integer 9007199254740992) ∧
    ((9007199254740992 : Int64).toInt : ℚ) ≠ 9007199254740993 := by
  have token_eq : "9007199254740993.0".toList = [] ++ (("9007199254740993".toList ++ ['.', '0']) ++ []) := rfl
  have denoted : Binary64.signed false (mantissaValue "9007199254740993".toList ['0'] *
      10 ^ exponentValue false []) = 9007199254740993 := by
    have whole : Text.digitsToNat "9007199254740993".toList = 9007199254740993 := by decide +kernel
    have zero : Text.digitsToNat ['0'] = 0 := rfl
    have none : Text.digitsToNat [] = 0 := rfl
    norm_num [Binary64.signed, mantissaValue, exponentValue, whole, zero, none]
  refine ⟨?_, ?_, rfl, by decide +kernel⟩
  · rw [token_eq, ← denoted]
    exact .mk .none (.pointed (List.all_eq_true.mp rfl) (List.all_eq_true.mp rfl) (List.cons_ne_nil _ _)) .none
  · rw [← plainInteger?_eq_none_iff]
    decide +kernel

/-- A number that is no integer may be read as one. -/
example : decode true "0.99999999999999999999".toList = .ok (.integer 1) := rfl

end Token

end CallScript
