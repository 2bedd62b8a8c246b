import CallScript.Proofs.Script.LiteralReading
import CallScript.Proofs.Script.Passage
import CallScript.Script.Token

/-! # Value tokens by their first character

The first character of a token decides which reader it is for: a quote, a bracket, or any other.  Among the
others, digits with or without a sign are an integer or an error, and what starts with neither a sign, a
point nor a digit is no number.

* `Literal.exists_literal`: a literal in brackets is a token and spacing.
* `Literal.Denotes.passes`: it is not cut inside a parameter list.
* `Token.literal_or_isFlat`: the values that tokens have. -/

namespace CallScript

/-! ### Literals as tokens -/

namespace Literal

variable {s t : List Char} {c : Char} {v : Value} {loneComma : Bool}

/-- Whether a character opens a list or a mapping. -/
def IsBracket (c : Char) : Prop := c = '[' ∨ c = '\x7b'

theorem IsBracket.not_isQuote (bracket : IsBracket c) : isQuote c = false := by
  rcases bracket with rfl | rfl <;> decide

theorem IsBracket.not_isBlank (bracket : IsBracket c) : Text.isBlank c = false := by
  rcases bracket with rfl | rfl <;> decide

/-- What denotes a value is passed over at the start of a token. -/
theorem Denotes.passes (denotes : Denotes loneComma t v) : Segment.Passes true false t := by
  have read := (readsBackWithin loneComma (2 * t.length)).value denotes .nil (Nat.le_refl _)
  rw [List.append_nil] at read
  exact value_passes read

/-- What opens a bracket and denotes a value ends where the bracket is closed. -/
theorem Denotes.exists_closing (denotes : Denotes loneComma t v) (opens : ∃ c ∈ t.head?, IsBracket c) :
    ∃ inner close, t = inner ++ [close] ∧ (close = ']' ∨ close = '\x7d') := by
  cases denotes with
  | scalar kind =>
      obtain ⟨c, more, rfl, -, no_list, no_mapping⟩ := kind.head
      obtain ⟨_, head, bracket⟩ := opens
      cases head
      rcases bracket with same | same
      · exact absurd same no_list
      · exact absurd same no_mapping
  | @list s _ _ => exact ⟨'[' :: s, ']', rfl, .inl rfl⟩
  | @mapping s _ _ _ _ => exact ⟨'\x7b' :: s, '\x7d', rfl, .inr rfl⟩

/-- A text that is read as a literal and starts with a bracket ends with one, up to spacing. -/
theorem exists_literal (read : decode t = .ok v) (opens : ∃ c ∈ t.head?, IsBracket c) :
    ∃ s gap, t = s ++ gap ∧ IsGap gap ∧ Denotes true s v ∧ Text.trim s = s ∧ ∃ c ∈ s.head?, IsBracket c := by
  obtain @⟨gap, gap', s, _, spacing, spacing', denotes⟩ := written_of_decode read
  obtain ⟨c, head, bracket⟩ := opens
  obtain ⟨d, more, s_eq, -⟩ := denotes.head
  cases gap with
  | cons space gap =>
      cases head
      have blank := isBlank_of_isSpacing (spacing _ List.mem_cons_self)
      rw [bracket.not_isBlank] at blank
      cases blank
  | nil =>
      rw [List.nil_append, s_eq] at head
      cases head
      have s_opens : ∃ e ∈ s.head?, IsBracket e := ⟨c, s_eq ▸ rfl, bracket⟩
      obtain ⟨inner, close, closed, closes⟩ := denotes.exists_closing s_opens
      refine ⟨s, gap', List.nil_append _, spacing', denotes, ?_, s_opens⟩
      apply Text.trim_eq_self
      · intro e first
        rw [s_eq] at first
        cases first
        exact bracket.not_isBlank
      · rw [closed]
        refine Text.last_not_blank ?_ inner
        rcases closes with rfl | rfl <;> decide

end Literal

/-! ### Readers of tokens -/

namespace Token

open Literal (IsBracket IsSign IsDigits isQuote)

variable {raw t sign digits : List Char} {c : Char} {isInteger negative : Bool} {v : Value}

theorem decode_trim (isInteger : Bool) (raw : List Char) :
    decode isInteger (Text.trim raw) = decode isInteger raw := by
  simp only [decode, Text.trim_trim]

theorem decode_quoted {s : String} (trimmed : Text.trim t = t) (quoted : Literal.QuotedText t s) :
    decode isInteger t = .ok (.text s) := by
  have read := Literal.quotedText_append quoted []
  rw [List.append_nil] at read
  have unquoted : Literal.unquote t = some s := by
    simp only [Literal.unquote, read]
  obtain ⟨quotes, -⟩ := quoted
  simp only [decode, trimmed, quotes, if_true, unquoted]

theorem decode_bracketed (trimmed : Text.trim t = t) (opens : ∃ c ∈ t.head?, IsBracket c)
    (read : Literal.decode t = .ok v) : decode isInteger t = .ok v := by
  obtain ⟨c, head, bracket⟩ := opens
  obtain ⟨more, rfl⟩ := List.head?_eq_some_iff.mp head
  have no_quote := bracket.not_isQuote
  unfold IsBracket at bracket
  simp [decode, trimmed, no_quote, bracket, read]

theorem decode_unquoted (trimmed : Text.trim (c :: t) = c :: t) (no_quote : isQuote c = false)
    (no_bracket : ¬ IsBracket c) : decode isInteger (c :: t) = unquoted isInteger (c :: t) := by
  unfold IsBracket at no_bracket
  simp [decode, trimmed, no_quote, no_bracket]

theorem plainInteger?_digits (signed : IsSign sign negative) (filled : IsDigits digits) :
    plainInteger? (sign ++ digits) = some (negative, digits) := by
  have cut : Literal.sign (sign ++ (digits ++ [])) = (negative, digits ++ []) :=
    Literal.sign_append signed filled
  have all : digits.all Text.isDigit = true := List.all_eq_true.mpr filled.2
  rw [List.append_nil] at cut
  simp [plainInteger?, cut, filled.1, all]

theorem unquoted_digits (signed : IsSign sign negative) (filled : IsDigits digits) :
    unquoted isInteger (sign ++ digits) = match Literal.integer? negative digits with
      | some i => .ok (.integer i)
      | none => .error (.outOfRange (sign ++ digits)) := by
  have plain := plainInteger?_digits signed filled
  cases read : Literal.integer? negative digits with
  | none => simp [unquoted, plain, read]
  | some i => simp [unquoted, plain, read]

theorem unquoted_eq_bare (no_plus : c ≠ '+') (no_minus : c ≠ '-') (no_point : c ≠ '.')
    (no_digit : Text.isDigit c = false) : unquoted isInteger (c :: t) = .ok (bare (c :: t)) := by
  have unsigned := Literal.sign_eq_self no_plus no_minus t
  have span : Text.spanOf Text.isDigit (c :: t) = ([], c :: t) := Text.spanOf_cons no_digit t
  have no_integer : plainInteger? (c :: t) = none := by
    simp [plainInteger?, unsigned, no_digit]
  have no_numeral : numeral? (c :: t) = none := by
    simp only [numeral?, unsigned, span]
    split
    next same => exact absurd (List.cons.inj same).1 no_point
    · rfl
  simp [unquoted, no_integer, no_numeral]

/-! ### Values of tokens -/

/-- The values that tokens without brackets have. -/
inductive IsFlat : Value → Prop
  | text (s : String) : IsFlat (.text s)
  | integer (i : Int64) : IsFlat (.integer i)
  | boolean (b : Bool) : IsFlat (.boolean b)
  | reference (name : String) : IsFlat (.reference name)

theorem isFlat_bare (token : List Char) : IsFlat (bare token) := by
  unfold bare
  split
  · exact .boolean true
  · split
    · exact .boolean false
    · split
      · exact .reference _
      · exact .text _

theorem isFlat_of_unquoted (read : unquoted isInteger t = .ok v) : IsFlat v := by
  unfold unquoted at read
  split at read
  · split at read
    · cases read
      exact .integer _
    · cases read
  · split at read
    · split at read
      · cases read
        exact .integer _
      · cases read
    · cases read
      exact isFlat_bare t

/-- A token that has a value is a literal or has one without brackets. -/
theorem literal_or_isFlat (read : decode isInteger raw = .ok v) :
    Literal.decode (Text.trim raw) = .ok v ∨ IsFlat v := by
  unfold decode at read
  dsimp only at read
  split at read
  · cases read
  · split at read
    · split at read
      · cases read
        exact .inr (.text _)
      · cases read
    · split at read
      · split at read
        next literal =>
          cases read
          exact .inl literal
        · cases read
      · exact .inr (isFlat_of_unquoted read)

end Token

end CallScript
