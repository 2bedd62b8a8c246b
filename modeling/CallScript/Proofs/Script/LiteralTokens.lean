import CallScript.Proofs.Script.LiteralGrammar
import CallScript.Proofs.Text.Span

/-! # The tokens of bracketed literals

For each kind of token there are two lemmas: what its reader takes from a text is such a token (`Reads`), and
such a token is taken whole wherever it cannot go on (`Stops`).  So the reader takes the longest token there
is, and of the kinds that are tried one after another only one fits, by the first character.

* `reads_quotedText`, `quotedText_append`: texts between quotes.
* `reads_number`, `number_append`: numbers, with their signs, fractions and exponents.
* `reads_scalar`, `scalar_append`: all values that hold no other value. -/

namespace CallScript.Literal

/-! ### What a reader takes -/

variable {s t rest gap chars digits name : List Char} {c quote : Char} {text : String} {v : Value}
  {negative : Bool}

/-- The part of a text before the rest is of a kind. -/
def Reads {α : Type} (Kind : List Char → α → Prop) (s : List Char) (x : α) (rest : List Char) : Prop :=
  ∃ t, s = t ++ rest ∧ Kind t x

/-- The characters that may follow a token. -/
def stops : List Char := [' ', '\t', '\r', '\n', ',', ':', ']', '\x7d']

/-- A token that reaches up to here cannot go on. -/
def Stops (rest : List Char) : Prop := ∀ c ∈ rest.head?, c ∈ stops

theorem Stops.nil : Stops [] := nofun

theorem Stops.cons (stop : c ∈ stops) (rest : List Char) : Stops (c :: rest) := by
  intro d head
  cases head
  exact stop

theorem not_mem_stops {p : Char → Bool} (no_stop : stops.all (fun c => !p c) = true) (holds : p c = true) :
    c ∉ stops := by
  intro stop
  have outside := List.all_eq_true.mp no_stop c stop
  simp [holds] at outside

theorem Stops.outside {p : Char → Bool} (no_stop : stops.all (fun c => !p c) = true) (h : Stops rest) :
    ∀ c ∈ rest.head?, p c = false :=
  fun c head => Bool.eq_false_iff.mpr fun holds => not_mem_stops no_stop holds (h c head)

/-! ### Spacing -/

theorem IsGap.nil : IsGap [] := nofun

theorem IsGap.append {gap' : List Char} (first : IsGap gap) (second : IsGap gap') : IsGap (gap ++ gap') := by
  intro c member
  rcases List.mem_append.mp member with earlier | later
  · exact first c earlier
  · exact second c later

theorem isGap_takeWhile (s : List Char) : IsGap (s.takeWhile Text.isSpacing) :=
  fun _ member => List.mem_takeWhile_imp member

theorem skipSpacing_append (spacing : IsGap gap) (stop : ∀ c ∈ rest.head?, Text.isSpacing c = false) :
    Text.skipSpacing (gap ++ rest) = rest :=
  (Prod.mk.inj (Text.spanOf_eq_iff.mpr ⟨rfl, spacing, stop⟩)).2

theorem skipSpacing_gap (spacing : IsGap gap) : Text.skipSpacing gap = [] := by
  have skipped : Text.skipSpacing (gap ++ []) = [] := skipSpacing_append spacing nofun
  rwa [List.append_nil] at skipped

theorem exists_isGap (s : List Char) : ∃ gap, IsGap gap ∧ s = gap ++ Text.skipSpacing s :=
  ⟨_, isGap_takeWhile s, List.takeWhile_append_dropWhile.symm⟩

theorem mem_stops_of_isSpacing (h : Text.isSpacing c = true) : c ∈ stops := by
  simp only [Text.isSpacing, Bool.or_eq_true, decide_eq_true_eq] at h
  rcases h with ((rfl | rfl) | rfl) | rfl <;> decide

theorem IsGap.stops (spacing : IsGap gap) (stop : Stops rest) : Stops (gap ++ rest) := by
  cases gap with
  | nil => exact stop
  | cons c more => exact .cons (mem_stops_of_isSpacing (spacing c List.mem_cons_self)) _

/-! ### Quoted texts -/

theorem isQuote_cases (h : isQuote quote = true) : quote = '"' ∨ quote = '\'' := by
  simpa [isQuote] using h

theorem isQuote_ne_escape (quotes : isQuote quote = true) : quote ≠ '\\' := by
  rintro rfl
  cases quotes

theorem quotedTail_cons (not_escape : c ≠ '\\') : quotedTail quote (c :: s) =
    if c = quote then some ([], s) else (quotedTail quote s).map fun (text, rest) => (c :: text, rest) := by
  rw [quotedTail]
  · intro same _
    exact not_escape same
  · intro _ _ same _
    exact not_escape same

theorem exists_quotedChars (read : quotedTail quote s = some (chars, rest)) :
    ∃ body, s = body ++ quote :: rest ∧ QuotedChars quote body chars := by
  fun_induction quotedTail quote s generalizing chars rest with
  | case1 => cases read
  | case2 => cases read
  | case3 c after ih =>
      obtain ⟨⟨_, _⟩, read_on, same⟩ := Option.map_eq_some_iff.mp read
      cases same
      obtain ⟨body, rfl, between⟩ := ih read_on
      exact ⟨'\\' :: c :: body, rfl, .escape c between⟩
  | case4 after =>
      cases read
      exact ⟨[], rfl, .nil⟩
  | case5 c after not_last not_escape other ih =>
      obtain ⟨⟨_, _⟩, read_on, same⟩ := Option.map_eq_some_iff.mp read
      cases same
      obtain ⟨body, rfl, between⟩ := ih read_on
      have no_escape : c ≠ '\\' := by
        rintro rfl
        cases body with
        | nil => exact not_escape quote rest rfl rfl
        | cons next body => exact not_escape next _ rfl rfl
      exact ⟨c :: body, rfl, .plain other no_escape between⟩

theorem quotedTail_append (quotes : isQuote quote = true) (between : QuotedChars quote s chars)
    (rest : List Char) : quotedTail quote (s ++ quote :: rest) = some (chars, rest) := by
  induction between with
  | nil =>
      rw [List.nil_append, quotedTail_cons (isQuote_ne_escape quotes), if_pos rfl]
  | plain not_quote not_escape _ ih =>
      rw [List.cons_append, quotedTail_cons not_escape, if_neg not_quote, ih]
      rfl
  | escape c _ ih =>
      rw [List.cons_append, List.cons_append, quotedTail, ih]
      rfl

theorem reads_quotedText (read : quotedText s = .ok (text, rest)) : Reads QuotedText s text rest := by
  unfold quotedText at read
  split at read
  · cases read
  next quote after =>
    split at read
    next quotes =>
      split at read
      next tail =>
        cases read
        obtain ⟨body, rfl, between⟩ := exists_quotedChars tail
        exact ⟨quote :: (body ++ [quote]), by simp, .mk quotes between⟩
      · cases read
    · cases read

theorem quotedText_append (quoted : QuotedText t text) (rest : List Char) :
    quotedText (t ++ rest) = .ok (text, rest) := by
  obtain ⟨quotes, between⟩ := quoted
  have tail := quotedTail_append quotes between rest
  simp [quotedText, quotes, tail]

theorem quotedText_mismatch (no_quote : isQuote c = false) (rest : List Char) :
    quotedText (c :: rest) = .error (.mismatch (c :: rest)) := by
  simp [quotedText, no_quote]

/-! ### Names and references -/

theorem reads_name (read : name? s = some (text, rest)) :
    Reads (fun t text => IsName t ∧ text = String.ofList t) s text rest := by
  unfold name? at read
  split at read
  · cases read
  next filled span =>
    cases read
    obtain ⟨whole, inside, -⟩ := Text.spanOf_eq_iff.mp span
    exact ⟨_, whole, ⟨filled, inside⟩, rfl⟩

theorem name?_append (named : IsName name) (stop : ∀ c ∈ rest.head?, isNameChar c = false) :
    name? (name ++ rest) = some (String.ofList name, rest) := by
  have span : Text.spanOf isNameChar (name ++ rest) = (name, rest) :=
    Text.spanOf_eq_iff.mpr ⟨rfl, named.2, stop⟩
  simp [name?, span, named.1]

theorem name?_eq_none (stop : isNameChar c = false) (rest : List Char) : name? (c :: rest) = none := by
  simp [name?, Text.spanOf_cons stop]

theorem reads_reference (read : reference? s = some (text, rest)) :
    Reads Scalar s (.reference text) rest := by
  unfold reference? at read
  split at read
  next after =>
    split at read
    next found =>
      cases read
      obtain ⟨name, rfl, named, rfl⟩ := reads_name found
      exact ⟨'$' :: '\x7b' :: (name ++ ['\x7d']), by simp, .reference named⟩
    · cases read
  · cases read

theorem reference?_append (named : IsName name) (rest : List Char) :
    reference? ('$' :: '\x7b' :: (name ++ ['\x7d']) ++ rest) = some (String.ofList name, rest) := by
  have stop : ∀ c ∈ ('\x7d' :: rest).head?, isNameChar c = false := by
    intro c head
    cases head
    decide
  have found := name?_append named stop
  simp [reference?, found]

theorem reference?_eq_none (no_dollar : c ≠ '$') (rest : List Char) : reference? (c :: rest) = none := by
  unfold reference?
  split
  next same => exact absurd (List.cons.inj same).1 no_dollar
  · rfl

/-! ### Numbers -/

theorem reads_sign (s : List Char) : Reads IsSign s (sign s).1 (sign s).2 := by
  unfold sign
  split
  · exact ⟨_, rfl, .plus⟩
  · exact ⟨_, rfl, .minus⟩
  · exact ⟨[], rfl, .none⟩

theorem sign_eq_self (no_plus : c ≠ '+') (no_minus : c ≠ '-') (rest : List Char) :
    sign (c :: rest) = (false, c :: rest) := by
  unfold sign
  split
  next same => exact absurd (List.cons.inj same).1 no_plus
  next same => exact absurd (List.cons.inj same).1 no_minus
  · rfl

theorem sign_cons (signed : IsSign s negative) (no_plus : c ≠ '+') (no_minus : c ≠ '-') (rest : List Char) :
    sign (s ++ c :: rest) = (negative, c :: rest) := by
  cases signed with
  | none => exact sign_eq_self no_plus no_minus rest
  | plus => rfl
  | minus => rfl

theorem isDigit_ne_sign (digit : Text.isDigit c = true) : c ≠ '+' ∧ c ≠ '-' := by
  constructor <;> (rintro rfl; cases digit)

theorem sign_append (signed : IsSign s negative) (filled : IsDigits digits) :
    sign (s ++ (digits ++ rest)) = (negative, digits ++ rest) := by
  obtain ⟨d, more, rfl⟩ := List.exists_cons_of_ne_nil filled.1
  have no_sign := isDigit_ne_sign (filled.2 d List.mem_cons_self)
  exact sign_cons signed no_sign.1 no_sign.2 _

theorem reads_digits (span : Text.spanOf Text.isDigit s = (digits, rest)) (filled : digits ≠ []) :
    s = digits ++ rest ∧ IsDigits digits := by
  obtain ⟨whole, inside, -⟩ := Text.spanOf_eq_iff.mp span
  exact ⟨whole, filled, inside⟩

theorem digits_append (filled : IsDigits digits) (stop : ∀ c ∈ rest.head?, Text.isDigit c = false) :
    Text.spanOf Text.isDigit (digits ++ rest) = (digits, rest) :=
  Text.spanOf_eq_iff.mpr ⟨rfl, filled.2, stop⟩

theorem reads_fraction (s : List Char) : Reads IsFraction s (fraction s).1 (fraction s).2 := by
  unfold fraction
  split
  next after =>
    split
    · exact ⟨[], rfl, .none⟩
    next digits after filled span =>
      obtain ⟨rfl, all_digits⟩ := reads_digits span filled
      exact ⟨'.' :: digits, rfl, .some all_digits⟩
  · exact ⟨[], rfl, .none⟩

theorem fraction_append (fractional : IsFraction t digits)
    (stop : ∀ c ∈ rest.head?, Text.isDigit c = false ∧ c ≠ '.') :
    fraction (t ++ rest) = (digits, rest) := by
  cases fractional with
  | none =>
      rw [List.nil_append]
      unfold fraction
      split
      · exact absurd rfl (stop '.' rfl).2
      · rfl
  | some filled =>
      have span := digits_append filled fun c head => (stop c head).1
      simp [fraction, span, filled.1]

theorem reads_exponent (s : List Char) : ∃ t, s = t ++ (exponent s).2 ∧
    IsExponent t ((exponent s).1.getD (false, [])).1 ((exponent s).1.getD (false, [])).2 ∧
      ((exponent s).1 = none ↔ t = []) := by
  unfold exponent
  split
  · exact ⟨[], rfl, .none, by simp⟩
  next c after =>
    split
    next mark =>
      rw [Bool.or_eq_true, decide_eq_true_eq, decide_eq_true_eq] at mark
      dsimp only
      split
      · exact ⟨[], rfl, .none, by simp⟩
      next digits rest filled span =>
        obtain ⟨whole, all_digits⟩ := reads_digits span filled
        obtain ⟨sign_text, after_eq, signed⟩ := reads_sign after
        refine ⟨c :: (sign_text ++ digits), ?_, .some mark signed all_digits, by simp⟩
        rw [after_eq, whole]
        simp
    · exact ⟨[], rfl, .none, by simp⟩

theorem exponent_append (exponential : IsExponent t negative digits)
    (stop : Stops rest) : ∃ e, exponent (t ++ rest) = (e, rest) ∧ e.getD (false, []) = (negative, digits) ∧
      (e = none ↔ t = []) := by
  cases exponential with
  | none =>
      refine ⟨none, ?_, rfl, by simp⟩
      rw [List.nil_append]
      unfold exponent
      split
      · rfl
      next c after =>
        have no_mark : (c = 'e' || c = 'E') = false :=
          stop.outside (p := fun c => c = 'e' || c = 'E') (by decide) c rfl
        rw [if_neg (Bool.eq_false_iff.mp no_mark)]
  | some marks signed filled =>
      refine ⟨some (negative, digits), ?_, rfl, by simp⟩
      have span := digits_append filled (stop.outside (by decide))
      simp [exponent, marks, sign_append signed filled, span, filled.1]

theorem integer?_eq_some_iff {i : Int64} : integer? negative digits = some i ↔ i.toInt =
    if negative then -(Text.digitsToNat digits : Int) else (Text.digitsToNat digits : Int) := by
  rw [integer?]
  exact Bounds.signed?_eq_some_iff

theorem IsFraction.digits_eq_nil_iff (fractional : IsFraction t digits) : digits = [] ↔ t = [] := by
  cases fractional with
  | none => simp
  | some filled => simp [filled.1]

theorem reads_number (read : number s = .ok (v, rest)) : Reads Numeral s v rest := by
  unfold number at read
  dsimp only at read
  split at read
  · cases read
  next whole after filled span =>
    obtain ⟨sign_text, sign_eq, signed⟩ := reads_sign s
    obtain ⟨unsigned_eq, all_digits⟩ := reads_digits span filled
    obtain ⟨fraction_text, fraction_eq, fractional⟩ := reads_fraction after
    obtain ⟨exponent_text, exponent_eq, exponential, exponent_none⟩ := reads_exponent (fraction after).2
    have plain_iff : ((fraction after).1.isEmpty && (exponent (fraction after).2).1.isNone) = true ↔
        fraction_text ++ exponent_text = [] := by
      rw [Bool.and_eq_true, List.isEmpty_iff, Option.isNone_iff_eq_none, fractional.digits_eq_nil_iff,
        exponent_none, List.append_eq_nil_iff]
    have text_eq : s = sign_text ++ (whole ++ (fraction_text ++ exponent_text)) ++
        (exponent (fraction after).2).2 := by
      calc s = sign_text ++ (whole ++ after) := by rw [← unsigned_eq, ← sign_eq]
        _ = sign_text ++ (whole ++ (fraction_text ++ (exponent_text ++
              (exponent (fraction after).2).2))) := by rw [← exponent_eq, ← fraction_eq]
        _ = _ := by simp only [List.append_assoc]
    split at read
    next plain =>
      rw [plain_iff.mp plain, List.append_nil] at text_eq
      split at read
      next i found =>
        cases read
        exact ⟨_, text_eq, .integer signed all_digits (integer?_eq_some_iff.mp found)⟩
      · cases read
    next not_plain =>
      cases read
      exact ⟨_, text_eq, .double signed all_digits fractional exponential
        fun nothing => not_plain (plain_iff.mpr nothing)⟩

/-- Neither a digit nor a point starts an exponent, and none follows a number. -/
theorem IsExponent.stop (exponential : IsExponent t negative digits) (stop : Stops rest) :
    ∀ c ∈ (t ++ rest).head?, Text.isDigit c = false ∧ c ≠ '.' := by
  intro c head
  cases exponential with
  | none =>
      have outside := stop.outside (p := fun c => Text.isDigit c || c = '.') (by decide) c head
      simpa using outside
  | some marks _ _ =>
      cases head
      rcases marks with rfl | rfl <;> decide

theorem IsFraction.stop {u : List Char} (fractional : IsFraction u digits)
    (stop : ∀ c ∈ rest.head?, Text.isDigit c = false ∧ c ≠ '.') :
    ∀ c ∈ (u ++ rest).head?, Text.isDigit c = false := by
  intro c head
  cases fractional with
  | none => exact (stop c head).1
  | some _ =>
      cases head
      decide

theorem number_append (numeral : Numeral t v) (stop : Stops rest) : number (t ++ rest) = .ok (v, rest) := by
  cases numeral with
  | integer signed filled toInt_eq =>
      have span := digits_append filled (stop.outside (by decide))
      have no_fraction := fraction_append .none (IsExponent.none.stop stop)
      obtain ⟨e, no_exponent, -, none_iff⟩ := exponent_append .none stop
      have e_none := none_iff.mpr rfl
      subst e_none
      simp only [List.nil_append] at no_fraction no_exponent
      simp [number, sign_append signed filled, span, filled.1, no_fraction, no_exponent,
        integer?_eq_some_iff.mpr toInt_eq]
  | double signed filled fractional exponential not_plain =>
      have after_fraction := exponential.stop stop
      have span := digits_append filled (fractional.stop after_fraction)
      have fraction_read := fraction_append fractional after_fraction
      obtain ⟨e, exponent_read, parts, none_iff⟩ := exponent_append exponential stop
      rw [ne_eq, List.append_eq_nil_iff, ← fractional.digits_eq_nil_iff, ← none_iff] at not_plain
      simp [number, sign_append signed filled, span, filled.1, fraction_read, exponent_read, parts,
        not_plain]

theorem number_mismatch (no_plus : c ≠ '+') (no_minus : c ≠ '-') (no_digit : Text.isDigit c = false)
    (rest : List Char) : number (c :: rest) = .error (.mismatch (c :: rest)) := by
  have unsigned := sign_eq_self no_plus no_minus rest
  simp [number, unsigned, Text.spanOf_cons no_digit]

/-! ### Keywords -/

/-- Whether a text is a word, up to case if that is to be ignored. -/
def IsWord (ignoringCase : Bool) (word t : List Char) : Prop :=
  if ignoringCase then t.map Char.toLower = word.map Char.toLower else t = word

theorem IsWord.length_eq {ignoringCase : Bool} {word : List Char} (h : IsWord ignoringCase word t) :
    t.length = word.length := by
  cases ignoringCase with
  | false => rw [show t = word from h]
  | true =>
      have same : t.map Char.toLower = word.map Char.toLower := h
      simpa using congrArg List.length same

theorem afterWord_eq_some_iff {ignoringCase : Bool} {word : List Char} :
    afterWord ignoringCase word s = some rest ↔ ∃ t, s = t ++ rest ∧ IsWord ignoringCase word t := by
  have same_iff (t : List Char) :
      (if ignoringCase then Text.eqIgnoringCase t word else decide (t = word)) = true ↔
        IsWord ignoringCase word t := by
    cases ignoringCase <;> simp [IsWord, Text.eqIgnoringCase]
  unfold afterWord
  constructor
  · intro taken
    obtain ⟨same, dropped⟩ := Option.ite_none_right_eq_some.mp taken
    cases dropped
    exact ⟨_, (List.take_append_drop word.length s).symm, (same_iff _).mp same⟩
  · rintro ⟨t, rfl, same⟩
    rw [← same.length_eq, List.take_left, List.drop_left]
    exact if_pos ((same_iff t).mpr same)

theorem reads_keyword (read : keyword s = .ok (v, rest)) : Reads Keyword s v rest := by
  unfold keyword at read
  split at read
  next found =>
    cases read
    obtain ⟨t, rfl, same⟩ := afterWord_eq_some_iff.mp found
    exact ⟨t, rfl, .trueWord same⟩
  · split at read
    next found =>
      cases read
      obtain ⟨t, rfl, same⟩ := afterWord_eq_some_iff.mp found
      exact ⟨t, rfl, .falseWord same⟩
    · split at read
      next found =>
        cases read
        rcases Option.or_eq_some_iff.mp found with null | ⟨-, none⟩
        · obtain ⟨t, rfl, same⟩ := afterWord_eq_some_iff.mp null
          exact ⟨t, rfl, same ▸ .nullWord⟩
        · obtain ⟨t, rfl, same⟩ := afterWord_eq_some_iff.mp none
          exact ⟨t, rfl, same ▸ .noneWord⟩
      · cases read

theorem keyword_append (word : Keyword t v) (rest : List Char) : keyword (t ++ rest) = .ok (v, rest) := by
  cases word with
  | trueWord same =>
      have found : afterWord true ['t', 'r', 'u', 'e'] (t ++ rest) = some rest :=
        afterWord_eq_some_iff.mpr ⟨t, rfl, same⟩
      simp [keyword, found]
  | falseWord same =>
      have found : afterWord true ['f', 'a', 'l', 's', 'e'] (t ++ rest) = some rest :=
        afterWord_eq_some_iff.mpr ⟨t, rfl, same⟩
      have not_true : afterWord true ['t', 'r', 'u', 'e'] (t ++ rest) = none := by
        obtain ⟨c, more, rfl⟩ := List.exists_cons_of_ne_nil (l := t) (by rintro rfl; cases same)
        have first : c.toLower = 'f' := (List.cons.inj same).1
        simp [afterWord, Text.eqIgnoringCase, first]
      simp [keyword, not_true, found]
  | nullWord => simp [keyword, afterWord, Text.eqIgnoringCase]
  | noneWord => simp [keyword, afterWord, Text.eqIgnoringCase]

/-! ### Values without others in them -/

theorem reads_scalar (read : scalar s = .ok (v, rest)) : Reads Scalar s v rest := by
  unfold scalar at read
  split at read
  next quoted =>
    cases read
    obtain ⟨t, rfl, kind⟩ := reads_quotedText quoted
    exact ⟨t, rfl, .text kind⟩
  · split at read
    next referred =>
      cases read
      exact reads_reference referred
    · split at read
      · obtain ⟨t, rfl, kind⟩ := reads_keyword read
        exact ⟨t, rfl, .keyword kind⟩
      · obtain ⟨t, rfl, kind⟩ := reads_number read
        exact ⟨t, rfl, .number kind⟩
  · cases read

theorem scalar_eq_number (no_quote : isQuote c = false) (no_dollar : c ≠ '$')
    (read : number (c :: s) = .ok (v, rest)) : scalar (c :: s) = .ok (v, rest) := by
  simp only [scalar, quotedText_mismatch no_quote, reference?_eq_none no_dollar, read]

theorem scalar_eq_keyword
    (no_start : (isQuote c || Text.isDigit c || c = '$' || c = '+' || c = '-') = false) (s : List Char) :
    scalar (c :: s) = keyword (c :: s) := by
  simp only [Bool.or_eq_false_iff, decide_eq_false_iff_not] at no_start
  obtain ⟨⟨⟨⟨no_quote, no_digit⟩, no_dollar⟩, no_plus⟩, no_minus⟩ := no_start
  simp only [scalar, quotedText_mismatch no_quote, reference?_eq_none no_dollar,
    number_mismatch no_plus no_minus no_digit]

theorem number_start (head : c = '+' ∨ c = '-' ∨ Text.isDigit c = true) :
    isQuote c = false ∧ c ≠ '$' ∧ c ∉ stops ∧ c ≠ '[' ∧ c ≠ '\x7b' := by
  rcases head with rfl | rfl | digit
  · decide
  · decide
  · have ne_of {d : Char} (no_digit : Text.isDigit d = false) : c ≠ d := by
      rintro rfl
      rw [digit] at no_digit
      cases no_digit
    refine ⟨Bool.eq_false_iff.mpr fun quote => ?_, ne_of (by decide), not_mem_stops (by decide) digit,
      ne_of (by decide), ne_of (by decide)⟩
    rcases isQuote_cases quote with rfl | rfl <;> cases digit

theorem isAlpha_of_toLower (h : c.toLower ∈ ['t', 'f']) : c.isAlpha = true := by
  by_cases upper : 'A'.val ≤ c.val ∧ c.val ≤ 'Z'.val
  · have is_upper : c.isUpper = true := decide_eq_true upper
    exact Bool.or_eq_true_iff.mpr (.inl is_upper)
  · have lower_eq : c.toLower = c := dif_neg upper
    rw [lower_eq, List.mem_pair] at h
    rcases h with rfl | rfl <;> decide

theorem not_isDigit_of_isAlpha (h : c.isAlpha = true) : Text.isDigit c = false := by
  have letter : (decide ('A'.val ≤ c.val ∧ c.val ≤ 'Z'.val) ||
      decide ('a'.val ≤ c.val) && decide (c.val ≤ 'z'.val)) = true := h
  simp only [Bool.or_eq_true, Bool.and_eq_true, decide_eq_true_eq, UInt32.le_iff_toNat_le] at letter
  simp only [Text.isDigit, Char.le_def, UInt32.le_iff_toNat_le, ← Bool.decide_and, decide_eq_false_iff_not]
  have bounds : 'A'.val.toNat = 65 ∧ 'a'.val.toNat = 97 ∧ '9'.val.toNat = 57 := by decide
  omega

theorem keyword_start (letter : c.isAlpha = true) :
    (isQuote c || Text.isDigit c || c = '$' || c = '+' || c = '-') = false ∧
      c ∉ stops ∧ c ≠ '[' ∧ c ≠ '\x7b' := by
  have ne_of {d : Char} (no_letter : d.isAlpha = false) : c ≠ d := by
    rintro rfl
    rw [letter] at no_letter
    cases no_letter
  have no_quote : isQuote c = false := by
    apply Bool.eq_false_iff.mpr
    intro quote
    rcases isQuote_cases quote with rfl | rfl <;> cases letter
  have others : c ≠ '$' ∧ c ≠ '+' ∧ c ≠ '-' := ⟨ne_of (by decide), ne_of (by decide), ne_of (by decide)⟩
  refine ⟨?_, not_mem_stops (by decide) letter, ne_of (by decide), ne_of (by decide)⟩
  simp [no_quote, not_isDigit_of_isAlpha letter, others]

theorem Keyword.head (word : Keyword t v) : ∃ c more, t = c :: more ∧ c.isAlpha = true := by
  have lower_head {w : Char} {word : List Char} (same : t.map Char.toLower = w :: word)
      (letter : w ∈ ['t', 'f']) : ∃ c more, t = c :: more ∧ c.isAlpha = true := by
    obtain ⟨c, more, rfl⟩ := List.exists_cons_of_ne_nil (l := t) (by rintro rfl; cases same)
    exact ⟨c, more, rfl, isAlpha_of_toLower ((List.cons.inj same).1 ▸ letter)⟩
  cases word with
  | trueWord same => exact lower_head same (by decide)
  | falseWord same => exact lower_head same (by decide)
  | nullWord => exact ⟨'n', _, rfl, by decide⟩
  | noneWord => exact ⟨'N', _, rfl, by decide⟩

theorem signed_digits_head {sign : List Char} (signed : IsSign sign negative) (filled : IsDigits digits)
    (u : List Char) :
    ∃ c more, sign ++ (digits ++ u) = c :: more ∧ (c = '+' ∨ c = '-' ∨ Text.isDigit c = true) := by
  obtain ⟨d, more, rfl⟩ := List.exists_cons_of_ne_nil filled.1
  cases signed with
  | none => exact ⟨d, more ++ u, rfl, .inr (.inr (filled.2 d List.mem_cons_self))⟩
  | plus => exact ⟨'+', _, rfl, .inl rfl⟩
  | minus => exact ⟨'-', _, rfl, .inr (.inl rfl)⟩

theorem Numeral.head (numeral : Numeral t v) :
    ∃ c more, t = c :: more ∧ (c = '+' ∨ c = '-' ∨ Text.isDigit c = true) := by
  cases numeral with
  | integer signed filled _ =>
      have head := signed_digits_head signed filled []
      rwa [List.append_nil] at head
  | double signed filled _ _ _ => exact signed_digits_head signed filled _

theorem scalar_append (scalar_text : Scalar t v) (stop : Stops rest) :
    scalar (t ++ rest) = .ok (v, rest) := by
  cases scalar_text with
  | text quoted => simp only [scalar, quotedText_append quoted]
  | @reference name named =>
      have no_quoted : quotedText ('$' :: '\x7b' :: (name ++ ['\x7d']) ++ rest) = _ :=
        quotedText_mismatch (by decide) _
      simp only [scalar, no_quoted, reference?_append named]
  | number numeral =>
      have whole := number_append numeral stop
      obtain ⟨c, more, rfl, head⟩ := numeral.head
      obtain ⟨no_quote, no_dollar, -⟩ := number_start head
      exact scalar_eq_number no_quote no_dollar whole
  | keyword word =>
      have whole := keyword_append word rest
      obtain ⟨c, more, rfl, letter⟩ := word.head
      rw [← whole]
      exact scalar_eq_keyword (keyword_start letter).1 _

theorem Scalar.head (scalar_text : Scalar t v) :
    ∃ c more, t = c :: more ∧ c ∉ stops ∧ c ≠ '[' ∧ c ≠ '\x7b' := by
  cases scalar_text with
  | text quoted =>
      obtain ⟨quotes, -⟩ := quoted
      rcases isQuote_cases quotes with rfl | rfl
      · exact ⟨'"', _, rfl, by decide⟩
      · exact ⟨'\'', _, rfl, by decide⟩
  | reference _ => exact ⟨'$', _, rfl, by decide⟩
  | number numeral =>
      obtain ⟨c, more, rfl, head⟩ := numeral.head
      exact ⟨c, more, rfl, (number_start head).2.2⟩
  | keyword word =>
      obtain ⟨c, more, rfl, letter⟩ := word.head
      exact ⟨c, more, rfl, (keyword_start letter).2⟩

end CallScript.Literal
