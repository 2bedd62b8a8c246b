import CallScript.Json.Printer
import CallScript.Json.Reader
import CallScript.Proofs.Text.Digits
import CallScript.Proofs.Text.Span

/-! # Texts and integers of JSON documents

A text or an integer that is written is read back, whatever follows a text, and in front of what ends a value
(`Ends`) for an integer.

* `readText_writeText`: a text takes as much fuel as it is long.
* `readNumber_writeInt`, `readNumber_toDigits`: an integer in decimal. -/

namespace CallScript.Json

variable {c : Char} {s rest : List Char} {fuel : Nat}

/-! ### Texts -/

theorem hexValue_digitChar : ∀ d < 16, hexValue (Nat.digitChar d) = some d := by decide

theorem readEscape_numbered (small : c.toNat < 32) (rest : List Char) :
    readEscape ('u' :: '0' :: '0' :: Nat.digitChar (c.toNat / 16) :: Nat.digitChar (c.toNat % 16) :: rest) =
      some (c, rest) := by
  have high := hexValue_digitChar (c.toNat / 16) (by omega)
  have low := hexValue_digitChar (c.toNat % 16) (Nat.mod_lt _ (by decide))
  have zero : hexValue '0' = some 0 := rfl
  have unit_eq : ((0 * 16 + 0) * 16 + c.toNat / 16) * 16 + c.toNat % 16 = c.toNat := by omega
  have unit : readUnit ('0' :: '0' :: Nat.digitChar (c.toNat / 16) :: Nat.digitChar (c.toNat % 16) :: rest) =
      some (c.toNat, rest) := by
    simp only [readUnit, zero, high, low, Option.bind_eq_bind, Option.bind_some, unit_eq]
  have no_surrogate : ¬ 0xD800 ≤ c.toNat ∧ ¬ 0xDC00 ≤ c.toNat := by omega
  simp [readEscape, readNumbered, unit, no_surrogate.1, no_surrogate.2, Char.ofNat_toNat]

theorem readChars_backslash {d : Char} (escape : readEscape s = some (d, rest)) (acc : List Char) :
    readChars (fuel + 1) acc ('\\' :: s) = readChars fuel (d :: acc) rest := by
  simp [readChars, escape]

theorem readChars_raw (not_quote : c ≠ '"') (not_backslash : c ≠ '\\') (printed : ¬ c.toNat < 32)
    (acc rest : List Char) : readChars (fuel + 1) acc (c :: rest) = readChars fuel (c :: acc) rest := by
  rw [readChars]
  · rw [if_neg printed]
  · exact not_quote
  · exact not_backslash

theorem readChars_escaped (c : Char) (acc rest : List Char) :
    readChars (fuel + 1) acc (escaped c ++ rest) = readChars fuel (c :: acc) rest := by
  unfold escaped
  split
  next quote =>
    subst quote
    exact readChars_backslash rfl acc
  split
  next backslash =>
    subst backslash
    exact readChars_backslash rfl acc
  split
  next back =>
    subst back
    exact readChars_backslash rfl acc
  split
  next form =>
    subst form
    exact readChars_backslash rfl acc
  split
  next line =>
    subst line
    exact readChars_backslash rfl acc
  split
  next carriage =>
    subst carriage
    exact readChars_backslash rfl acc
  split
  next tab =>
    subst tab
    exact readChars_backslash rfl acc
  split
  next small => exact readChars_backslash (readEscape_numbered small rest) acc
  next not_quote not_backslash _ _ _ _ _ printed =>
    exact readChars_raw not_quote not_backslash printed acc rest

theorem length_escaped_pos (c : Char) : 0 < (escaped c).length := by
  unfold escaped
  repeat' split
  all_goals exact Nat.zero_lt_succ _

/-- The characters of a text take as much fuel as they are long. -/
theorem readChars_flatMap (chars acc rest : List Char) (enough : (chars.flatMap escaped).length < fuel) :
    readChars fuel acc (chars.flatMap escaped ++ '"' :: rest) = some (chars.reverse ++ acc, rest) := by
  induction chars generalizing fuel acc with
  | nil =>
      obtain ⟨fuel, rfl⟩ := Nat.exists_eq_add_of_lt enough
      simp [readChars]
  | cons c chars ih =>
      have filled := length_escaped_pos c
      rw [List.flatMap_cons, List.length_append] at enough
      obtain ⟨fuel, rfl⟩ : ∃ n, fuel = n + 1 := ⟨fuel - 1, by omega⟩
      rw [List.flatMap_cons, List.append_assoc, readChars_escaped, ih (c :: acc) (by omega)]
      simp

theorem readText_writeText (text : String) (rest : List Char) (enough : (writeText text).length ≤ fuel) :
    ∃ more, writeText text ++ rest = '"' :: more ∧ readText fuel more = some (text, rest) := by
  refine ⟨text.toList.flatMap escaped ++ '"' :: rest, by simp [writeText], ?_⟩
  have long_enough : (text.toList.flatMap escaped).length < fuel := by
    simp only [writeText, List.cons_append, List.length_cons, List.length_append] at enough
    omega
  simp [readText, readChars_flatMap _ _ _ long_enough]

/-! ### Numbers -/

/-- What ends a value: a comma, a closing bracket or the end of the text. -/
def Ends (rest : List Char) : Prop := ∀ c ∈ rest.head?, c = ',' ∨ c = ']' ∨ c = '}'

theorem Ends.nil : Ends [] := nofun

theorem Ends.cons (ending : c = ',' ∨ c = ']' ∨ c = '}') (rest : List Char) : Ends (c :: rest) := by
  intro d head
  cases head
  exact ending

theorem Ends.not_isDigit (ends : Ends rest) : ∀ c ∈ rest.head?, Text.isDigit c = false := by
  intro c head
  rcases ends c head with rfl | rfl | rfl <;> rfl

theorem readWhole_toDigits (n : Nat) (ends : Ends rest) :
    readWhole (Nat.toDigits 10 n ++ rest) = some (Nat.toDigits 10 n, rest) := by
  have cut : Text.spanOf Text.isDigit (Nat.toDigits 10 n ++ rest) = (Nat.toDigits 10 n, rest) :=
    Text.spanOf_eq_iff.mpr ⟨rfl, fun _ => Text.isDigit_of_mem_toDigits, ends.not_isDigit⟩
  rw [readWhole, cut]
  split
  next none_found => exact absurd (Prod.mk.inj none_found).1 Nat.toDigits_ne_nil
  next zero =>
    obtain ⟨digits_eq, rfl⟩ := Prod.mk.inj zero
    rw [digits_eq]
  next more _ not_alone leading =>
    obtain ⟨digits_eq, rfl⟩ := Prod.mk.inj leading
    exact (not_alone (Text.toDigits_zero_cons digits_eq)).elim
  next whole =>
    obtain ⟨rfl, rfl⟩ := Prod.mk.inj whole
    rfl

theorem readFraction_eq_nil (ends : Ends rest) : readFraction rest = some ([], rest) := by
  unfold readFraction
  split
  next after =>
    rcases ends '.' rfl with h | h | h <;> cases h
  · rfl

theorem readExponent_eq_none (ends : Ends rest) : readExponent rest = some (none, rest) := by
  unfold readExponent
  split
  next c after =>
    have no_mark : ¬ (c = 'e' || c = 'E') = true := by
      rcases ends c rfl with rfl | rfl | rfl <;> decide
    rw [if_neg no_mark]
  · rfl

theorem readNumber_eq {negative : Bool} {t digits : List Char} {j : Json}
    (signed : s = '-' :: t ∧ negative = true ∨ (∀ u, s ≠ '-' :: u) ∧ s = t ∧ negative = false)
    (whole : readWhole t = some (digits, rest)) (ends : Ends rest)
    (value : numberValue ⟨negative, digits, [], false, []⟩ false = some j) :
    readNumber s = some (j, rest) := by
  unfold readNumber
  split
  next found u sign =>
    obtain ⟨rfl, rfl⟩ : found = negative ∧ u = t := by
      rcases signed with ⟨rfl, rfl⟩ | ⟨no_minus, rfl, rfl⟩
      · cases sign
        exact ⟨rfl, rfl⟩
      · split at sign
        next same => exact absurd rfl (no_minus _)
        · cases sign
          exact ⟨rfl, rfl⟩
    simp only [whole, readFraction_eq_nil ends, readExponent_eq_none ends, Option.bind_eq_bind,
      Option.bind_some, Option.getD_none]
    exact congrArg (Option.bind · fun j => some (j, rest)) value

theorem toDigits_ne_minus (n : Nat) (u : List Char) : Nat.toDigits 10 n ++ rest ≠ '-' :: u := by
  obtain ⟨d, more, digits_eq, digit⟩ := Text.exists_toDigits_cons n
  rw [digits_eq]
  intro same
  obtain ⟨rfl, -⟩ := List.cons.inj same
  cases digit

/-- A natural number that has a value is read as that value. -/
theorem readNumber_toDigits {n : Nat} {j : Json} (value : ofInt? n = some j) (ends : Ends rest) :
    readNumber (Nat.toDigits 10 n ++ rest) = some (j, rest) := by
  refine readNumber_eq (.inr ⟨toDigits_ne_minus n, rfl, rfl⟩) (readWhole_toDigits n ends) ends ?_
  simp only [numberValue, Bool.false_eq_true, if_false, Text.digitsToNat_toDigits, value, Option.some_or]

theorem ofInt?_toInt (i : Int64) : ofInt? i.toInt = some (.int i) := by
  have kept : Bounds.signed? i.toInt = some i := Bounds.signed?_eq_some_iff.mpr rfl
  unfold ofInt?
  rw [kept]

/-- An integer that is written is read. -/
theorem readNumber_writeInt (i : Int64) (ends : Ends rest) :
    readNumber (writeInt i.toInt ++ rest) = some (.int i, rest) := by
  have kept := ofInt?_toInt i
  unfold writeInt
  split
  next below =>
    refine readNumber_eq (.inl ⟨rfl, rfl⟩) (readWhole_toDigits i.toInt.natAbs ends) ends ?_
    have nonzero : i.toInt.natAbs ≠ 0 := by omega
    have back : -(i.toInt.natAbs : Int) = i.toInt := by omega
    unfold numberValue
    dsimp only
    rw [Text.digitsToNat_toDigits, if_neg Bool.false_ne_true, if_pos rfl, if_neg nonzero, back, kept]
    rfl
  next above =>
    have back : (i.toInt.natAbs : Int) = i.toInt := by omega
    have value : ofInt? (i.toInt.natAbs : Int) = some (.int i) := by rw [back, kept]
    exact readNumber_toDigits value ends

theorem ofInt?_beyond {i : Int} (none_signed : Bounds.signed? i = none)
    (fits : (Bounds.signed : Int) ≤ i ∧ i < (Bounds.unsigned : Int)) :
    ∃ beyond, ofInt? i = some (.number (.large (UInt64.ofNat i.toNat) beyond)) := by
  unfold ofInt?
  rw [none_signed]
  dsimp only
  rw [dif_pos fits]
  exact ⟨_, rfl⟩

theorem Number.large_eq {m n : UInt64} {beyond : Bounds.signed ≤ m.toNat} {beyond' : Bounds.signed ≤ n.toNat}
    (same : m = n) : Number.large m beyond = Number.large n beyond' := by
  subst same
  rfl

theorem ofInt?_toNat (n : UInt64) (beyond : Bounds.signed ≤ n.toNat) :
    ofInt? n.toNat = some (.number (.large n beyond)) := by
  have none_signed : Bounds.signed? (n.toNat : Int) = none := by
    apply Option.not_isSome_iff_eq_none.mp
    intro found
    have below := (Bounds.isSome_signed?.mp found).2
    exact absurd (Int.ofNat_lt.mp below) (Nat.not_lt.mpr beyond)
  obtain ⟨beyond', large⟩ := ofInt?_beyond none_signed
    ⟨Int.ofNat_le.mpr beyond, Int.ofNat_lt.mpr n.toNat_lt⟩
  have kept : UInt64.ofNat (n.toNat : Int).toNat = n := by
    rw [Int.toNat_natCast, UInt64.ofNat_toNat]
  rw [large]
  exact congrArg (some ∘ Json.number) (Number.large_eq kept)

theorem mem_writeInt {i : Int64} (member : c ∈ writeInt i.toInt) : c = '-' ∨ Text.isDigit c = true := by
  unfold writeInt at member
  split at member
  · rcases List.mem_cons.mp member with rfl | digit
    · exact .inl rfl
    · exact .inr (Text.isDigit_of_mem_toDigits digit)
  · exact .inr (Text.isDigit_of_mem_toDigits member)

theorem writeInt_head (i : Int64) :
    ∃ c more, writeInt i.toInt = c :: more ∧ (c = '-' ∨ Text.isDigit c = true) := by
  unfold writeInt
  split
  · exact ⟨'-', _, rfl, .inl rfl⟩
  · obtain ⟨c, more, digits_eq, digit⟩ := Text.exists_toDigits_cons i.toInt.natAbs
    exact ⟨c, more, digits_eq, .inr digit⟩

end CallScript.Json
