import CallScript.Proofs.Script.LiteralTokens

/-! # The language of the reader of bracketed literals

The reader accepts the texts of its grammar with the values that they denote, and one thing more: between two
brackets a comma may stand where there is no element (`decode_eq_ok_iff`).

* `readsWithin`: what a reader takes from a text is of its kind.  The induction is on the fuel, and a comma
  without an element before it is let in by the closing bracket, which does not know what was read.
* `readsBackWithin`: what is of a kind is taken whole, if there is fuel for its length and it cannot go on. -/

namespace CallScript.Literal

variable {s t rest gap gap' tail : List Char} {c close : Char} {text : String} {v : Value}
  {vs before : List Value} {es : List (String × Value)} {e : String × Value} {loneComma : Bool} {p : Prop}

/-! ### Keys -/

theorem reads_key (read : key s = .ok (text, rest)) : Reads Key s text rest := by
  unfold key at read
  split at read
  · split at read
    next found =>
      cases read
      obtain ⟨name, rfl, named, rfl⟩ := reads_name found
      exact ⟨name, rfl, .name named⟩
    · cases read
  · obtain ⟨t, rfl, quoted⟩ := reads_quotedText read
    exact ⟨t, rfl, .text quoted⟩

theorem IsName.head (named : IsName t) : ∃ c more, t = c :: more ∧ isNameChar c = true := by
  obtain ⟨c, more, rfl⟩ := List.exists_cons_of_ne_nil named.1
  exact ⟨c, more, rfl, named.2 c List.mem_cons_self⟩

theorem key_append (keyed : Key t text) (stop : Stops rest) : key (t ++ rest) = .ok (text, rest) := by
  cases keyed with
  | text quoted => simp only [key, quotedText_append quoted]
  | name named =>
      have found := name?_append named (stop.outside (by decide))
      obtain ⟨c, more, rfl, first⟩ := named.head
      have no_quote : isQuote c = false := by
        apply Bool.eq_false_iff.mpr
        intro quote
        rcases isQuote_cases quote with rfl | rfl <;> cases first
      have mismatch := quotedText_mismatch no_quote (more ++ rest)
      rw [List.cons_append] at found ⊢
      simp only [key, mismatch, found]

theorem Key.head (keyed : Key t text) : ∃ c more, t = c :: more ∧ c ∉ stops := by
  cases keyed with
  | text quoted =>
      obtain ⟨quotes, -⟩ := quoted
      rcases isQuote_cases quotes with rfl | rfl
      · exact ⟨'"', _, rfl, by decide⟩
      · exact ⟨'\'', _, rfl, by decide⟩
  | name named =>
      obtain ⟨c, more, rfl, first⟩ := named.head
      exact ⟨c, more, rfl, not_mem_stops (by decide) first⟩

/-! ### Commas and closing brackets -/

theorem eq_gap_append (found : Text.skipSpacing s = t) : ∃ gap, IsGap gap ∧ s = gap ++ t := by
  obtain ⟨gap, spacing, whole⟩ := exists_isGap s
  exact ⟨gap, spacing, found ▸ whole⟩

theorem not_isSpacing_of_not_mem_stops (h : c ∉ stops) : Text.isSpacing c = false :=
  Bool.eq_false_iff.mpr fun spacing => h (mem_stops_of_isSpacing spacing)

theorem no_spacing_cons (no_space : Text.isSpacing c = false) (rest : List Char) :
    ∀ d ∈ (c :: rest).head?, Text.isSpacing d = false := by
  intro d head
  cases head
  exact no_space

theorem skipSpacing_gap_cons (spacing : IsGap gap) (no_space : Text.isSpacing c = false) (rest : List Char) :
    Text.skipSpacing (gap ++ c :: rest) = c :: rest :=
  skipSpacing_append spacing (no_spacing_cons no_space rest)

theorem exists_comma (next : afterComma s = some t) :
    ∃ gap gap', IsGap gap ∧ IsGap gap' ∧ s = gap ++ ',' :: (gap' ++ t) := by
  unfold afterComma at next
  split at next
  next after found =>
    cases next
    obtain ⟨gap, spacing, rfl⟩ := eq_gap_append found
    obtain ⟨gap', spacing', whole⟩ := exists_isGap after
    exact ⟨gap, gap', spacing, spacing', by rw [← whole]⟩
  · cases next

theorem afterComma_append (before : IsGap gap) (after : IsGap gap')
    (stop : ∀ c ∈ rest.head?, Text.isSpacing c = false) :
    afterComma (gap ++ ',' :: (gap' ++ rest)) = some rest := by
  have comma := skipSpacing_gap_cons before (c := ',') (by decide) (gap' ++ rest)
  simp only [afterComma, comma, skipSpacing_append after stop]

theorem afterComma_eq_none (spacing : IsGap gap) (no_space : Text.isSpacing c = false) (no_comma : c ≠ ',')
    (rest : List Char) : afterComma (gap ++ c :: rest) = none := by
  unfold afterComma
  rw [skipSpacing_gap_cons spacing no_space]
  split
  next same => exact absurd (List.cons.inj same).1 no_comma
  · rfl

theorem exists_tail (closed : afterClose close s = some rest) (allowed : p) :
    ∃ tail, s = tail ++ close :: rest ∧ Tail p tail := by
  unfold afterClose at closed
  dsimp only at closed
  split at closed
  next c after found =>
    split at closed
    next same =>
      cases closed
      subst same
      obtain ⟨gap', spacing', after_eq⟩ := eq_gap_append found
      cases comma : afterComma s with
      | none =>
          rw [comma, Option.getD_none] at after_eq
          exact ⟨gap', after_eq, .gap spacing'⟩
      | some t =>
          rw [comma, Option.getD_some] at after_eq
          obtain ⟨gap, between, spacing, spacing'', rfl⟩ := exists_comma comma
          refine ⟨gap ++ ',' :: (between ++ gap'), ?_, .comma allowed spacing (spacing''.append spacing')⟩
          rw [after_eq]
          simp
    · cases closed
  · cases closed

/-- A bracket that closes. -/
def Closes (close : Char) : Prop := close = ']' ∨ close = '\x7d'

theorem Closes.ends (closes : Closes close) : close ∈ stops ∧ Text.isSpacing close = false ∧ close ≠ ',' := by
  rcases closes with rfl | rfl <;> decide

theorem afterClose_append (closing : Tail p tail) (closes : Closes close) (rest : List Char) :
    afterClose close (tail ++ close :: rest) = some rest := by
  obtain ⟨-, no_space, no_comma⟩ := closes.ends
  have ended (gap : List Char) (spacing : IsGap gap) :
      Text.skipSpacing (gap ++ close :: rest) = close :: rest :=
    skipSpacing_gap_cons spacing no_space rest
  cases closing with
  | gap spacing =>
      simp [afterClose, afterComma_eq_none spacing no_space no_comma, ended _ spacing]
  | @comma gap gap' _ before after =>
      have comma := afterComma_append before after (no_spacing_cons no_space rest)
      have at_end := ended [] .nil
      rw [List.nil_append] at at_end
      simp [afterClose, comma, at_end]

theorem Tail.stops (closing : Tail p tail) (stop : Stops rest) : Stops (tail ++ rest) := by
  cases closing with
  | gap spacing => exact spacing.stops stop
  | comma _ before after =>
      rw [List.append_assoc]
      exact before.stops (.cons (by decide) _)

theorem Continued.stops {α : Type} {Element : List Char → α → Prop} {xs : List α}
    (more : Continued Element t xs) (stop : Stops rest) : Stops (t ++ rest) := by
  cases more with
  | nil => exact stop
  | cons before _ _ _ =>
      rw [List.append_assoc]
      exact before.stops (.cons (by decide) _)

/-! ### What is taken -/

/-- What each of the readers with this much fuel takes is of its kind. -/
structure ReadsWithin (fuel : Nat) : Prop where
  value : ∀ {s v rest}, Literal.value fuel s = .ok (v, rest) → Reads (Denotes true) s v rest
  items : ∀ {s vs rest}, Literal.items fuel s = .ok (vs, rest) → Reads (Series (Denotes true)) s vs rest
  moreItems : ∀ {s before vs rest}, Literal.moreItems fuel before s = .ok (vs, rest) →
    ∃ more, vs = before.reverse ++ more ∧ Reads (Continued (Denotes true)) s more rest
  entries : ∀ {s es rest}, Literal.entries fuel s = .ok (es, rest) →
    Reads (Series (Entry (Denotes true))) s es rest
  moreEntries : ∀ {s before es rest}, Literal.moreEntries fuel before s = .ok (es, rest) →
    ∃ more, es = before.reverse ++ more ∧ Reads (Continued (Entry (Denotes true))) s more rest
  entry : ∀ {s e rest}, Literal.entry fuel s = .ok (e, rest) → Reads (Entry (Denotes true)) s e rest

variable {fuel : Nat} {α : Type} {Element : List Char → α → Prop} {x : α} {xs before more : List α}

theorem Reads.nil_series : Reads (Series Element) s [] s := ⟨[], rfl, .nil⟩

theorem Reads.nil_continued : Reads (Continued Element) s [] s := ⟨[], rfl, .nil⟩

theorem Reads.series (first : Reads Element s x t) (following : Reads (Continued Element) t xs rest) :
    Reads (Series Element) s (x :: xs) rest := by
  obtain ⟨a, rfl, element⟩ := first
  obtain ⟨b, rfl, more⟩ := following
  exact ⟨a ++ b, by simp, .cons element more⟩

theorem Reads.continued {u : List Char} (comma : afterComma s = some t) (next : Reads Element t x u)
    (following : Reads (Continued Element) u xs rest) : Reads (Continued Element) s (x :: xs) rest := by
  obtain ⟨gap, gap', spacing, spacing', rfl⟩ := exists_comma comma
  obtain ⟨a, rfl, element⟩ := next
  obtain ⟨b, rfl, more⟩ := following
  exact ⟨gap ++ ',' :: (gap' ++ (a ++ b)), by simp, .cons spacing spacing' element more⟩

/-- A closing bracket takes a comma before it whether or not there is an element. -/
theorem Reads.sequence (elements : Reads (Series Element) (Text.skipSpacing s) xs t)
    (closed : afterClose close t = some rest) :
    Reads (Sequence true Element) s xs (close :: rest) := by
  obtain ⟨gap, spacing, whole⟩ := exists_isGap s
  obtain ⟨a, skipped, series⟩ := elements
  obtain ⟨tail, rfl, closing⟩ := exists_tail (p := xs ≠ [] ∨ true = true) closed (.inr rfl)
  refine ⟨gap ++ (a ++ tail), ?_, .mk spacing series closing⟩
  rw [whole, skipped]
  simp

theorem readsWithin_zero : ReadsWithin 0 where
  value h := by cases h
  items h := by
    cases h
    exact .nil_series
  moreItems h := by
    cases h
    exact ⟨[], (List.append_nil _).symm, .nil_continued⟩
  entries h := by
    cases h
    exact .nil_series
  moreEntries h := by
    cases h
    exact ⟨[], (List.append_nil _).symm, .nil_continued⟩
  entry h := by cases h

theorem ReadsWithin.value_succ (ih : ReadsWithin fuel) (read : Literal.value (fuel + 1) s = .ok (v, rest)) :
    Reads (Denotes true) s v rest := by
  rw [Literal.value.eq_def] at read
  dsimp only at read
  split at read
  next after =>
    split at read
    · cases read
    next items_read =>
      split at read
      next closed =>
        cases read
        obtain ⟨t, rfl, between⟩ := (ih.items items_read).sequence closed
        exact ⟨'[' :: (t ++ [']']), by simp, .list between⟩
      · cases read
  next after =>
    split at read
    · cases read
    next entries_read =>
      split at read
      next closed =>
        cases read
        obtain ⟨t, rfl, between⟩ := (ih.entries entries_read).sequence closed
        exact ⟨'\x7b' :: (t ++ ['\x7d']), by simp, .mapping between (collected_iff.mpr rfl)⟩
      · cases read
  · obtain ⟨t, rfl, kind⟩ := reads_scalar read
    exact ⟨t, rfl, .scalar kind⟩

theorem ReadsWithin.entry_succ (ih : ReadsWithin fuel) (read : Literal.entry (fuel + 1) s = .ok (e, rest)) :
    Reads (Entry (Denotes true)) s e rest := by
  rw [Literal.entry] at read
  split at read
  · cases read
  next key_read =>
    split at read
    next after_colon colon =>
      split at read
      · cases read
      next value_read =>
        cases read
        obtain ⟨k, rfl, keyed⟩ := reads_key key_read
        obtain ⟨gap, spacing, rfl⟩ := eq_gap_append colon
        obtain ⟨gap', spacing', whole⟩ := exists_isGap after_colon
        obtain ⟨t, skipped, denotes⟩ := ih.value value_read
        refine ⟨k ++ (gap ++ ':' :: (gap' ++ t)), ?_, .mk keyed spacing spacing' denotes⟩
        rw [whole, skipped]
        simp
    · cases read

theorem readsWithin : ∀ fuel, ReadsWithin fuel
  | 0 => readsWithin_zero
  -- Each reader calls the others with one less, so all of them go through the induction together.
  | fuel + 1 =>
      let ih := readsWithin fuel
      { value := ih.value_succ
        entry := ih.entry_succ
        items := by
          intro s vs rest read
          rw [Literal.items] at read
          split at read
          · cases read
            exact .nil_series
          · cases read
          next first_read =>
            obtain ⟨more, rfl, following⟩ := ih.moreItems read
            exact (ih.value first_read).series following
        moreItems := by
          intro s before vs rest read
          rw [Literal.moreItems] at read
          split at read
          · cases read
            exact ⟨[], (List.append_nil _).symm, .nil_continued⟩
          next comma =>
            split at read
            · cases read
              exact ⟨[], (List.append_nil _).symm, .nil_continued⟩
            · cases read
            next item_read =>
              obtain ⟨more, rfl, following⟩ := ih.moreItems read
              exact ⟨_, by simp, .continued comma (ih.value item_read) following⟩
        entries := by
          intro s es rest read
          rw [Literal.entries] at read
          split at read
          · cases read
            exact .nil_series
          · cases read
          next first_read =>
            obtain ⟨more, rfl, following⟩ := ih.moreEntries read
            exact (ih.entry first_read).series following
        moreEntries := by
          intro s before es rest read
          rw [Literal.moreEntries] at read
          split at read
          · cases read
            exact ⟨[], (List.append_nil _).symm, .nil_continued⟩
          next comma =>
            split at read
            · cases read
              exact ⟨[], (List.append_nil _).symm, .nil_continued⟩
            · cases read
            next entry_read =>
              obtain ⟨more, rfl, following⟩ := ih.moreEntries read
              exact ⟨_, by simp, .continued comma (ih.entry entry_read) following⟩ }

/-! ### What is read back -/

theorem value_eq_scalar (no_list : c ≠ '[') (no_mapping : c ≠ '\x7b') (s : List Char) :
    value (fuel + 1) (c :: s) = scalar (c :: s) := by
  rw [value.eq_def]
  dsimp only
  split
  next same => exact absurd (List.cons.inj same).1 no_list
  next same => exact absurd (List.cons.inj same).1 no_mapping
  · rfl

theorem value_mismatch (fuel : Nat) (other : c ∈ [',', ']', '\x7d']) (rest : List Char) :
    value fuel (c :: rest) = .error (.mismatch (c :: rest)) := by
  cases fuel with
  | zero => rfl
  | succ fuel =>
      simp only [List.mem_cons, List.not_mem_nil, or_false] at other
      rcases other with rfl | rfl | rfl
      all_goals
        rw [value_eq_scalar (by decide) (by decide), scalar_eq_keyword (by decide)]
        simp [keyword, afterWord, Text.eqIgnoringCase]

theorem entry_mismatch (fuel : Nat) (other : c ∈ [',', ']', '\x7d']) (rest : List Char) :
    entry fuel (c :: rest) = .error (.mismatch (c :: rest)) := by
  cases fuel with
  | zero => rfl
  | succ fuel =>
      have no_key : isQuote c = false ∧ isNameChar c = false := by
        simp only [List.mem_cons, List.not_mem_nil, or_false] at other
        rcases other with rfl | rfl | rfl <;> decide
      simp only [entry, key, quotedText_mismatch no_key.1, name?_eq_none no_key.2]

theorem Denotes.head (denotes : Denotes loneComma t v) : ∃ c more, t = c :: more ∧ c ∉ stops := by
  cases denotes with
  | scalar kind =>
      obtain ⟨c, more, text_eq, no_stop, -⟩ := kind.head
      exact ⟨c, more, text_eq, no_stop⟩
  | list _ => exact ⟨'[', _, rfl, by decide⟩
  | mapping _ _ => exact ⟨'\x7b', _, rfl, by decide⟩

theorem Entry.head {Element : List Char → Value → Prop} (entry : Entry Element t e) :
    ∃ c more, t = c :: more ∧ c ∉ stops := by
  obtain ⟨keyed, _, _, _⟩ := entry
  obtain ⟨c, more, rfl, no_stop⟩ := keyed.head
  exact ⟨c, _, rfl, no_stop⟩

theorem no_spacing_of_head (head : ∃ c more, t = c :: more ∧ c ∉ stops) (rest : List Char) :
    ∀ c ∈ (t ++ rest).head?, Text.isSpacing c = false := by
  obtain ⟨c, more, rfl, no_stop⟩ := head
  intro d found
  cases found
  exact not_isSpacing_of_not_mem_stops no_stop

theorem Tail.allowed (closing : Tail p tail) : Tail True tail := by
  cases closing with
  | gap spacing => exact .gap spacing
  | comma _ before after => exact .comma trivial before after

/-- Where nothing but a comma stands before the closing bracket, the spacing before that is skipped. -/
theorem Tail.skipSpacing (closing : Tail p tail) (spacing : IsGap gap) (closes : Closes close)
    (rest : List Char) : ∃ tail' c more, Text.skipSpacing (gap ++ (tail ++ close :: rest)) = c :: more ∧
      c ∈ [',', ']', '\x7d'] ∧ c :: more = tail' ++ close :: rest ∧ Tail True tail' := by
  obtain ⟨-, no_space, -⟩ := closes.ends
  cases closing with
  | gap spacing' =>
      have ended := skipSpacing_gap_cons (spacing.append spacing') no_space rest
      rw [List.append_assoc] at ended
      refine ⟨[], close, rest, ended, ?_, rfl, .gap .nil⟩
      rcases closes with rfl | rfl <;> decide
  | @comma before after _ spacing' spacing'' =>
      have comma := skipSpacing_gap_cons (spacing.append spacing') (c := ',') (by decide)
        (after ++ close :: rest)
      exact ⟨',' :: after, ',', after ++ close :: rest, by simpa using comma, by decide, rfl,
        .comma trivial .nil spacing''⟩

theorem moreItems_tail (closing : Tail p tail) (fuel : Nat) (before : List Value) (rest : List Char) :
    moreItems fuel before (tail ++ ']' :: rest) = .ok (before.reverse, tail ++ ']' :: rest) := by
  cases fuel with
  | zero => rfl
  | succ fuel =>
      cases closing with
      | gap spacing =>
          have no_comma := afterComma_eq_none (c := ']') spacing (by decide) (by decide) rest
          rw [moreItems, no_comma]
      -- The comma is tried and, since no item follows it, given back.
      | comma _ spacing spacing' =>
          have comma := afterComma_append spacing spacing' (no_spacing_cons (c := ']') (by decide) rest)
          have mismatch := value_mismatch fuel (c := ']') (by decide) rest
          simp [moreItems, comma, mismatch]

theorem moreEntries_tail (closing : Tail p tail) (fuel : Nat) (before : List (String × Value))
    (rest : List Char) :
    moreEntries fuel before (tail ++ '\x7d' :: rest) = .ok (before.reverse, tail ++ '\x7d' :: rest) := by
  cases fuel with
  | zero => rfl
  | succ fuel =>
      cases closing with
      | gap spacing =>
          have no_comma := afterComma_eq_none (c := '\x7d') spacing (by decide) (by decide) rest
          rw [moreEntries, no_comma]
      | comma _ spacing spacing' =>
          have comma := afterComma_append spacing spacing' (no_spacing_cons (c := '\x7d') (by decide) rest)
          have mismatch := entry_mismatch fuel (c := '\x7d') (by decide) rest
          simp [moreEntries, comma, mismatch]

/-- What each of the readers with this much fuel takes whole.  Lengths are doubled because a bracket pays for
two calls, that of its value and that of what it holds. -/
structure ReadsBackWithin (loneComma : Bool) (fuel : Nat) : Prop where
  value : ∀ {t v rest}, Denotes loneComma t v → Stops rest → 2 * t.length ≤ fuel →
    Literal.value fuel (t ++ rest) = .ok (v, rest)
  entry : ∀ {t e rest}, Entry (Denotes loneComma) t e → Stops rest → 2 * t.length ≤ fuel →
    Literal.entry fuel (t ++ rest) = .ok (e, rest)
  items : ∀ {gap t tail vs} rest, IsGap gap → Series (Denotes loneComma) t vs → Tail True tail →
    2 * t.length + 1 ≤ fuel → ∃ tail', Tail True tail' ∧
      Literal.items fuel (Text.skipSpacing (gap ++ (t ++ (tail ++ ']' :: rest)))) =
        .ok (vs, tail' ++ ']' :: rest)
  moreItems : ∀ {t tail vs} before rest, Continued (Denotes loneComma) t vs → Tail True tail →
    2 * t.length ≤ fuel →
      Literal.moreItems fuel before (t ++ (tail ++ ']' :: rest)) =
        .ok (before.reverse ++ vs, tail ++ ']' :: rest)
  entries : ∀ {gap t tail es} rest, IsGap gap → Series (Entry (Denotes loneComma)) t es → Tail True tail →
    2 * t.length + 1 ≤ fuel → ∃ tail', Tail True tail' ∧
      Literal.entries fuel (Text.skipSpacing (gap ++ (t ++ (tail ++ '\x7d' :: rest)))) =
        .ok (es, tail' ++ '\x7d' :: rest)
  moreEntries : ∀ {t tail es} before rest, Continued (Entry (Denotes loneComma)) t es → Tail True tail →
    2 * t.length ≤ fuel →
      Literal.moreEntries fuel before (t ++ (tail ++ '\x7d' :: rest)) =
        .ok (before.reverse ++ es, tail ++ '\x7d' :: rest)

theorem readsBackWithin_zero : ReadsBackWithin loneComma 0 where
  value denotes _ enough := by
    obtain ⟨c, more, rfl, -⟩ := denotes.head
    simp at enough
  entry e _ enough := by
    obtain ⟨c, more, rfl, -⟩ := e.head
    simp at enough
  items _ _ _ _ enough := by omega
  moreItems _ _ more closing enough := by
    cases more with
    | nil => rw [List.nil_append, List.append_nil, moreItems_tail closing]
    | cons _ _ _ _ => simp at enough
  entries _ _ _ _ enough := by omega
  moreEntries _ _ more closing enough := by
    cases more with
    | nil => rw [List.nil_append, List.append_nil, moreEntries_tail closing]
    | cons _ _ _ _ => simp at enough

theorem ReadsBackWithin.value_succ (ih : ReadsBackWithin loneComma fuel) (denotes : Denotes loneComma t v)
    (stop : Stops rest) (enough : 2 * t.length ≤ fuel + 1) :
    Literal.value (fuel + 1) (t ++ rest) = .ok (v, rest) := by
  cases denotes with
  | scalar kind =>
      have read := scalar_append kind stop
      obtain ⟨c, more, rfl, -, no_list, no_mapping⟩ := kind.head
      rw [← read]
      exact value_eq_scalar no_list no_mapping (more ++ rest)
  | list between =>
      obtain @⟨gap, s, tail, _, spacing, series, closing⟩ := between
      simp only [List.length_cons, List.length_append] at enough
      obtain ⟨tail', closing', read⟩ := ih.items rest spacing series closing.allowed (by omega)
      have closed := afterClose_append closing' (.inl rfl) rest
      have text_eq : '[' :: (gap ++ (s ++ tail) ++ [']']) ++ rest =
          '[' :: (gap ++ (s ++ (tail ++ ']' :: rest))) := by simp
      rw [text_eq, Literal.value]
      simp only [read, closed]
  | mapping between collected =>
      obtain @⟨gap, s, tail, _, spacing, series, closing⟩ := between
      simp only [List.length_cons, List.length_append] at enough
      obtain ⟨tail', closing', read⟩ := ih.entries rest spacing series closing.allowed (by omega)
      have closed := afterClose_append closing' (.inr rfl) rest
      have text_eq : '\x7b' :: (gap ++ (s ++ tail) ++ ['\x7d']) ++ rest =
          '\x7b' :: (gap ++ (s ++ (tail ++ '\x7d' :: rest))) := by simp
      rw [text_eq, Literal.value]
      simp only [read, closed, collected_iff.mp collected]

theorem ReadsBackWithin.entry_succ (ih : ReadsBackWithin loneComma fuel)
    (written : Entry (Denotes loneComma) t e) (stop : Stops rest) (enough : 2 * t.length ≤ fuel + 1) :
    Literal.entry (fuel + 1) (t ++ rest) = .ok (e, rest) := by
  obtain @⟨k, gap, gap', s, _, _, keyed, spacing, spacing', denotes⟩ := written
  simp only [List.length_append, List.length_cons] at enough
  have key_ended : Stops (gap ++ ':' :: (gap' ++ (s ++ rest))) := spacing.stops (.cons (by decide) _)
  have key_read := key_append keyed key_ended
  have colon := skipSpacing_gap_cons spacing (c := ':') (by decide) (gap' ++ (s ++ rest))
  have skipped := skipSpacing_append spacing' (no_spacing_of_head denotes.head rest)
  have read := ih.value denotes stop (by omega)
  have text_eq : k ++ (gap ++ ':' :: (gap' ++ s)) ++ rest = k ++ (gap ++ ':' :: (gap' ++ (s ++ rest))) := by
    simp
  simp only [text_eq, Literal.entry, key_read, colon, skipped, read]

theorem readsBackWithin (loneComma : Bool) : ∀ fuel, ReadsBackWithin loneComma fuel
  | 0 => readsBackWithin_zero
  | fuel + 1 =>
      let ih := readsBackWithin loneComma fuel
      { value := ih.value_succ
        entry := ih.entry_succ
        items := by
          intro gap t tail vs rest spacing series closing enough
          cases series with
          | nil =>
              obtain ⟨tail', c, more, skipped, other, text_eq, closing'⟩ :=
                closing.skipSpacing spacing (.inl rfl) rest
              refine ⟨tail', closing', ?_⟩
              rw [List.nil_append, skipped, Literal.items, value_mismatch fuel other, text_eq]
          | @cons s t v vs first more =>
              rw [List.length_append] at enough
              have after := more.stops (closing.stops (.cons (c := ']') (by decide) rest))
              have skipped := skipSpacing_append spacing
                (no_spacing_of_head first.head (t ++ (tail ++ ']' :: rest)))
              refine ⟨tail, closing, ?_⟩
              rw [List.append_assoc, skipped, Literal.items, ih.value first after (by omega)]
              exact ih.moreItems [v] rest more closing (by omega)
        moreItems := by
          intro t tail vs before rest more closing enough
          cases more with
          | nil => rw [List.nil_append, List.append_nil, moreItems_tail closing]
          | @cons gap gap' s t v vs spacing spacing' next more =>
              simp only [List.length_append, List.length_cons] at enough
              have after := more.stops (closing.stops (.cons (c := ']') (by decide) rest))
              have comma := afterComma_append spacing spacing'
                (no_spacing_of_head next.head (t ++ (tail ++ ']' :: rest)))
              have read := ih.value next after (by omega)
              have following := ih.moreItems (v :: before) rest more closing (by omega)
              rw [List.reverse_cons, List.append_assoc] at following
              simp only [List.append_assoc, List.cons_append, Literal.moreItems, comma, read]
              exact following
        entries := by
          intro gap t tail es rest spacing series closing enough
          cases series with
          | nil =>
              obtain ⟨tail', c, more, skipped, other, text_eq, closing'⟩ :=
                closing.skipSpacing spacing (.inr rfl) rest
              refine ⟨tail', closing', ?_⟩
              rw [List.nil_append, skipped, Literal.entries, entry_mismatch fuel other, text_eq]
          | @cons s t e es first more =>
              rw [List.length_append] at enough
              have after := more.stops (closing.stops (.cons (c := '\x7d') (by decide) rest))
              have skipped := skipSpacing_append spacing
                (no_spacing_of_head first.head (t ++ (tail ++ '\x7d' :: rest)))
              refine ⟨tail, closing, ?_⟩
              rw [List.append_assoc, skipped, Literal.entries, ih.entry first after (by omega)]
              exact ih.moreEntries [e] rest more closing (by omega)
        moreEntries := by
          intro t tail es before rest more closing enough
          cases more with
          | nil => rw [List.nil_append, List.append_nil, moreEntries_tail closing]
          | @cons gap gap' s t e es spacing spacing' next more =>
              simp only [List.length_append, List.length_cons] at enough
              have after := more.stops (closing.stops (.cons (c := '\x7d') (by decide) rest))
              have comma := afterComma_append spacing spacing'
                (no_spacing_of_head next.head (t ++ (tail ++ '\x7d' :: rest)))
              have read := ih.entry next after (by omega)
              have following := ih.moreEntries (e :: before) rest more closing (by omega)
              rw [List.reverse_cons, List.append_assoc] at following
              simp only [List.append_assoc, List.cons_append, Literal.moreEntries, comma, read]
              exact following }

/-! ### Whole texts -/

/-- A text of the grammar is read, whether or not a comma may stand by itself in it. -/
theorem decode_of_written (written : Written loneComma s v) : decode s = .ok v := by
  obtain @⟨gap, gap', t, _, spacing, spacing', denotes⟩ := written
  have skipped := skipSpacing_append spacing (no_spacing_of_head denotes.head gap')
  have ended : Stops gap' := by
    have stop := spacing'.stops .nil
    rwa [List.append_nil] at stop
  have enough : 2 * t.length ≤ fuelFor (t ++ gap') := by
    rw [fuelFor, List.length_append]
    omega
  have read := (readsBackWithin loneComma _).value denotes ended enough
  simp only [decode, skipped, read, skipSpacing_gap spacing']
  rfl

/-- A text that is read is one of the grammar in which a comma may stand by itself. -/
theorem written_of_decode (read : decode s = .ok v) : Written true s v := by
  unfold decode at read
  dsimp only at read
  split at read
  · cases read
  next value_read =>
    obtain ⟨gap, spacing, whole⟩ := exists_isGap s
    obtain ⟨t, skipped, denotes⟩ := (readsWithin _).value value_read
    split at read
    next ended =>
      cases read
      obtain ⟨gap', spacing', rfl⟩ := eq_gap_append (List.isEmpty_iff.mp ended)
      rw [List.append_nil] at skipped
      rw [whole, skipped]
      exact .mk spacing spacing' denotes
    · cases read

/-- A text is read as a value exactly if it is written in the grammar with a comma that may stand by itself
between two brackets; what is written without one is read, too. -/
theorem decode_eq_ok_iff (s : List Char) (v : Value) :
    (decode s = .ok v ↔ Written true s v) ∧ (Written false s v → decode s = .ok v) :=
  ⟨⟨written_of_decode, decode_of_written⟩, decode_of_written⟩

theorem comma_not_mem_of_empty (written : Written false s (.list [])) : ',' ∉ s := by
  have no_comma {gap : List Char} (spacing : IsGap gap) : ',' ∉ gap := by
    intro member
    cases spacing ',' member
  obtain ⟨before, after, denotes⟩ := written
  cases denotes with
  | scalar kind => exact absurd kind Scalar.not_list
  | list between =>
      obtain ⟨spacing, elements, closing⟩ := between
      cases elements
      cases closing with
      | gap spacing' => simp [no_comma before, no_comma after, no_comma spacing, no_comma spacing']
      | comma allowed _ _ => simp at allowed

/-- A comma by itself is read as an empty list, which the grammar does not have. -/
theorem lone_comma_is_read : decode ['[', ',', ']'] = .ok (.list []) ∧
    ¬ Written false ['[', ',', ']'] (.list []) := by
  refine ⟨rfl, fun written => ?_⟩
  exact comma_not_mem_of_empty written (by decide)

end CallScript.Literal
