import CallScript.Proofs.Script.LiteralTokens
import CallScript.Proofs.Script.Scanning

/-! # Literals inside a parameter list

What a reader of bracketed literals takes from a text is passed over by the cutting of a parameter list, so no
comma, bracket or quote inside a literal cuts it (`value_passes`).  Every reader has its lemma, in the order
in which the readers call each other; those that take fuel share one induction on it (`passesWithin`).

`Takes fresh nested s rest` says that what stands in `s` before `rest` is passed over; it is read at the start
of a token if `fresh`, and inside a bracket if `nested`. -/

namespace CallScript.Literal

open Segment (Scan Passes isPlain)

variable {s t rest text : List Char} {c quote : Char}

/-! ### Characters -/

/-- The characters that open, close or cut. -/
def marks : List Char := ['"', '\'', '[', '\x7b', '(', ']', '\x7d', ')', ',']

theorem mem_marks_of_not_isPlain (h : isPlain c = false) : c ∈ marks := by
  by_contra other
  simp only [marks, List.mem_cons, List.not_mem_nil, or_false, not_or] at other
  simp [isPlain, Segment.isOpening, Segment.opening?, other] at h

theorem isPlain_of {p : Char → Bool} (no_mark : marks.all (fun c => !p c) = true) (h : p c = true) :
    isPlain c = true := by
  rw [← Bool.not_eq_false]
  intro mark
  have outside := List.all_eq_true.mp no_mark c (mem_marks_of_not_isPlain mark)
  rw [h] at outside
  cases outside

theorem isPlain_of_isNameChar (h : isNameChar c = true) : isPlain c = true := isPlain_of (by decide) h

theorem isPlain_of_isDigit (h : Text.isDigit c = true) : isPlain c = true := isPlain_of (by decide) h

theorem isPlain_of_isSpacing (h : Text.isSpacing c = true) : isPlain c = true := isPlain_of (by decide) h

theorem isBlank_of_isSpacing (h : Text.isSpacing c = true) : Text.isBlank c = true := by
  simp only [Text.isSpacing, Bool.or_eq_true, decide_eq_true_eq] at h
  rcases h with ((rfl | rfl) | rfl) | rfl <;> decide

/-! ### What is taken -/

/-- The part of a text before the rest is passed over. -/
def Takes (fresh nested : Bool) (s rest : List Char) : Prop :=
  ∃ text, s = text ++ rest ∧ Passes fresh nested text

/-- The part of a text before the rest consists of plain characters. -/
def TakesPlain (s rest : List Char) : Prop := ∃ text, s = text ++ rest ∧ ∀ c ∈ text, isPlain c = true

variable {fresh nested : Bool}

theorem Takes.refl : Takes fresh nested s s := ⟨[], rfl, .nil⟩

theorem TakesPlain.refl : TakesPlain s s := ⟨[], rfl, nofun⟩

theorem TakesPlain.cons (plain : isPlain c = true) (h : TakesPlain s rest) : TakesPlain (c :: s) rest := by
  obtain ⟨text, rfl, all_plain⟩ := h
  refine ⟨c :: text, rfl, fun other member => ?_⟩
  rcases List.mem_cons.mp member with rfl | later
  · exact plain
  · exact all_plain other later

theorem TakesPlain.trans (first : TakesPlain s t) (second : TakesPlain t rest) : TakesPlain s rest := by
  obtain ⟨a, rfl, a_plain⟩ := first
  obtain ⟨b, rfl, b_plain⟩ := second
  refine ⟨a ++ b, (List.append_assoc a b rest).symm, fun c member => ?_⟩
  rcases List.mem_append.mp member with earlier | later
  · exact a_plain c earlier
  · exact b_plain c later

theorem TakesPlain.takes (h : TakesPlain s rest) : Takes fresh nested s rest := by
  obtain ⟨text, rfl, plain⟩ := h
  exact ⟨text, rfl, (Segment.passes_plain plain).mono nofun nofun⟩

theorem Takes.mono {nested' : Bool} (h : Takes fresh nested s rest)
    (nested_le : nested = true → nested' = true) : Takes true nested' s rest := by
  obtain ⟨text, rfl, passes⟩ := h
  exact ⟨text, rfl, passes.mono (fun _ => rfl) nested_le⟩

theorem Takes.trans (first : Takes fresh nested s t) (second : Takes false nested t rest) :
    Takes fresh nested s rest := by
  obtain ⟨a, rfl, a_passes⟩ := first
  obtain ⟨b, rfl, b_passes⟩ := second
  exact ⟨a ++ b, (List.append_assoc a b rest).symm, a_passes.append b_passes⟩

theorem Takes.after_spacing (h : Takes fresh nested (Text.skipSpacing s) rest) :
    Takes fresh nested s rest := by
  obtain ⟨text, rest_eq, passes⟩ := h
  have spacing : ∀ c ∈ s.takeWhile Text.isSpacing, Text.isSpacing c = true :=
    fun c member => List.mem_takeWhile_imp member
  refine ⟨s.takeWhile Text.isSpacing ++ text, ?_, passes.after_gap
    (fun c member => isPlain_of_isSpacing (spacing c member))
    (fun c member => isBlank_of_isSpacing (spacing c member))⟩
  rw [List.append_assoc, ← rest_eq]
  exact List.takeWhile_append_dropWhile.symm

theorem Takes.after_colon (h : Takes fresh nested s rest) : Takes false nested (':' :: s) rest := by
  obtain ⟨text, rfl, passes⟩ := h
  exact ⟨':' :: text, rfl, passes.after_plain (by decide) (fun _ => by decide)⟩

theorem Takes.after_comma (h : Takes fresh true s rest) : Takes false true (',' :: s) rest := by
  obtain ⟨text, rfl, passes⟩ := h
  exact ⟨',' :: text, rfl, passes.after_comma⟩

theorem Takes.bracketed {opening close : Char} (opens : Segment.isOpening opening = true)
    (closes : Segment.opening? close = some opening) (h : Takes true true s (close :: rest)) :
    Takes fresh nested (opening :: s) rest := by
  obtain ⟨text, rfl, passes⟩ := h
  refine ⟨opening :: text ++ [close], ?_, (passes.bracketed opens closes).mono nofun nofun⟩
  simp

/-! ### Quoted texts -/

/-- The end of a quoted text is where the cutting, too, leaves the quotes. -/
theorem quotedTail_run (quotes : isQuote quote = true) {unescaped : List Char}
    (read : quotedTail quote s = some (unescaped, rest)) :
    ∃ body, s = body ++ quote :: rest ∧ ∀ x : Scan, x.quoting = .inside quote →
      x.run (body ++ [quote]) =
        .ok { x with quoting := .outside, piece := (body ++ [quote]).reverse ++ x.piece } := by
  fun_induction quotedTail quote s generalizing unescaped rest with
  | case1 => cases read
  | case2 => cases read
  | case3 c after ih =>
      obtain ⟨⟨unescaped, rest'⟩, read_on, same⟩ := Option.map_eq_some_iff.mp read
      cases same
      obtain ⟨body, rfl, run⟩ := ih read_on
      refine ⟨'\\' :: c :: body, rfl, fun x inside => ?_⟩
      have first : x.step '\\' = .ok { x with quoting := .escaped quote, piece := '\\' :: x.piece } := by
        simp [Scan.step, inside]
      have second : Scan.step { x with quoting := .escaped quote, piece := '\\' :: x.piece } c =
          .ok { x with quoting := .inside quote, piece := c :: '\\' :: x.piece } := rfl
      rw [List.cons_append, List.cons_append, Segment.run_cons first, Segment.run_cons second,
        run _ rfl]
      simp
  | case4 after =>
      cases read
      refine ⟨[], rfl, fun x inside => ?_⟩
      have not_escape : quote ≠ '\\' := by
        rcases isQuote_cases quotes with rfl | rfl <;> decide
      have closed : x.step quote = .ok { x with quoting := .outside, piece := quote :: x.piece } := by
        simp [Scan.step, inside, not_escape]
      rw [List.nil_append, Segment.run_cons closed]
      rfl
  | case5 c after not_last not_escape other ih =>
      obtain ⟨⟨unescaped, rest'⟩, read_on, same⟩ := Option.map_eq_some_iff.mp read
      cases same
      obtain ⟨body, rfl, run⟩ := ih read_on
      refine ⟨c :: body, rfl, fun x inside => ?_⟩
      have no_escape : c ≠ '\\' := by
        rintro rfl
        cases body with
        | nil => exact not_escape quote rest rfl rfl
        | cons next body => exact not_escape next _ rfl rfl
      have kept : x.step c = .ok { x with piece := c :: x.piece } := by
        simp [Scan.step, inside, no_escape, other]
      rw [List.cons_append, Segment.run_cons kept, run { x with piece := c :: x.piece } inside]
      simp

theorem quotedText_takes {read : String} (h : quotedText s = .ok (read, rest)) :
    Takes true nested s rest := by
  unfold quotedText at h
  split at h
  · cases h
  next quote after =>
    split at h
    next quotes =>
      split at h
      next unescaped after' tail =>
        cases h
        obtain ⟨body, rfl, run⟩ := quotedTail_run quotes tail
        refine ⟨quote :: (body ++ [quote]), by simp, fun x outside start _ => ?_⟩
        have opened : x.step quote = .ok
            { x with quoting := .inside quote, atStart := Segment.startAfter x.atStart quote,
                     piece := quote :: x.piece } := by
          rcases isQuote_cases quotes with rfl | rfl <;> simp [Scan.step, outside, start rfl]
        refine ⟨Segment.startAfter x.atStart quote, ?_⟩
        rw [Segment.run_cons opened, run _ rfl]
        simp [Scan.past, outside]
      · cases h
    · cases h

/-! ### Names, references, numbers, keywords -/

theorem spanOf_takesPlain {p : Char → Bool} (plain : ∀ c, p c = true → isPlain c = true)
    (span : Text.spanOf p s = (text, rest)) : TakesPlain s rest := by
  obtain ⟨whole, inside, -⟩ := Text.spanOf_eq_iff.mp span
  exact ⟨text, whole, fun c member => plain c (inside c member)⟩

theorem name?_takesPlain {name : String} (h : name? s = some (name, rest)) : TakesPlain s rest := by
  unfold name? at h
  split at h
  · cases h
  next span =>
    cases h
    exact spanOf_takesPlain (fun _ => isPlain_of_isNameChar) span

theorem reference?_takes {name : String} (h : reference? s = some (name, rest)) :
    Takes fresh nested s rest := by
  unfold reference? at h
  split at h
  next after =>
    split at h
    next name' rest' named =>
      cases h
      have dollar : TakesPlain ('$' :: '\x7b' :: after) ('\x7b' :: after) := .cons (by decide) .refl
      have braces : Takes false nested ('\x7b' :: after) rest :=
        (name?_takesPlain named).takes.bracketed (by decide) rfl
      exact dollar.takes.trans braces
    · cases h
  · cases h

theorem sign_takesPlain (s : List Char) : TakesPlain s (sign s).2 := by
  unfold sign
  split
  · exact .cons (by decide) .refl
  · exact .cons (by decide) .refl
  · exact .refl

theorem fraction_takesPlain (s : List Char) : TakesPlain s (fraction s).2 := by
  unfold fraction
  split
  · split
    · exact .refl
    next span => exact .cons (by decide) (spanOf_takesPlain (fun _ => isPlain_of_isDigit) span)
  · exact .refl

theorem exponent_takesPlain (s : List Char) : TakesPlain s (exponent s).2 := by
  unfold exponent
  split
  · exact .refl
  next c after =>
    split
    next mark =>
      have mark_plain : isPlain c = true := by
        rw [Bool.or_eq_true, decide_eq_true_eq, decide_eq_true_eq] at mark
        rcases mark with rfl | rfl <;> decide
      dsimp only
      split
      · exact .refl
      next digits rest _ span =>
        have digits_plain : TakesPlain (sign after).2 rest :=
          spanOf_takesPlain (fun _ => isPlain_of_isDigit) span
        exact .cons mark_plain ((sign_takesPlain after).trans digits_plain)
    · exact .refl

theorem number_takesPlain {v : Value} (h : number s = .ok (v, rest)) : TakesPlain s rest := by
  unfold number at h
  dsimp only at h
  split at h
  · cases h
  next whole after _ span =>
    have whole_plain : TakesPlain (sign s).2 after :=
      spanOf_takesPlain (fun _ => isPlain_of_isDigit) span
    have all_plain : TakesPlain s (exponent (fraction after).2).2 :=
      (sign_takesPlain s).trans (whole_plain.trans
        ((fraction_takesPlain after).trans (exponent_takesPlain _)))
    split at h
    · split at h
      · cases h
        exact all_plain
      · cases h
    · cases h
      exact all_plain

theorem isPlain_of_toLower (h : isPlain c.toLower = true) : isPlain c = true :=
  isPlain_of (p := fun c => isPlain c.toLower) (by decide) h

theorem afterWord_takesPlain {ignoringCase : Bool} {word : List Char}
    (lower : ignoringCase = true → word.map Char.toLower = word) (plain : word.all isPlain = true)
    (h : afterWord ignoringCase word s = some rest) : TakesPlain s rest := by
  have word_plain := List.all_eq_true.mp plain
  unfold afterWord at h
  obtain ⟨same, dropped⟩ := Option.ite_none_right_eq_some.mp h
  cases dropped
  refine ⟨s.take word.length, (List.take_append_drop word.length s).symm, fun c member => ?_⟩
  cases ignoringCase with
  | false =>
      have head_eq : s.take word.length = word := by simpa using same
      exact word_plain c (head_eq ▸ member)
  | true =>
      have head_eq : (s.take word.length).map Char.toLower = word := by
        simpa [Text.eqIgnoringCase, lower] using same
      have member_lower : c.toLower ∈ word := head_eq ▸ List.mem_map_of_mem member
      exact isPlain_of_toLower (word_plain _ member_lower)

theorem keyword_takesPlain {v : Value} (h : keyword s = .ok (v, rest)) : TakesPlain s rest := by
  unfold keyword at h
  split at h
  next found =>
    cases h
    exact afterWord_takesPlain (by decide) (by decide) found
  · split at h
    next found =>
      cases h
      exact afterWord_takesPlain (by decide) (by decide) found
    · split at h
      next found =>
        cases h
        rcases Option.or_eq_some_iff.mp found with null | ⟨-, none⟩
        · exact afterWord_takesPlain (by decide) (by decide) null
        · exact afterWord_takesPlain (by decide) (by decide) none
      · cases h

theorem scalar_takes {v : Value} (h : scalar s = .ok (v, rest)) : Takes true nested s rest := by
  unfold scalar at h
  split at h
  next quoted =>
    cases h
    exact quotedText_takes quoted
  · split at h
    next referred =>
      cases h
      exact reference?_takes referred
    · split at h
      · exact (keyword_takesPlain h).takes
      · exact (number_takesPlain h).takes
  · cases h

/-! ### Lists and mappings -/

theorem key_takes {name : String} (h : key s = .ok (name, rest)) : Takes true nested s rest := by
  unfold key at h
  split at h
  · split at h
    next named =>
      cases h
      exact (name?_takesPlain named).takes
    · cases h
  · exact quotedText_takes h

theorem afterComma_takes (next : afterComma s = some t) (h : Takes true true t rest) :
    Takes false true s rest := by
  unfold afterComma at next
  split at next
  next after found =>
    cases next
    have after_takes : Takes true true after rest := h.after_spacing
    exact Takes.after_spacing (found ▸ after_takes.after_comma)
  · cases next

theorem afterClose_takes {close : Char} (h : afterClose close s = some rest) :
    Takes false true s (close :: rest) := by
  unfold afterClose at h
  dsimp only at h
  split at h
  next c after found =>
    split at h
    next same =>
      cases h
      subst same
      cases comma : afterComma s with
      | none =>
          rw [comma, Option.getD_none] at found
          exact Takes.after_spacing (found ▸ .refl)
      | some t =>
          rw [comma, Option.getD_some] at found
          exact afterComma_takes comma (Takes.after_spacing (found ▸ .refl))
    · cases h
  · cases h

/-- What each of the readers with this much fuel takes is passed over. -/
structure PassesWithin (fuel : Nat) : Prop where
  value : ∀ {s v rest}, Literal.value fuel s = .ok (v, rest) → Takes true false s rest
  items : ∀ {s vs rest}, Literal.items fuel s = .ok (vs, rest) → Takes true true s rest
  moreItems : ∀ {s before vs rest}, Literal.moreItems fuel before s = .ok (vs, rest) →
    Takes false true s rest
  entries : ∀ {s es rest}, Literal.entries fuel s = .ok (es, rest) → Takes true true s rest
  moreEntries : ∀ {s before es rest}, Literal.moreEntries fuel before s = .ok (es, rest) →
    Takes false true s rest
  entry : ∀ {s e rest}, Literal.entry fuel s = .ok (e, rest) → Takes true true s rest

variable {fuel : Nat}

theorem passesWithin_zero : PassesWithin 0 where
  value h := by cases h
  items h := by
    cases h
    exact .refl
  moreItems h := by
    cases h
    exact .refl
  entries h := by
    cases h
    exact .refl
  moreEntries h := by
    cases h
    exact .refl
  entry h := by cases h

theorem PassesWithin.value_succ (ih : PassesWithin fuel) {v : Value}
    (h : Literal.value (fuel + 1) s = .ok (v, rest)) : Takes true false s rest := by
  rw [Literal.value.eq_def] at h
  dsimp only at h
  split at h
  next after =>
    split at h
    · cases h
    next items_read =>
      split at h
      next closed =>
        cases h
        have inner := (ih.items items_read).trans (afterClose_takes closed)
        exact inner.after_spacing.bracketed (by decide) rfl
      · cases h
  next after =>
    split at h
    · cases h
    next entries_read =>
      split at h
      next closed =>
        cases h
        have inner := (ih.entries entries_read).trans (afterClose_takes closed)
        exact inner.after_spacing.bracketed (by decide) rfl
      · cases h
  · exact scalar_takes h

theorem PassesWithin.entry_succ (ih : PassesWithin fuel) {e : String × Value}
    (h : Literal.entry (fuel + 1) s = .ok (e, rest)) : Takes true true s rest := by
  rw [Literal.entry] at h
  split at h
  · cases h
  next name after key_read =>
    split at h
    next after_colon colon =>
      split at h
      · cases h
      next value_read =>
        cases h
        have value_takes : Takes true true after_colon rest :=
          Takes.after_spacing ((ih.value value_read).mono nofun)
        have colon_takes : Takes false true after rest :=
          Takes.after_spacing (colon ▸ value_takes.after_colon)
        exact (key_takes key_read).trans colon_takes
    · cases h

/-- More fuel lets a reader take one more item or go one bracket deeper, and both are passed over. -/
theorem passesWithin : ∀ fuel, PassesWithin fuel
  | 0 => passesWithin_zero
  | fuel + 1 =>
      let ih := passesWithin fuel
      { value := ih.value_succ
        entry := ih.entry_succ
        items := by
          intro s vs rest h
          rw [Literal.items] at h
          split at h
          · cases h
            exact .refl
          · cases h
          next first_read =>
            exact ((ih.value first_read).mono nofun).trans (ih.moreItems h)
        moreItems := by
          intro s before vs rest h
          rw [Literal.moreItems] at h
          split at h
          · cases h
            exact .refl
          next comma =>
            split at h
            · cases h
              exact .refl
            · cases h
            next item_read =>
              exact afterComma_takes comma (((ih.value item_read).mono nofun).trans (ih.moreItems h))
        entries := by
          intro s es rest h
          rw [Literal.entries] at h
          split at h
          · cases h
            exact .refl
          · cases h
          next first_read => exact (ih.entry first_read).trans (ih.moreEntries h)
        moreEntries := by
          intro s before es rest h
          rw [Literal.moreEntries] at h
          split at h
          · cases h
            exact .refl
          next comma =>
            split at h
            · cases h
              exact .refl
            · cases h
            next entry_read =>
              exact afterComma_takes comma ((ih.entry entry_read).trans (ih.moreEntries h)) }

/-- A text that is a value as a whole is passed over at the start of a token. -/
theorem value_passes {v : Value} (h : Literal.value fuel text = .ok (v, [])) : Passes true false text := by
  obtain ⟨whole, text_eq, passes⟩ := (passesWithin fuel).value h
  rw [List.append_nil] at text_eq
  exact text_eq ▸ passes

end CallScript.Literal
