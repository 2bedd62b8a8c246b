import CallScript.Script.Segment
import Mathlib.Tactic.Common

/-! # Cutting a parameter list, character by character

What `Scan.step` does outside quotes, one lemma for each kind of character: one that has no part in the
cutting (`isPlain`), an opening bracket, a closing one, and a comma inside or outside brackets.  A text is
passed over (`Passes`) if reading it closes every bracket and every quote that it opens and cuts nothing.
Whether it is may depend on where the reading begins: at the start of a token, or inside a bracket.

* `run_append`: a text is read part by part.
* `split_comma`: two lists with a comma between them are cut into the pieces of both.
* `Passes.append`, `Passes.after_plain`, `Passes.after_gap`, `Passes.after_comma`: a text is passed over part
  by part.
* `Passes.bracketed`: a bracketed text is passed over if what it holds is.
* `Passes.split_eq`: a text that is passed over is one piece. -/

namespace CallScript.Segment

variable {s t : Scan} {c : Char} {text rest : List Char}

/-! ### One character -/

/-- A text is read part by part. -/
theorem run_append (read : s.run text = .ok t) : s.run (text ++ rest) = t.run rest := by
  induction text generalizing s with
  | nil =>
      cases read
      rfl
  | cons c text ih =>
      rw [Scan.run] at read
      rw [List.cons_append, Scan.run]
      split at read
      · cases read
      next next stepped => exact ih read

theorem run_cons (stepped : s.step c = .ok t) : s.run (c :: rest) = t.run rest := by
  rw [Scan.run, stepped]

/-- A character that opens and closes nothing, and cuts nothing. -/
def isPlain (c : Char) : Bool :=
  !(c = '"' || c = '\'' || isOpening c || (opening? c).isSome || c = ',')

theorem step_plain (outside : s.quoting = .outside) (plain : isPlain c = true) :
    s.step c = .ok { s with atStart := startAfter s.atStart c, piece := c :: s.piece } := by
  simp only [isPlain, Bool.not_eq_true', Bool.or_eq_false_iff, decide_eq_false_iff_not,
    Option.isSome_eq_false_iff, Option.isNone_iff_eq_none] at plain
  obtain ⟨⟨⟨⟨no_double, no_single⟩, no_opening⟩, no_closing⟩, no_comma⟩ := plain
  simp [Scan.step, outside, no_double, no_single, no_opening, no_closing, no_comma]

theorem step_opening (outside : s.quoting = .outside) (opens : isOpening c = true) :
    s.step c = .ok { s with opened := c :: s.opened, atStart := true, piece := c :: s.piece } := by
  have one_of : c = '[' ∨ c = '\x7b' ∨ c = '(' := by simpa [isOpening, or_assoc] using opens
  rcases one_of with rfl | rfl | rfl
  all_goals simp [Scan.step, outside, isOpening, startAfter, Text.isBlank, Text.blanks,
    Text.CodeRanges.has, startsToken]

theorem closing_cases {opening : Char} (closes : opening? c = some opening) :
    c = ']' ∧ opening = '[' ∨ c = '\x7d' ∧ opening = '\x7b' ∨ c = ')' ∧ opening = '(' := by
  unfold opening? at closes
  split at closes
  · exact .inl ⟨‹_›, (Option.some.inj closes).symm⟩
  · split at closes
    · exact .inr (.inl ⟨‹_›, (Option.some.inj closes).symm⟩)
    · split at closes
      · exact .inr (.inr ⟨‹_›, (Option.some.inj closes).symm⟩)
      · cases closes

theorem step_closing {opening : Char} {opened : List Char} (outside : s.quoting = .outside)
    (closes : opening? c = some opening) (innermost : s.opened = opening :: opened) :
    s.step c = .ok { s with opened, atStart := false, piece := c :: s.piece } := by
  rcases closing_cases closes with ⟨rfl, rfl⟩ | ⟨rfl, rfl⟩ | ⟨rfl, rfl⟩
  all_goals simp [Scan.step, outside, innermost, opening?, isOpening, startAfter, Text.isBlank,
    Text.blanks, Text.CodeRanges.has, startsToken]

theorem step_closing_error {opening : Char} (outside : s.quoting = .outside)
    (closes : opening? c = some opening) (other : s.opened.head? ≠ some opening) :
    s.step c = .error (.unbalanced c) := by
  have not_quote : (c = '"' || c = '\'') = false := by
    rcases closing_cases closes with ⟨rfl, -⟩ | ⟨rfl, -⟩ | ⟨rfl, -⟩ <;> decide
  have not_opening : isOpening c = false := by
    rcases closing_cases closes with ⟨rfl, -⟩ | ⟨rfl, -⟩ | ⟨rfl, -⟩ <;> decide
  cases opened : s.opened with
  | nil => simp [Scan.step, outside, not_quote, not_opening, closes, opened]
  | cons innermost more =>
      have another : innermost ≠ opening := by
        intro same
        rw [opened, same] at other
        exact other rfl
      simp [Scan.step, outside, not_quote, not_opening, closes, opened, another]

theorem step_nested_comma (outside : s.quoting = .outside) (nested : s.opened ≠ []) :
    s.step ',' = .ok { s with atStart := true, piece := ',' :: s.piece } := by
  simp [Scan.step, outside, nested, opening?, isOpening, startAfter, Text.isBlank, Text.blanks,
    Text.CodeRanges.has, startsToken]

theorem step_comma (outside : s.quoting = .outside) (unnested : s.opened = []) :
    s.step ',' = .ok { s with atStart := true, piece := [], pieces := s.piece.reverse :: s.pieces } := by
  simp [Scan.step, outside, unnested, opening?, isOpening, startAfter, Text.isBlank, Text.blanks,
    Text.CodeRanges.has, startsToken]

/-! ### A comma outside brackets -/

/-- The same state with pieces before all others. -/
def Scan.onto (s : Scan) (earlier : List (List Char)) : Scan := { s with pieces := s.pieces ++ earlier }

/-- Reading does not look at the pieces it has cut. -/
theorem step_onto (s : Scan) (c : Char) (earlier : List (List Char)) :
    (s.onto earlier).step c = (s.step c).map (Scan.onto · earlier) := by
  obtain ⟨quoting, opened, atStart, piece, pieces⟩ := s
  cases quoting with
  | inside quote => rfl
  | escaped quote => rfl
  | outside =>
      change Scan.step ⟨.outside, opened, atStart, piece, pieces ++ earlier⟩ c = _
      unfold Scan.step
      by_cases quotes : (atStart && (c = '"' || c = '\'')) = true
      · rw [if_pos quotes, if_pos quotes]
        rfl
      · rw [if_neg quotes, if_neg quotes]
        by_cases opens : isOpening c = true
        · rw [if_pos opens, if_pos opens]
          rfl
        · rw [if_neg opens, if_neg opens]
          cases opening? c with
          | none =>
              dsimp only
              split <;> rfl
          | some opening =>
              cases opened with
              | nil => rfl
              | cons innermost opened =>
                  dsimp only
                  split <;> rfl

theorem run_onto (s : Scan) (text : List Char) (earlier : List (List Char)) :
    (s.onto earlier).run text = (s.run text).map (Scan.onto · earlier) := by
  induction text generalizing s with
  | nil => rfl
  | cons c text ih =>
      rw [Scan.run, Scan.run, step_onto]
      cases s.step c with
      | error fault => rfl
      | ok next => exact ih next

theorem finish_onto (s : Scan) (earlier : List (List Char)) :
    (s.onto earlier).finish = s.finish.map (earlier.reverse ++ ·) := by
  obtain ⟨quoting, opened, atStart, piece, pieces⟩ := s
  cases quoting with
  | inside quote => rfl
  | escaped quote => rfl
  | outside =>
      cases opened with
      | cons opening opened => rfl
      | nil => simp [Scan.finish, Scan.onto, Except.map]

theorem finish_eq_ok {pieces : List (List Char)} (finished : s.finish = .ok pieces) :
    s.quoting = .outside ∧ s.opened = [] ∧ pieces = (s.piece.reverse :: s.pieces).reverse := by
  unfold Scan.finish at finished
  split at finished
  · cases finished
  · cases finished
  next outside =>
    split at finished
    · cases finished
    next unnested =>
      cases finished
      exact ⟨outside, unnested, rfl⟩

/-- After a list that can be cut and a comma the reading starts anew, with the pieces so far before all others. -/
theorem run_comma {pieces : List (List Char)} (cut : split text = .ok pieces) :
    ∃ earlier, pieces = (earlier.reverse.map Text.trim).filter (fun piece => !piece.isEmpty) ∧
      ∀ rest, Scan.run {} (text ++ ',' :: rest) = (Scan.run {} rest).map (Scan.onto · earlier) := by
  unfold split at cut
  split at cut
  · cases cut
  next s read =>
    generalize finished : s.finish = ending at cut
    cases ending with
    | error fault => cases cut
    | ok whole =>
        cases cut
        obtain ⟨outside, unnested, rfl⟩ := finish_eq_ok finished
        refine ⟨s.piece.reverse :: s.pieces, rfl, fun rest => ?_⟩
        have anew : s.step ',' = .ok (Scan.onto {} (s.piece.reverse :: s.pieces)) := by
          rw [step_comma outside unnested]
          simp [Scan.onto, outside, unnested]
        rw [run_append read, run_cons anew, run_onto]

/-- A list that can be cut, a comma and another list are cut into the pieces of both. -/
theorem split_comma {pieces : List (List Char)} (cut : split text = .ok pieces) (rest : List Char) :
    split (text ++ ',' :: rest) = (split rest).map (pieces ++ ·) := by
  obtain ⟨earlier, rfl, read⟩ := run_comma cut
  unfold split
  rw [read]
  cases Scan.run {} rest with
  | error fault => rfl
  | ok t =>
      simp only [Except.map, finish_onto]
      cases t.finish with
      | error fault => rfl
      | ok more => simp only [List.map_append, List.filter_append]

/-! ### Texts that are passed over -/

/-- The state after a text that has been passed over. -/
def Scan.past (s : Scan) (text : List Char) (atStart : Bool) : Scan :=
  { s with atStart, piece := text.reverse ++ s.piece }

/-- Reading the text outside quotes closes all that it opens and cuts nothing.  It is read at the start of a
token if `fresh`, and inside a bracket if `nested`. -/
def Passes (fresh nested : Bool) (text : List Char) : Prop :=
  ∀ s : Scan, s.quoting = .outside → (fresh = true → s.atStart = true) →
    (nested = true → s.opened ≠ []) → ∃ atStart, s.run text = .ok (s.past text atStart)

variable {fresh nested : Bool} {a b gap : List Char}

theorem Passes.nil : Passes fresh nested [] := fun s _ _ _ => ⟨s.atStart, rfl⟩

/-- What is passed over anywhere is passed over at the start of a token and inside a bracket. -/
theorem Passes.mono {fresh' nested' : Bool} (h : Passes fresh nested text)
    (fresh_le : fresh = true → fresh' = true) (nested_le : nested = true → nested' = true) :
    Passes fresh' nested' text := by
  intro s outside start inside
  exact h s outside (fun is_fresh => start (fresh_le is_fresh))
    (fun is_nested => inside (nested_le is_nested))

theorem Passes.append (first : Passes fresh nested a) (second : Passes false nested b) :
    Passes fresh nested (a ++ b) := by
  intro s outside start inside
  obtain ⟨between, read⟩ := first s outside start inside
  obtain ⟨after, read_on⟩ := second (s.past a between) outside nofun inside
  refine ⟨after, ?_⟩
  rw [run_append read, read_on]
  simp [Scan.past]

/-- A text that is passed over and is not blank is one piece. -/
theorem Passes.split_eq (h : Passes true false text) (filled : Text.trim text ≠ []) :
    split text = .ok [Text.trim text] := by
  obtain ⟨atStart, read⟩ := h {} rfl (fun _ => rfl) nofun
  simp [split, read, Scan.past, Scan.finish, Except.map, filled]

/-- A plain character is passed over, and leaves the start of a token behind or not. -/
theorem Passes.after_plain (h : Passes fresh nested text) (plain : isPlain c = true)
    (start : fresh = true → ∀ before, startAfter before c = true) :
    Passes false nested (c :: text) := by
  intro s outside _ inside
  obtain ⟨after, read⟩ := h { s with atStart := startAfter s.atStart c, piece := c :: s.piece } outside
    (fun is_fresh => start is_fresh s.atStart) inside
  refine ⟨after, ?_⟩
  rw [run_cons (step_plain outside plain), read]
  simp [Scan.past]

theorem passes_plain (plain : ∀ c ∈ text, isPlain c = true) : Passes false false text := by
  induction text with
  | nil => exact .nil
  | cons c text ih =>
      have rest_passes := ih fun other member => plain other (List.mem_cons_of_mem _ member)
      exact rest_passes.after_plain (plain c List.mem_cons_self) nofun

/-- Blanks that are plain leave the start of a token where it is. -/
theorem Passes.after_gap (plain : ∀ c ∈ gap, isPlain c = true) (blank : ∀ c ∈ gap, Text.isBlank c = true)
    (h : Passes fresh nested text) : Passes fresh nested (gap ++ text) := by
  induction gap with
  | nil => exact h
  | cons c gap ih =>
      have rest_passes := ih (fun other member => plain other (List.mem_cons_of_mem _ member))
        (fun other member => blank other (List.mem_cons_of_mem _ member))
      intro s outside start inside
      have same_start : startAfter s.atStart c = s.atStart := by
        rw [startAfter, if_pos (blank c List.mem_cons_self)]
      obtain ⟨after, read⟩ := rest_passes { s with piece := c :: s.piece } outside start inside
      refine ⟨after, ?_⟩
      rw [List.cons_append, run_cons (step_plain outside (plain c List.mem_cons_self)), same_start, read]
      simp [Scan.past]

/-- Inside brackets, a comma is passed over, and a token starts after it. -/
theorem Passes.after_comma (h : Passes fresh true text) : Passes false true (',' :: text) := by
  intro s outside _ inside
  obtain ⟨after, read⟩ := h { s with atStart := true, piece := ',' :: s.piece } outside
    (fun _ => rfl) inside
  refine ⟨after, ?_⟩
  rw [run_cons (step_nested_comma outside (inside rfl)), read]
  simp [Scan.past]

/-- A bracketed text is passed over if what it holds is. -/
theorem Passes.bracketed {opening close : Char} (opens : isOpening opening = true)
    (closes : opening? close = some opening) (h : Passes true true text) :
    Passes false false (opening :: text ++ [close]) := by
  intro s outside _ _
  let opened : Scan :=
    { s with opened := opening :: s.opened, atStart := true, piece := opening :: s.piece }
  obtain ⟨before, read⟩ := h opened outside (fun _ => rfl) (fun _ => List.cons_ne_nil _ _)
  refine ⟨false, ?_⟩
  have closed : (opened.past text before).step close = .ok
      { opened.past text before with
        opened := s.opened, atStart := false, piece := close :: (opened.past text before).piece } :=
    step_closing outside closes rfl
  rw [List.cons_append, run_cons (step_opening outside opens), run_append read, run_cons closed]
  simp [Scan.run, Scan.past, opened]

end CallScript.Segment
