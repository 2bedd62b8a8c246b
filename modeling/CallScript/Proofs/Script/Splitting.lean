import CallScript.Proofs.Script.Passage

/-! # Parameter lists side by side

A comma outside brackets and quotes starts the cutting anew, whatever stands before it: a list that can be cut,
a comma and any other list are cut into the pieces of the one and those of the other, or not at all if the other
cannot be cut.  A piece is a list by itself, and the pieces with commas between them are cut where they were put
together.

What becomes of a character depends on the quotes and brackets that are open, not on what the pieces hold
(`step_cases`).  So blanks around a piece make no difference to it (`run_trimmed`), and what was read since the
last comma is read alike from the start (`Reached`).

* `split_trim`: blanks around a list do not matter.
* `split_piece`: a piece is a list by itself, and stands in the text.
* `split_intercalate`: pieces with commas between them.
* `splitting_is_homomorphic`: all of this together. -/

namespace CallScript.Segment

variable {s t : Scan} {c : Char} {text before rest gap piece : List Char} {pieces more : List (List Char)}
  {fault : Fault}

/-! ### One character -/

/-- The quote that closes the text around a position. -/
def Quoting.closing? : Quoting → Option Char
  | .outside => none
  | .inside quote | .escaped quote => some quote

/-- A character cuts, or it is a fault, or it is added to the current piece.  Which of these it is depends
neither on the current piece nor on those before it, and a quoted text starts at a quote only. -/
theorem step_cases (s : Scan) (c : Char) :
    (s.quoting = .outside ∧ s.opened = [] ∧ c = ',') ∨
    (∃ fault, ∀ piece pieces, Scan.step { s with piece, pieces } c = .error fault) ∨
    ∃ quoting opened atStart,
      (∀ quote ∈ quoting.closing?, quote ∈ s.quoting.closing? ∨ quote = '"' ∨ quote = '\'') ∧
        ∀ piece pieces, Scan.step { s with piece, pieces } c =
          .ok ⟨quoting, opened, atStart, c :: piece, pieces⟩ := by
  obtain ⟨quoting, opened, atStart, piece, pieces⟩ := s
  cases quoting with
  | escaped quote => exact .inr (.inr ⟨.inside quote, _, _, fun _ closes => .inl closes, fun _ _ => rfl⟩)
  | inside quote =>
      refine .inr (.inr ⟨_, _, _, ?_, fun _ _ => rfl⟩)
      intro other closes
      split at closes
      · exact .inl closes
      · split at closes
        · cases closes
        · exact .inl closes
  | outside =>
      unfold Scan.step
      dsimp only
      by_cases quotes : (atStart && (c = '"' || c = '\'')) = true
      · simp only [if_pos quotes]
        refine .inr (.inr ⟨.inside c, _, _, ?_, fun _ _ => rfl⟩)
        intro other closes
        cases closes
        have one_of : c = '"' ∨ c = '\'' := by simpa using (Bool.and_eq_true_iff.mp quotes).2
        exact .inr one_of
      simp only [if_neg quotes]
      by_cases opens : isOpening c = true
      · simp only [if_pos opens]
        exact .inr (.inr ⟨.outside, _, _, nofun, fun _ _ => rfl⟩)
      simp only [if_neg opens]
      cases opening? c with
      | some opening =>
          cases opened with
          | nil => exact .inr (.inl ⟨_, fun _ _ => rfl⟩)
          | cons innermost opened =>
              dsimp only
              by_cases same : innermost = opening
              · simp only [if_pos same]
                exact .inr (.inr ⟨.outside, _, _, nofun, fun _ _ => rfl⟩)
              · simp only [if_neg same]
                exact .inr (.inl ⟨_, fun _ _ => rfl⟩)
      | none =>
          dsimp only
          by_cases cuts : (c = ',' && opened.isEmpty) = true
          · have comma : c = ',' ∧ opened = [] := by simpa using cuts
            exact .inl ⟨trivial, comma.2, comma.1⟩
          · simp only [if_neg cuts]
            exact .inr (.inr ⟨.outside, _, _, nofun, fun _ _ => rfl⟩)

/-! ### Blanks around pieces -/

/-- The pieces without blanks around them, and without those that are empty then. -/
def kept (pieces : List (List Char)) : List (List Char) :=
  (pieces.map Text.trim).filter fun piece => !piece.isEmpty

/-- The state without blanks around the pieces before the current one, and in front of that one. -/
def Scan.trimmed (s : Scan) : Scan :=
  { s with piece := (Text.trimStart s.piece.reverse).reverse, pieces := s.pieces.map Text.trim }

/-- The cutting does not look at the blanks around pieces. -/
theorem step_trimmed (s : Scan) (c : Char) :
    (s.trimmed.step c).map Scan.trimmed = (s.step c).map Scan.trimmed := by
  rcases step_cases s c with ⟨outside, unnested, rfl⟩ | ⟨fault, refused⟩ | ⟨quoting, opened, atStart, -, added⟩
  · rw [step_comma outside unnested, step_comma (s := s.trimmed) outside unnested]
    simp [Scan.trimmed, Except.map]
  · have refused_trimmed : s.trimmed.step c = .error fault := refused _ _
    have refused_here : s.step c = .error fault := refused s.piece s.pieces
    rw [refused_trimmed, refused_here]
  · have added_trimmed : s.trimmed.step c = .ok ⟨quoting, opened, atStart, c :: _, _⟩ := added _ _
    have added_here : s.step c = .ok ⟨quoting, opened, atStart, c :: s.piece, s.pieces⟩ := added s.piece s.pieces
    rw [added_trimmed, added_here]
    simp [Scan.trimmed, Except.map]

theorem run_trimmed (s : Scan) (text : List Char) :
    (s.trimmed.run text).map Scan.trimmed = (s.run text).map Scan.trimmed := by
  induction text generalizing s with
  | nil =>
      have twice : s.trimmed.trimmed = s.trimmed := by
        have start := Text.trimStart_trimStart_append s.piece.reverse []
        rw [List.append_nil, List.append_nil] at start
        simp [Scan.trimmed, start]
      exact congrArg Except.ok twice
  | cons c text ih =>
      have stepped := step_trimmed s c
      rw [Scan.run, Scan.run]
      cases here : s.step c with
      | error fault =>
          cases there : s.trimmed.step c with
          | error fault' =>
              rw [here, there] at stepped
              cases stepped
              rfl
          | ok t =>
              rw [here, there] at stepped
              cases stepped
      | ok t =>
          cases there : s.trimmed.step c with
          | error fault =>
              rw [here, there] at stepped
              cases stepped
          | ok t' =>
              rw [here, there] at stepped
              have same : t'.trimmed = t.trimmed := Except.ok.inj stepped
              change (t'.run text).map Scan.trimmed = (t.run text).map Scan.trimmed
              rw [← ih t', same, ih t]

theorem split_eq_bind (text : List Char) : split text =
    ((Scan.run {} text).map Scan.trimmed).bind fun s => s.finish.map kept := by
  have finish_trimmed (s : Scan) : s.trimmed.finish.map kept = s.finish.map kept := by
    obtain ⟨quoting, opened, atStart, piece, pieces⟩ := s
    cases quoting with
    | inside quote => rfl
    | escaped quote => rfl
    | outside =>
        cases opened with
        | cons opening opened => rfl
        | nil =>
            have twice : Text.trim ∘ Text.trim = Text.trim := funext Text.trim_trim
            simp [Scan.finish, Scan.trimmed, Except.map, kept, twice]
  unfold split
  cases Scan.run {} text with
  | error fault => rfl
  | ok s => exact (finish_trimmed s).symm

theorem split_of_run (read : Scan.run {} text = .ok s) : split text = s.finish.map kept := by
  unfold split
  rw [read]
  rfl

theorem split_of_run_error (failed : Scan.run {} text = .error fault) : split text = .error fault := by
  unfold split
  rw [failed]

/-! ### Blanks around a list -/

/-- The position inside quotes after a character that neither opens nor escapes nor closes. -/
def Quoting.settled : Quoting → Quoting
  | .outside => .outside
  | .inside quote | .escaped quote => .inside quote

@[simp] theorem settled_settled (quoting : Quoting) : quoting.settled.settled = quoting.settled := by
  cases quoting <;> rfl

@[simp] theorem closing?_settled (quoting : Quoting) : quoting.settled.closing? = quoting.closing? := by
  cases quoting <;> rfl

theorem step_blank (blank : Text.isBlank c = true)
    (quotes : ∀ quote ∈ s.quoting.closing?, Text.isBlank quote = false) :
    s.step c = .ok { s with quoting := s.quoting.settled, piece := c :: s.piece } := by
  obtain ⟨quoting, opened, atStart, piece, pieces⟩ := s
  cases quoting with
  | outside =>
      rw [step_plain rfl (Literal.isPlain_of (by decide) blank), startAfter, if_pos blank]
      rfl
  | inside quote =>
      have no_quote : c ≠ quote := by
        rintro rfl
        rw [quotes c rfl] at blank
        cases blank
      have no_escape : c ≠ '\\' := by
        rintro rfl
        cases blank
      simp [Scan.step, no_quote, no_escape, Quoting.settled]
  | escaped quote => rfl

theorem run_blank (blank : ∀ c ∈ gap, Text.isBlank c = true)
    (quotes : ∀ quote ∈ s.quoting.closing?, Text.isBlank quote = false) :
    ∃ quoting, (quoting = s.quoting ∨ quoting = s.quoting.settled) ∧
      s.run gap = .ok { s with quoting, piece := gap.reverse ++ s.piece } := by
  induction gap generalizing s with
  | nil => exact ⟨s.quoting, .inl rfl, rfl⟩
  | cons c gap ih =>
      have stepped := step_blank (blank c List.mem_cons_self) quotes
      obtain ⟨last, last_eq, read⟩ := ih (s := { s with quoting := s.quoting.settled, piece := c :: s.piece })
        (fun other member => blank other (List.mem_cons_of_mem _ member)) (by simpa using quotes)
      refine ⟨last, .inr (by simpa using last_eq), ?_⟩
      rw [run_cons stepped, read]
      simp

theorem split_blank_append (blank : ∀ c ∈ gap, Text.isBlank c = true) (text : List Char) :
    split (gap ++ text) = split text := by
  obtain ⟨quoting, settles, read⟩ := run_blank (s := {}) blank nofun
  have outside : quoting = .outside := by rcases settles with rfl | rfl <;> rfl
  have nothing : Text.trimStart gap = [] := List.dropWhile_eq_nil_iff.mpr blank
  have trimmed : Scan.trimmed { quoting, piece := gap.reverse ++ [] } = Scan.trimmed {} := by
    simp [Scan.trimmed, outside, nothing]
    rfl
  rw [split_eq_bind, split_eq_bind, run_append read, ← run_trimmed, trimmed, run_trimmed]

/-! ### What has been cut -/

/-- What the state after a text comes from: the current piece is read from the start like any list, and so
was each piece before it. -/
structure Reached (text : List Char) (s : Scan) : Prop where
  current : Scan.run {} s.piece.reverse = .ok { s with pieces := [] }
  earlier : ∀ piece ∈ s.pieces, split piece = .ok (kept [piece])
  current_suffix : s.piece.reverse <:+ text
  earlier_infix : ∀ piece ∈ s.pieces, piece <:+: text
  quotes : ∀ quote ∈ s.quoting.closing?, Text.isBlank quote = false

theorem Reached.start : Reached [] {} where
  current := rfl
  earlier := nofun
  current_suffix := List.nil_suffix
  earlier_infix := nofun
  quotes := nofun

/-- A piece that ends outside quotes and brackets is a list by itself. -/
theorem Reached.split_current (h : Reached text s) (outside : s.quoting = .outside) (unnested : s.opened = []) :
    split s.piece.reverse = .ok (kept [s.piece.reverse]) := by
  rw [split_of_run h.current]
  simp [Scan.finish, outside, unnested, Except.map]

theorem Reached.step (h : Reached text s) (stepped : s.step c = .ok t) : Reached (text ++ [c]) t := by
  have longer : s.piece.reverse ++ [c] <:+ text ++ [c] := by
    obtain ⟨front, rfl⟩ := h.current_suffix
    exact ⟨front, (List.append_assoc ..).symm⟩
  have earlier_infix : ∀ piece ∈ s.pieces, piece <:+: text ++ [c] :=
    fun piece member => (h.earlier_infix piece member).trans (List.infix_append' [] text [c])
  rcases step_cases s c with ⟨outside, unnested, rfl⟩ | ⟨fault, refused⟩ | ⟨quoting, opened, atStart, quotes, added⟩
  · rw [step_comma outside unnested] at stepped
    cases stepped
    refine ⟨?_, ?_, List.nil_suffix, ?_, ?_⟩
    · simp only [outside, unnested]
      rfl
    · exact List.forall_mem_cons.mpr ⟨h.split_current outside unnested, h.earlier⟩
    · exact List.forall_mem_cons.mpr
        ⟨h.current_suffix.isInfix.trans (List.infix_append' [] text [',']), earlier_infix⟩
    · simp only [outside]
      nofun
  · have refused_here : s.step c = .error fault := refused s.piece s.pieces
    rw [refused_here] at stepped
    cases stepped
  · have added_here : s.step c = .ok ⟨quoting, opened, atStart, c :: s.piece, s.pieces⟩ := added s.piece s.pieces
    rw [added_here] at stepped
    cases stepped
    have added_alone : Scan.step { s with pieces := [] } c = .ok ⟨quoting, opened, atStart, c :: s.piece, []⟩ :=
      added s.piece []
    refine ⟨?_, h.earlier, ?_, earlier_infix, ?_⟩
    · rw [List.reverse_cons, run_append h.current, run_cons added_alone]
      rfl
    · rw [List.reverse_cons]
      exact longer
    · intro quote closes
      rcases quotes quote closes with before | rfl | rfl
      · exact h.quotes quote before
      · decide
      · decide

theorem Reached.run (h : Reached before s) (read : s.run text = .ok t) : Reached (before ++ text) t := by
  induction text generalizing before s with
  | nil =>
      cases read
      rwa [List.append_nil]
  | cons c text ih =>
      rw [Scan.run] at read
      split at read
      · cases read
      next next stepped =>
        have after := ih (h.step stepped) read
        rwa [List.append_assoc] at after

theorem reached (read : Scan.run {} text = .ok s) : Reached text s := Reached.start.run read

theorem run_append_error (failed : s.run text = .error fault) : s.run (text ++ rest) = .error fault := by
  induction text generalizing s with
  | nil => cases failed
  | cons c text ih =>
      rw [Scan.run] at failed
      rw [List.cons_append, Scan.run]
      split at failed
      · exact failed
      · exact ih failed

theorem split_append_blank (blank : ∀ c ∈ gap, Text.isBlank c = true) (text : List Char) :
    split (text ++ gap) = split text := by
  cases read : Scan.run {} text with
  | error fault => rw [split_of_run_error read, split_of_run_error (run_append_error read)]
  | ok s =>
      obtain ⟨after, settles, read_gap⟩ := run_blank blank (reached read).quotes
      rw [split_of_run read, split_of_run ((run_append read).trans read_gap)]
      -- Inside quotes the blanks do not close them, and outside they stand behind the last piece.
      obtain ⟨quoting, opened, atStart, piece, pieces⟩ := s
      cases quoting with
      | outside =>
          have outside : after = .outside := by rcases settles with rfl | rfl <;> rfl
          cases opened with
          | cons opening opened =>
              rw [outside]
              rfl
          | nil => simp [outside, Scan.finish, Except.map, kept, Text.trim_append_blank blank]
      | inside quote => rcases settles with rfl | rfl <;> rfl
      | escaped quote => rcases settles with rfl | rfl <;> rfl

/-- Blanks around a list do not matter. -/
theorem split_trim (text : List Char) : split (Text.trim text) = split text := by
  obtain ⟨gap, gap', text_eq, blank, blank'⟩ := Text.exists_gaps text
  calc split (Text.trim text) = split (gap ++ (Text.trim text ++ gap')) := by
        rw [split_blank_append blank, split_append_blank blank']
    _ = split text := by rw [← text_eq]

/-! ### Pieces -/

/-- A piece stands in the list, is not empty and has no blanks around it, and is a list of one piece. -/
theorem split_piece (cut : split text = .ok pieces) (member : piece ∈ pieces) :
    piece <:+: text ∧ piece ≠ [] ∧ Text.trim piece = piece ∧ split piece = .ok [piece] := by
  cases read : Scan.run {} text with
  | error fault =>
      rw [split_of_run_error read] at cut
      cases cut
  | ok s =>
      have h := reached read
      rw [split_of_run read] at cut
      generalize finished : s.finish = ending at cut
      cases ending with
      | error fault => cases cut
      | ok all =>
          cases cut
          obtain ⟨outside, unnested, rfl⟩ := finish_eq_ok finished
          obtain ⟨listed, filled⟩ := List.mem_filter.mp member
          obtain ⟨written, written_member, rfl⟩ := List.mem_map.mp listed
          have filled : Text.trim written ≠ [] := by simpa using filled
          obtain ⟨stands, whole⟩ : written <:+: text ∧ split written = .ok (kept [written]) := by
            rcases List.mem_cons.mp (List.mem_reverse.mp written_member) with rfl | earlier
            · exact ⟨h.current_suffix.isInfix, h.split_current outside unnested⟩
            · exact ⟨h.earlier_infix written earlier, h.earlier written earlier⟩
          refine ⟨(Text.trim_infix written).trans stands, filled, Text.trim_trim written, ?_⟩
          rw [split_trim, whole]
          simp [kept, filled]

/-- Lists of one piece each, with commas and blanks between them, are cut where they were put together. -/
theorem split_intercalate {texts : List (List Char)} (blank : ∀ c ∈ gap, Text.isBlank c = true)
    (each : List.Forall₂ (fun text piece => split text = .ok [piece]) texts pieces) :
    split ((',' :: gap).intercalate texts) = .ok pieces := by
  induction each with
  | nil => rfl
  | @cons text piece texts pieces first others ih =>
      cases texts with
      | nil =>
          cases others
          simpa using first
      | cons next texts =>
          have cut := split_comma first (gap ++ (',' :: gap).intercalate (next :: texts))
          rw [split_blank_append blank, ih] at cut
          rw [List.intercalate_cons_cons, List.append_assoc]
          exact cut

/-- A list that can be cut, a comma and another list are cut into the pieces of both, or fail as the other list
does; each piece is a list of itself, with no blanks around it; and the pieces with commas between them are
cut into the same pieces. -/
theorem splitting_is_homomorphic (cut : split text = .ok pieces) :
    (∀ rest more, split rest = .ok more → split (text ++ ',' :: rest) = .ok (pieces ++ more)) ∧
      (∀ rest fault, split rest = .error fault → split (text ++ ',' :: rest) = .error fault) ∧
      (∀ piece ∈ pieces, piece ≠ [] ∧ Text.trim piece = piece ∧ split piece = .ok [piece]) ∧
      split ([','].intercalate pieces) = .ok pieces := by
  refine ⟨fun rest more cut_rest => ?_, fun rest fault failed => ?_,
    fun piece member => (split_piece cut member).2,
    split_intercalate nofun (List.forall₂_same.mpr fun piece member => ?_)⟩
  · rw [split_comma cut, cut_rest]
    rfl
  · rw [split_comma cut, failed]
    rfl
  · exact (split_piece cut member).2.2.2

/-- A list with commas inside quotes and brackets, an escaped quote, and an empty piece, in front of an
apostrophe that opens nothing and in front of a bracket that closes nothing. -/
theorem splitting_quotes_and_brackets :
    let text := " say='a, \\' b' ,, at=[1, (2)] ,".toList
    let pieces := ["say='a, \\' b'".toList, "at=[1, (2)]".toList]
    split text = .ok pieces ∧
      split (text ++ ',' :: "it=it's".toList) = .ok (pieces ++ ["it=it's".toList]) ∧
      split (text ++ ',' :: "x=1)".toList) = .error (.unbalanced ')') ∧
      (∀ piece ∈ pieces, piece ≠ [] ∧ Text.trim piece = piece ∧ split piece = .ok [piece]) ∧
      split ([','].intercalate pieces) = .ok pieces := by
  intro text pieces
  have cut : split text = .ok pieces := by decide +kernel
  obtain ⟨joined, failed, each, again⟩ := splitting_is_homomorphic cut
  exact ⟨cut, joined _ _ (by decide +kernel), failed _ _ (by decide +kernel), each, again⟩

end CallScript.Segment
