import CallScript.Proofs.Script.Parameters

/-! # The surface form of a call

A call may be written with blanks, bullets, a namespace and a tag around its name, with `:` for `=` and blanks
around either, and with a comma behind its last parameter.  None of this is part of what it says.

A separator is added to the current piece whatever it is, and a token starts after it (`run_separation`).  What
follows is cut without a look at the piece that it is in (`run_behind`), so two spellings of a separator give the
same pieces but for the spelling, and a piece is cut into key and value at its first separator, whatever stands
around it.

* `split_separation`: a parameter list with its separators spelled in another way.
* `surface_form_is_irrelevant`: a line in any form is read as the plain call. -/

namespace CallScript

namespace Segment

variable {s t : Scan} {c : Char} {text left before after separation : List Char}
  {pieces : List (List Char)} {key raw : List Char}

/-! ### What the first piece starts with -/

/-- The same state with more in front of the first piece. -/
def Scan.behind (s : Scan) (front : List Char) : Scan :=
  match s.pieces.reverse with
  | [] => { s with piece := s.piece ++ front.reverse }
  | first :: others => { s with pieces := ((front ++ first) :: others).reverse }

theorem pieces_behind (s : Scan) (front : List Char) :
    (s.behind front).pieces.reverse = s.pieces.reverse.modifyHead (front ++ ·) := by
  unfold Scan.behind
  split
  next none => simp_all
  next some => simp [some]

/-- What stands before the first piece changes neither what is added to the current piece nor where it is cut. -/
theorem exists_behind (s : Scan) (front : List Char) :
    ∃ piece pieces, s.behind front = { s with piece, pieces } ∧
      (∀ quoting opened atStart c, Scan.behind ⟨quoting, opened, atStart, c :: s.piece, s.pieces⟩ front =
        ⟨quoting, opened, atStart, c :: piece, pieces⟩) ∧
      ∀ quoting opened atStart, Scan.behind ⟨quoting, opened, atStart, [], s.piece.reverse :: s.pieces⟩ front =
        ⟨quoting, opened, atStart, [], piece.reverse :: pieces⟩ := by
  obtain ⟨quoting, opened, atStart, piece, pieces⟩ := s
  rcases List.eq_nil_or_concat pieces with rfl | ⟨others, first, rfl⟩
  · exact ⟨piece ++ front.reverse, [], rfl, fun _ _ _ _ => rfl, fun _ _ _ => by simp [Scan.behind]⟩
  · exact ⟨piece, others ++ [front ++ first], by simp [Scan.behind], fun _ _ _ _ => by simp [Scan.behind],
      fun _ _ _ => by simp [Scan.behind]⟩

theorem step_behind (s : Scan) (c : Char) (front : List Char) :
    (s.behind front).step c = (s.step c).map (Scan.behind · front) := by
  obtain ⟨piece, pieces, behind_eq, behind_added, behind_cut⟩ := exists_behind s front
  rw [behind_eq]
  rcases step_cases s c with ⟨outside, unnested, rfl⟩ | ⟨fault, refused⟩ | ⟨quoting, opened, atStart, -, added⟩
  · rw [step_comma outside unnested, step_comma (by exact outside) (by exact unnested), Except.map, behind_cut]
  · have refused_here : s.step c = .error fault := refused s.piece s.pieces
    rw [refused_here, refused piece pieces]
    rfl
  · have added_here : s.step c = .ok ⟨quoting, opened, atStart, c :: s.piece, s.pieces⟩ := added s.piece s.pieces
    rw [added_here, added piece pieces, Except.map, behind_added]

theorem run_behind (s : Scan) (text front : List Char) :
    (s.behind front).run text = (s.run text).map (Scan.behind · front) := by
  induction text generalizing s with
  | nil => rfl
  | cons c text ih =>
      rw [Scan.run, Scan.run, step_behind]
      cases s.step c with
      | error fault => rfl
      | ok next => exact ih next

theorem finish_behind (s : Scan) (front : List Char) :
    (s.behind front).finish = s.finish.map (List.modifyHead (front ++ ·)) := by
  obtain ⟨quoting, opened, atStart, piece, pieces⟩ := s
  obtain ⟨piece', pieces', behind_eq, -, behind_cut⟩ := exists_behind ⟨quoting, opened, atStart, piece, pieces⟩ front
  rw [behind_eq]
  cases quoting with
  | inside quote => rfl
  | escaped quote => rfl
  | outside =>
      cases opened with
      | cons opening opened => rfl
      | nil =>
          have ordered := pieces_behind ⟨.outside, [], atStart, [], piece.reverse :: pieces⟩ front
          rw [behind_cut] at ordered
          exact congrArg Except.ok ordered

/-! ### Separators -/

/-- A separator with blanks around it. -/
inductive IsSeparation : List Char → Prop
  | mk {gap gap' : List Char} {c : Char} (blank : ∀ d ∈ gap, Text.isBlank d = true) (separates : isSeparator c = true)
      (blank' : ∀ d ∈ gap', Text.isBlank d = true) : IsSeparation (gap ++ c :: gap')

/-- A separator adds to the current piece, inside quotes and outside, where a token starts after it. -/
theorem step_separator (separates : isSeparator c = true)
    (quotes : ∀ quote ∈ s.quoting.closing?, quote = '"' ∨ quote = '\'') :
    s.step c = .ok { s with
      quoting := s.quoting.settled, atStart := s.atStart || s.quoting.closing?.isNone, piece := c :: s.piece } := by
  obtain ⟨quoting, opened, atStart, piece, pieces⟩ := s
  cases quoting with
  | outside =>
      have starts (before : Bool) : startAfter before c = true := by
        rcases isSeparator_cases separates with rfl | rfl <;> rfl
      rw [step_plain rfl (Literal.isPlain_of (by decide) separates), starts]
      simp [Quoting.settled, Quoting.closing?]
  | inside quote =>
      have no_quote : c ≠ quote := by
        rintro rfl
        rcases quotes c rfl with rfl | rfl <;> cases separates
      have no_escape : c ≠ '\\' := by
        rintro rfl
        cases separates
      simp [Scan.step, no_quote, no_escape, Quoting.settled, Quoting.closing?]
  | escaped quote => simp [Scan.step, Quoting.settled, Quoting.closing?]

/-- The state after a separator, without what stands before it. -/
def Scan.separated (s : Scan) : Scan where
  quoting := s.quoting.settled
  opened := s.opened
  atStart := s.atStart || s.quoting.closing?.isNone

/-- After a separator the reading is the same whatever the separator was, but for the piece that it is in. -/
theorem run_separation (h : IsSeparation separation)
    (quotes : ∀ quote ∈ s.quoting.closing?, quote = '"' ∨ quote = '\'') (right : List Char) :
    s.run (separation ++ right) =
      (s.separated.run right).map fun t => (t.behind (s.piece.reverse ++ separation)).onto s.pieces := by
  obtain @⟨gap, gap', c, blank, separates, blank'⟩ := h
  have not_blank : ∀ quote ∈ s.quoting.closing?, Text.isBlank quote = false := by
    intro quote closes
    rcases quotes quote closes with rfl | rfl <;> decide
  obtain ⟨before, before_eq, read⟩ := run_blank blank not_blank
  have closing_eq : before.closing? = s.quoting.closing? := by rcases before_eq with rfl | rfl <;> simp
  have settled_eq : before.settled = s.quoting.settled := by rcases before_eq with rfl | rfl <;> simp
  have stepped := step_separator (s := { s with quoting := before, piece := gap.reverse ++ s.piece }) separates
    (by rwa [closing_eq])
  simp only [closing_eq, settled_eq] at stepped
  obtain ⟨after, after_eq, read'⟩ := run_blank blank' (s := { s with
    quoting := s.quoting.settled, atStart := s.atStart || s.quoting.closing?.isNone,
    piece := c :: (gap.reverse ++ s.piece) }) (by simpa using not_blank)
  have after_settled : after = s.quoting.settled := by simpa using after_eq
  have separated_eq : { s with
      quoting := after, atStart := s.atStart || s.quoting.closing?.isNone,
      piece := gap'.reverse ++ c :: (gap.reverse ++ s.piece) } =
        (s.separated.behind (s.piece.reverse ++ (gap ++ c :: gap'))).onto s.pieces := by
    simp [Scan.separated, Scan.behind, Scan.onto, after_settled]
  rw [List.append_assoc, run_append read, List.cons_append, run_cons stepped, run_append read', separated_eq,
    run_onto, run_behind]
  cases s.separated.run right <;> rfl

theorem isQuote_of_run (quotes : ∀ quote ∈ s.quoting.closing?, quote = '"' ∨ quote = '\'')
    (read : s.run text = .ok t) : ∀ quote ∈ t.quoting.closing?, quote = '"' ∨ quote = '\'' := by
  induction text generalizing s with
  | nil =>
      cases read
      exact quotes
  | cons c text ih =>
      rw [Scan.run] at read
      split at read
      · cases read
      next next stepped =>
        refine ih ?_ read
        rcases step_cases s c with
          ⟨outside, unnested, rfl⟩ | ⟨fault, refused⟩ | ⟨quoting, opened, atStart, closes, added⟩
        · rw [step_comma outside unnested] at stepped
          cases stepped
          exact quotes
        · have refused_here : s.step c = .error fault := refused s.piece s.pieces
          rw [refused_here] at stepped
          cases stepped
        · have added_here : s.step c = .ok ⟨quoting, opened, atStart, c :: s.piece, s.pieces⟩ :=
            added s.piece s.pieces
          rw [added_here] at stepped
          cases stepped
          exact fun quote closed => (closes quote closed).elim (quotes quote) id

/-- Wherever a separator stands, its spelling makes a difference to the piece that it is in, and to nothing
else. -/
theorem split_separation (read : Scan.run {} left = .ok s) (right : List Char) :
    (∃ fault, ∀ separation, IsSeparation separation → split (left ++ (separation ++ right)) = .error fault) ∨
      ∃ value more, ∀ separation, IsSeparation separation → split (left ++ (separation ++ right)) =
        .ok (kept (s.pieces.reverse ++ (s.piece.reverse ++ (separation ++ value)) :: more)) := by
  have read_all {separation : List Char} (h : IsSeparation separation) :=
    (run_append read).trans (run_separation h (isQuote_of_run (s := {}) (fun _ => nofun) read) right)
  cases read_right : s.separated.run right with
  | error fault =>
      refine .inl ⟨fault, fun separation h => split_of_run_error ?_⟩
      rw [read_all h, read_right]
      rfl
  | ok t =>
      have split_all {separation : List Char} (h : IsSeparation separation) :
          split (left ++ (separation ++ right)) = t.finish.map fun pieces =>
            kept (s.pieces.reverse ++ pieces.modifyHead (s.piece.reverse ++ separation ++ ·)) := by
        have read_here := read_all h
        rw [read_right] at read_here
        rw [split_of_run read_here, finish_onto, finish_behind]
        cases t.finish <;> rfl
      cases finished : t.finish with
      | error fault =>
          refine .inl ⟨fault, fun separation h => ?_⟩
          rw [split_all h, finished]
          rfl
      | ok ending =>
          obtain ⟨-, -, ending_eq⟩ := finish_eq_ok finished
          obtain ⟨value, more, rfl⟩ : ∃ value more, ending = value :: more :=
            List.exists_cons_of_ne_nil (by simp [ending_eq])
          refine .inr ⟨value, more, fun separation h => ?_⟩
          rw [split_all h, finished]
          simp [Except.map]

/-- A piece of a list starts at its start, or after a comma where it may end. -/
def StartsPiece (earlier : List Char) : Prop :=
  earlier = [] ∨ ∃ first pieces, earlier = first ++ [','] ∧ split first = .ok pieces

theorem StartsPiece.suffix {earlier : List Char} (start : StartsPiece earlier)
    (read : Scan.run {} (earlier ++ before) = .ok s) : s.piece.reverse <:+ before := by
  rcases start with rfl | ⟨first, pieces, rfl, cut⟩
  · exact (reached read).current_suffix
  · obtain ⟨others, -, run_first⟩ := run_comma cut
    rw [List.append_assoc, List.singleton_append, run_first] at read
    cases read_before : Scan.run {} before with
    | error fault =>
        rw [read_before] at read
        cases read
    | ok t =>
        rw [read_before] at read
        cases read
        exact (reached read_before).current_suffix

theorem not_isBlank_of_isSeparator (separates : isSeparator c = true) : Text.isBlank c = false := by
  rcases isSeparator_cases separates with rfl | rfl <;> decide

theorem IsSeparation.exists_cut (h : IsSeparation separation) (first : ∀ c ∈ before, isSeparator c = false)
    (after : List Char) : ∃ front c back, Text.trim (before ++ (separation ++ after)) = front ++ c :: back ∧
      (∀ d ∈ front, isSeparator d = false) ∧ isSeparator c = true ∧
      Text.trim front = Text.trim before ∧ Text.trim back = Text.trim after := by
  obtain @⟨gap, gap', c, blank, separates, blank'⟩ := h
  refine ⟨Text.trimStart (before ++ gap), c, Text.trimEnd (gap' ++ after), ?_, ?_, separates, ?_, ?_⟩
  · rw [← Text.trim_append_cons (not_isBlank_of_isSeparator separates)]
    simp
  · intro d member
    apply Bool.eq_false_iff.mpr
    intro also_separates
    rcases List.mem_append.mp ((List.dropWhile_suffix _).subset member) with inside | inside
    · rw [first d inside] at also_separates
      cases also_separates
    · have not_blank := not_isBlank_of_isSeparator also_separates
      rw [blank d inside] at not_blank
      cases not_blank
  · rw [Text.trim_trimStart, Text.trim_append_blank blank]
  · rw [Text.trim_trimEnd, Text.trim_blank_append blank']

theorem IsSeparation.kept_append (h : IsSeparation separation) (first : ∀ c ∈ before, isSeparator c = false)
    (earlier : List (List Char)) (after : List Char) (later : List (List Char)) :
    kept (earlier ++ (before ++ (separation ++ after)) :: later) =
      kept earlier ++ Text.trim (before ++ (separation ++ after)) :: kept later := by
  obtain ⟨front, c, back, piece_eq, -⟩ := h.exists_cut first after
  simp [kept, piece_eq]

/-- A parameter list with another spelling of separators between keys and values, or with a comma behind it. -/
inductive Respelled : List Char → List Char → Prop
  | refl (parameters : List Char) : Respelled parameters parameters
  | separator {earlier before old new after : List Char} (start : StartsPiece earlier)
      (first : ∀ c ∈ before, isSeparator c = false) (was : IsSeparation old) (becomes : IsSeparation new) :
      Respelled (earlier ++ (before ++ (old ++ after))) (earlier ++ (before ++ (new ++ after)))
  | comma (parameters : List Char) : Respelled parameters (parameters ++ [','])
  | trans {parameters parameters' parameters'' : List Char} (first : Respelled parameters parameters')
      (second : Respelled parameters' parameters'') : Respelled parameters parameters''

end Segment

namespace Invocation

open Segment (IsSeparation Respelled)

variable {schema : Schema} {tool line : String} {layout : Layout} {parameters parameters' piece piece' : List Char}
  {pieces pieces' first more : List (List Char)} {assigned : List (String × Value)}

/-! ### The same parameters -/

/-- Pieces that give the same values to the same keys. -/
def Alike (pieces pieces' : List (List Char)) : Prop :=
  ∀ schema tool assigned,
    List.Forall₂ (Assigns schema tool) pieces assigned ↔ List.Forall₂ (Assigns schema tool) pieces' assigned

theorem Alike.middle (same : ∀ schema tool pair, Assigns schema tool piece pair ↔ Assigns schema tool piece' pair) :
    Alike (first ++ piece :: more) (first ++ piece' :: more) := by
  have forward {piece piece' : List Char}
      (gives : ∀ schema tool pair, Assigns schema tool piece pair → Assigns schema tool piece' pair)
      {schema : Schema} {tool : String} {assigned : List (String × Value)}
      (assigns : List.Forall₂ (Assigns schema tool) (first ++ piece :: more) assigned) :
      List.Forall₂ (Assigns schema tool) (first ++ piece' :: more) assigned := by
    obtain ⟨assigned_first, assigned_rest, rfl, assigns_first, assigns_rest⟩ := exists_assigned_append assigns
    obtain _ | ⟨given, assigns_more⟩ := assigns_rest
    exact List.rel_append assigns_first (.cons (gives schema tool _ given) assigns_more)
  exact fun schema tool assigned => ⟨forward fun schema tool pair => (same schema tool pair).mp,
    forward fun schema tool pair => (same schema tool pair).mpr⟩

/-- A piece with its first separator spelled in another way gives the same value to the same key. -/
theorem assigns_separation {before after old new : List Char} {pair : String × Value}
    (first : ∀ c ∈ before, Segment.isSeparator c = false) (was : IsSeparation old) (becomes : IsSeparation new) :
    Assigns schema tool (Text.trim (before ++ (old ++ after))) pair ↔
      Assigns schema tool (Text.trim (before ++ (new ++ after))) pair := by
  obtain ⟨front, c, back, piece_eq, front_first, separates, key_eq, raw_eq⟩ := was.exists_cut first after
  obtain ⟨front', c', back', piece_eq', front_first', separates', key_eq', raw_eq'⟩ := becomes.exists_cut first after
  simp only [assigns_iff, piece_eq, piece_eq', Segment.keyValue_append_cons front_first separates,
    Segment.keyValue_append_cons front_first' separates', key_eq, key_eq', raw_eq, raw_eq']

/-- A parameter list in another spelling can be cut if the list can, into pieces that give the same parameters. -/
theorem exists_alike (respelled : Respelled parameters parameters') (cut : Segment.split parameters = .ok pieces) :
    ∃ pieces', Segment.split parameters' = .ok pieces' ∧ Alike pieces pieces' := by
  induction respelled generalizing pieces with
  | refl parameters => exact ⟨pieces, cut, fun _ _ _ => Iff.rfl⟩
  | @separator earlier before old new after start first was becomes =>
      rw [← List.append_assoc] at cut ⊢
      cases read : Segment.Scan.run {} (earlier ++ before) with
      | error fault =>
          rw [Segment.split_of_run_error (Segment.run_append_error read)] at cut
          cases cut
      | ok s =>
          rcases Segment.split_separation read after with ⟨fault, failed⟩ | ⟨value, more, split_eq⟩
          · rw [failed old was] at cut
            cases cut
          · rw [split_eq old was] at cut
            cases cut
            refine ⟨_, split_eq new becomes, ?_⟩
            have first_piece : ∀ c ∈ s.piece.reverse, Segment.isSeparator c = false :=
              fun c member => first c ((start.suffix read).subset member)
            rw [was.kept_append first_piece, becomes.kept_append first_piece]
            exact .middle fun schema tool pair => assigns_separation first_piece was becomes
  | comma parameters =>
      have cut' := Segment.split_comma cut []
      refine ⟨pieces ++ [], cut', ?_⟩
      rw [List.append_nil]
      exact fun _ _ _ => Iff.rfl
  | trans _ _ ih ih' =>
      obtain ⟨pieces', cut', alike⟩ := ih cut
      obtain ⟨pieces'', cut'', alike'⟩ := ih' cut'
      exact ⟨pieces'', cut'', fun schema tool assigned =>
        (alike schema tool assigned).trans (alike' schema tool assigned)⟩

/-! ### Decoration -/

/-- A line with blanks and bullets around a layout, any of which may be absent. -/
inductive Decorated (layout : Layout) : String → Prop
  | mk {leading markers gap trailing : List Char} (leading_isBlank : ∀ c ∈ leading, Text.isBlank c = true)
      (markers_areMarkers : ∀ c ∈ markers, isMarker c = true) (gap_isBlank : ∀ c ∈ gap, Text.isBlank c = true)
      (trailing_isBlank : ∀ c ∈ trailing, Text.isBlank c = true) :
      Decorated layout (String.ofList (leading ++ (markers ++ (gap ++ layout.text)) ++ trailing))

theorem not_isBlank_of_isMarker {c : Char} (marker : isMarker c = true) : Text.isBlank c = false := by
  rcases isMarker_cases marker with rfl | rfl <;> decide

theorem dropWhile_isMarker {markers gap : List Char} (are_markers : ∀ c ∈ markers, isMarker c = true)
    (blank : ∀ c ∈ gap, Text.isBlank c = true) (layout : Layout) :
    (markers ++ (gap ++ layout.text)).dropWhile isMarker = gap ++ layout.text := by
  rw [List.dropWhile_append_of_pos are_markers]
  cases gap with
  | nil => exact layout.dropWhile_isMarker_text
  | cons c gap =>
      have no_marker : isMarker c = false := by
        apply Bool.eq_false_iff.mpr
        intro marker
        have not_blank := not_isBlank_of_isMarker marker
        rw [blank c List.mem_cons_self] at not_blank
        cases not_blank
      simp [no_marker]

theorem Decorated.undecorated_eq (decorated : Decorated layout line) : undecorated line.toList = layout.text := by
  obtain @⟨leading, markers, gap, trailing, leading_isBlank, are_markers, gap_isBlank, trailing_isBlank⟩ := decorated
  have spaced : Text.trim (gap ++ layout.text) = layout.text := by
    rw [Text.trim_blank_append gap_isBlank, layout.trim_text]
  rw [String.toList_ofList, undecorated, Text.trim_append_blank trailing_isBlank,
    Text.trim_blank_append leading_isBlank]
  cases markers with
  | nil => rw [List.nil_append, spaced, layout.dropWhile_isMarker_text, layout.trim_text]
  | cons marker markers =>
      have kept : Text.trim (marker :: markers ++ (gap ++ layout.text)) =
          marker :: markers ++ (gap ++ layout.text) := by
        apply Text.trim_eq_self
        · intro c head
          cases head
          exact not_isBlank_of_isMarker (are_markers marker List.mem_cons_self)
        · intro c last
          have filled : layout.text ≠ [] := by
            obtain ⟨d, more, text_eq, -⟩ := layout.text_head
            simp [text_eq]
          have last_text : c ∈ layout.text.getLast? := by
            rwa [← List.append_assoc, List.getLast?_append_of_ne_nil _ filled] at last
          exact Text.not_isBlank_getLast?_trim layout.text c (layout.trim_text.symm ▸ last_text)
      rw [kept, dropWhile_isMarker are_markers gap_isBlank, spaced]

/-! ### Calls in any form -/

theorem parse_error_iff (schema : Schema) (line : String) :
    (∃ reason, parse schema line = .error (.parse line reason)) ↔ ∀ i, parse schema line ≠ .ok i := by
  constructor
  · rintro ⟨reason, failed⟩ i parsed
    rw [failed] at parsed
    cases parsed
  · exact exists_parse_error schema line

/-- A line with blanks, bullets, a namespace and a tag around a name, and any spelling of a parameter list that can
be cut, is read as the name and the list alone: as the same call, or as none if they are no call. -/
theorem surface_form_is_irrelevant (schema : Schema) (one_line : '\n' ∉ parameters)
    (cut : Segment.split parameters = .ok pieces) (respelled : Respelled parameters layout.parameters)
    (decorated : Decorated layout line) :
    (∀ i, parse schema line = .ok i ↔ parse schema (call layout.name parameters) = .ok i) ∧
      ((∃ reason, parse schema line = .error (.parse line reason)) ↔
        ∃ reason, parse schema (call layout.name parameters) =
          .error (.parse (call layout.name parameters) reason)) := by
  obtain ⟨pieces', cut', alike⟩ := exists_alike respelled cut
  have same : ∀ i, parse schema line = .ok i ↔ parse schema (call layout.name parameters) = .ok i := by
    intro i
    rw [parse_eq_ok_iff decorated.undecorated_eq cut', parse_call_iff layout.name_isWord one_line cut]
    simp only [alike schema (String.ofList layout.name)]
  refine ⟨same, ?_⟩
  simp only [parse_error_iff, ne_eq, same]

/-- A call of `hover` with a namespace, a tag, and blanks in all places between them. -/
def taggedHover : Layout where
  scope := some "lsp".toList
  name := "hover".toList
  gap := ['\t']
  tag := some ⟨"MCP".toList, [' '], List.all_eq_true.mp rfl, List.all_eq_true.mp rfl⟩
  parameters := "uri : 'a: b', line=\t10,".toList
  scope_isWord := by
    intro word scope
    cases scope
    decide +kernel
  name_isWord := by decide +kernel
  gap_isBlank := List.all_eq_true.mp rfl
  parameters_oneLine := by decide +kernel

/-- A colon for `=` in front of a quoted colon, a tab behind `=` and a comma too many, in a line with all kinds of
decoration. -/
theorem hover_in_two_forms :
    let parameters := "uri='a: b', line=10".toList
    let line := " ●• lsp:hover\t(MCP) (uri : 'a: b', line=\t10,) "
    '\n' ∉ parameters ∧ Segment.split parameters = .ok ["uri='a: b'".toList, "line=10".toList] ∧
      Respelled parameters taggedHover.parameters ∧ Decorated taggedHover line ∧
      (∀ i, parse .empty line = .ok i ↔ parse .empty (call taggedHover.name parameters) = .ok i) ∧
      ((∃ reason, parse .empty line = .error (.parse line reason)) ↔
        ∃ reason, parse .empty (call taggedHover.name parameters) =
          .error (.parse (call taggedHover.name parameters) reason)) := by
  intro parameters line
  have one_line : '\n' ∉ parameters := by decide +kernel
  have cut : Segment.split parameters = .ok ["uri='a: b'".toList, "line=10".toList] := by decide +kernel
  have equals : IsSeparation ([] ++ '=' :: []) := .mk nofun rfl nofun
  have spaced_colon : IsSeparation ([' '] ++ ':' :: [' ']) :=
    .mk (List.all_eq_true.mp rfl) rfl (List.all_eq_true.mp rfl)
  have equals_tab : IsSeparation ([] ++ '=' :: ['\t']) := .mk nofun rfl (List.all_eq_true.mp rfl)
  have no_separator {text : List Char} (none : text.all (fun c => !Segment.isSeparator c) = true) :
      ∀ c ∈ text, Segment.isSeparator c = false := by simpa using none
  have colon : Respelled parameters "uri : 'a: b', line=10".toList :=
    @Respelled.separator [] "uri".toList _ _ "'a: b', line=10".toList
      (.inl rfl) (no_separator rfl) equals spaced_colon
  have tab : Respelled "uri : 'a: b', line=10".toList "uri : 'a: b', line=\t10".toList :=
    @Respelled.separator "uri : 'a: b',".toList " line".toList _ _ "10".toList
      (.inr ⟨"uri : 'a: b'".toList, ["uri : 'a: b'".toList], rfl, by decide +kernel⟩)
      (no_separator rfl) equals equals_tab
  have respelled : Respelled parameters taggedHover.parameters := .trans colon (.trans tab (.comma _))
  have decorated : Decorated taggedHover line :=
    @Decorated.mk taggedHover [' '] ['●', '•'] [' '] [' '] (List.all_eq_true.mp rfl) (List.all_eq_true.mp rfl)
      (List.all_eq_true.mp rfl) (List.all_eq_true.mp rfl)
  exact ⟨one_line, cut, respelled, decorated, surface_form_is_irrelevant .empty one_line cut respelled decorated⟩

end Invocation

end CallScript
