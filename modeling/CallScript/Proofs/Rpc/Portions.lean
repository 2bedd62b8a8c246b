import CallScript.Proofs.Rpc.Pieces

/-! # What is read of lines beyond the limit

A reader never collects more than one byte beyond its limit.  So a line is read in `portions` of that size,
of which only the last may be shorter: a portion beyond the limit is an error, and the bytes after it are read
as if a line started with them (`readingWithin`).  Without a line beyond the limit the portions are the pieces
(`dueWithin_eq_due`).

* `dueWithin_append_feed`: a portion that a line feed ends.
* `dueWithin_append_long`: a portion that the limit ends.
* `dueWithin_of_not_mem`, `dueWithin_ended`: the last portion of a stream that goes on, and of one that has
  ended. -/

namespace CallScript.Rpc.Framing

variable {limit : Nat} {t rest piece : List UInt8} {isEnded : Bool}

/-- A piece cut after each byte that stands one beyond the limit. -/
def portionsOf (limit : Nat) (piece : List UInt8) : List (List UInt8) :=
  if limit + 1 < piece.length then piece.take (limit + 1) :: portionsOf limit (piece.drop (limit + 1))
  else [piece]
termination_by piece.length
decreasing_by
  rw [List.length_drop]
  omega

/-- The portions of the pieces of bytes. -/
def portions (limit : Nat) (bytes : List UInt8) : List (List UInt8) :=
  (pieces bytes).flatMap (portionsOf limit)

/-- The error for a portion beyond the limit. -/
def tooLong (limit : Nat) : ReadResult := .failed (.protocol s!"Line exceeds {limit} bytes")

/-- What a portion is read as. -/
def readingWithin (limit : Nat) (portion : List UInt8) : ReadResult :=
  if limit < portion.length then tooLong limit else reading portion

/-- What is to be read of bytes that have arrived, all of them or not: a portion is complete if a line feed
or the limit ends it. -/
def dueWithin (limit : Nat) (bytes : List UInt8) (isEnded : Bool) : List ReadResult :=
  ((portions limit bytes).filter fun portion =>
    isEnded || portion.getLast? = some lineFeed || limit < portion.length).map (readingWithin limit)

theorem portionsOf_of_le (le : piece.length ≤ limit + 1) : portionsOf limit piece = [piece] := by
  rw [portionsOf, if_neg (Nat.not_lt.mpr le)]

theorem portionsOf_append (full : t.length = limit + 1) (more : rest ≠ []) :
    portionsOf limit (t ++ rest) = t :: portionsOf limit rest := by
  have longer : limit + 1 < (t ++ rest).length := by
    have some_more := List.length_pos_iff.mpr more
    rw [List.length_append]
    omega
  rw [portionsOf, if_pos longer, ← full, List.take_left, List.drop_left]

/-- The portions of a piece are its bytes in order, and all of them but the last are beyond the limit. -/
theorem exists_portionsOf (limit : Nat) (piece : List UInt8) : ∃ full last,
    portionsOf limit piece = full ++ [last] ∧ full.flatten ++ last = piece ∧
      (∀ portion ∈ full, portion.length = limit + 1) ∧ last.length ≤ limit + 1 := by
  fun_induction portionsOf limit piece with
  | case1 piece longer ih =>
      obtain ⟨full, last, portions_eq, bytes_eq, full_length, last_length⟩ := ih
      refine ⟨piece.take (limit + 1) :: full, last, ?_, ?_, ?_, last_length⟩
      · rw [portions_eq, List.cons_append]
      · rw [List.flatten_cons, List.append_assoc, bytes_eq, List.take_append_drop]
      · intro portion member
        rcases List.mem_cons.mp member with rfl | later
        · rw [List.length_take]
          omega
        · exact full_length portion later
  | case2 piece short => exact ⟨[], piece, rfl, rfl, nofun, Nat.not_lt.mp short⟩

theorem readingWithin_of_le (le : t.length ≤ limit) : readingWithin limit t = reading t :=
  if_neg (Nat.not_lt.mpr le)

theorem readingWithin_of_lt (lt : limit < t.length) : readingWithin limit t = tooLong limit := if_pos lt

theorem finishLine_eq {bytes : ByteArray} (nonempty : octets bytes ≠ []) :
    finishLine limit bytes = readingWithin limit (octets bytes) := by
  by_cases fits : (octets bytes).length ≤ limit
  · rw [finishLine_eq_reading nonempty fits, readingWithin_of_le fits]
  · have long : limit < (octets bytes).length := Nat.lt_of_not_le fits
    have size_ne : bytes.size ≠ 0 := fun empty => nonempty (List.eq_nil_of_length_eq_zero empty)
    rw [readingWithin_of_lt long, finishLine, if_neg size_ne, if_pos (length_octets bytes ▸ long)]
    rfl

theorem portions_append_feed (clean : lineFeed ∉ t) (le : t.length ≤ limit) (rest : List UInt8) :
    portions limit (t ++ lineFeed :: rest) = (t ++ [lineFeed]) :: portions limit rest := by
  have whole : (t ++ [lineFeed]).length ≤ limit + 1 := by simpa using le
  rw [portions, pieces_append_feed clean, List.flatMap_cons, portionsOf_of_le whole]
  rfl

theorem pieces_append (clean : lineFeed ∉ t) (more : rest ≠ []) :
    ∃ piece others, piece ≠ [] ∧ pieces rest = piece :: others ∧
      pieces (t ++ rest) = (t ++ piece) :: others := by
  by_cases feed : lineFeed ∈ rest
  · obtain ⟨before, after, rfl, clean_before⟩ := List.eq_append_cons_of_mem feed
    have clean_both : lineFeed ∉ t ++ before := by simp [clean, clean_before]
    refine ⟨before ++ [lineFeed], pieces after, by simp, pieces_append_feed clean_before after, ?_⟩
    rw [← List.append_assoc, pieces_append_feed clean_both, List.append_assoc]
  · have clean_both : lineFeed ∉ t ++ rest := by simp [clean, feed]
    exact ⟨rest, [], more, pieces_of_not_mem feed more, pieces_of_not_mem clean_both (by simp [more])⟩

theorem portions_append_long (clean : lineFeed ∉ t) (full : t.length = limit + 1) (rest : List UInt8) :
    portions limit (t ++ rest) = t :: portions limit rest := by
  have filled : t ≠ [] := List.ne_nil_of_length_pos (by omega)
  by_cases more : rest = []
  · rw [more, List.append_nil, portions, pieces_of_not_mem clean filled, List.flatMap_singleton,
      portionsOf_of_le (Nat.le_of_eq full)]
    rfl
  · obtain ⟨piece, others, piece_ne, rest_eq, both_eq⟩ := pieces_append clean more
    rw [portions, both_eq, List.flatMap_cons, portionsOf_append full piece_ne, portions, rest_eq,
      List.flatMap_cons]
    rfl

theorem dueWithin_append_feed (clean : lineFeed ∉ t) (le : t.length ≤ limit) (rest : List UInt8)
    (isEnded : Bool) : dueWithin limit (t ++ lineFeed :: rest) isEnded =
      readingWithin limit (t ++ [lineFeed]) :: dueWithin limit rest isEnded := by
  simp [dueWithin, portions_append_feed clean le]

theorem dueWithin_append_long (clean : lineFeed ∉ t) (full : t.length = limit + 1) (rest : List UInt8)
    (isEnded : Bool) : dueWithin limit (t ++ rest) isEnded =
      readingWithin limit t :: dueWithin limit rest isEnded := by
  simp [dueWithin, portions_append_long clean full, full]

theorem portions_of_not_mem (clean : lineFeed ∉ t) (filled : t ≠ []) (le : t.length ≤ limit) :
    portions limit t = [t] := by
  rw [portions, pieces_of_not_mem clean filled, List.flatMap_singleton, portionsOf_of_le (by omega)]

/-- Nothing is due of bytes without a line feed within the limit. -/
theorem dueWithin_of_not_mem (clean : lineFeed ∉ t) (le : t.length ≤ limit) : dueWithin limit t false = [] := by
  by_cases empty : t = []
  · rw [empty]
    rfl
  · have last : t.getLast? ≠ some lineFeed := fun e => clean (List.mem_of_getLast? e)
    simp [dueWithin, portions_of_not_mem clean empty le, last, le]

/-- At the end, they are due as they stand. -/
theorem dueWithin_ended (clean : lineFeed ∉ t) (filled : t ≠ []) (le : t.length ≤ limit) :
    dueWithin limit t true = [readingWithin limit t] := by
  simp [dueWithin, portions_of_not_mem clean filled le]

/-- Without a line beyond the limit, the lines are due. -/
theorem dueWithin_eq_due {bytes : List UInt8} (short : ∀ piece ∈ pieces bytes, piece.length ≤ limit)
    (isEnded : Bool) : dueWithin limit bytes isEnded = due bytes isEnded := by
  have whole : portions limit bytes = pieces bytes := by
    have each : ∀ piece ∈ pieces bytes, portionsOf limit piece = [piece] :=
      fun piece member => portionsOf_of_le (Nat.le_succ_of_le (short piece member))
    rw [portions, List.flatMap_def, List.map_congr_left each, ← List.flatMap_def, List.flatMap_singleton']
  rw [dueWithin, due, whole]
  have same_test : ∀ piece ∈ pieces bytes,
      (isEnded || decide (piece.getLast? = some lineFeed) || decide (limit < piece.length)) =
        (isEnded || decide (piece.getLast? = some lineFeed)) := by
    intro piece member
    simp [Nat.not_lt.mpr (short piece member)]
  rw [List.filter_congr same_test]
  apply List.map_congr_left
  intro piece member
  exact readingWithin_of_le (short piece (List.mem_filter.mp member).1)

end CallScript.Rpc.Framing
