import CallScript.Rpc.Framing

/-! # The lines of a byte sequence

`pieces` cuts bytes after each line feed.  A piece is what a line is read from: `reading` drops its
terminator, a line feed or a carriage return and a line feed, and takes the rest as text.  `due` are the
readings of the pieces that are complete; where the bytes have come to their end, the last piece is complete
without a terminator.

* `pieces_append_feed`, `pieces_of_not_mem`: the pieces of bytes up to the first line feed.
* `finishLine_eq_reading`: a collected piece is read as such. -/

namespace CallScript.Rpc.Framing

/-- The bytes of an array. -/
def octets (bytes : ByteArray) : List UInt8 := bytes.data.toList

@[simp] theorem octets_empty : octets .empty = [] := rfl

@[simp] theorem octets_append (a b : ByteArray) : octets (a ++ b) = octets a ++ octets b := by
  simp [octets, ByteArray.data_append]

@[simp] theorem length_octets (bytes : ByteArray) : (octets bytes).length = bytes.size := rfl

theorem octets_extract (bytes : ByteArray) (start stop : Nat) :
    octets (bytes.extract start stop) = ((octets bytes).take stop).drop start := by
  simp [octets, ByteArray.data_extract, Array.toList_extract, List.drop_take]

theorem getElem?_octets (bytes : ByteArray) (i : Nat) : (octets bytes)[i]? = bytes[i]? := by
  by_cases h : i < bytes.size
  · rw [getElem?_pos bytes i h]
    exact List.getElem?_eq_getElem h
  · rw [getElem?_neg bytes i h]
    exact List.getElem?_eq_none (Nat.le_of_not_lt h)

theorem octets_injective {a b : ByteArray} (h : octets a = octets b) : a = b :=
  ByteArray.ext (Array.toList_inj.mp h)

/-- The bytes cut after each line feed; the last piece may lack one. -/
def pieces : List UInt8 → List (List UInt8)
  | [] => []
  | b :: rest =>
    if b = lineFeed then [b] :: pieces rest
    else match pieces rest with
      | [] => [[b]]
      | piece :: more => (b :: piece) :: more

/-- A line without its terminator: a line feed, and a carriage return before it. -/
def stripped (piece : List UInt8) : List UInt8 :=
  if piece.getLast? = some lineFeed then
    if piece.dropLast.getLast? = some carriageReturn then piece.dropLast.dropLast else piece.dropLast
  else piece

/-- What a piece is read as. -/
def reading (piece : List UInt8) : ReadResult :=
  match Text.Utf8.decode ⟨(stripped piece).toArray⟩ with
  | .ok text => .line text
  | .error flaw => .failed (.protocol s!"Invalid UTF-8: {flaw.message}")

/-- What is to be read of bytes that have arrived, all of them or not. -/
def due (bytes : List UInt8) (isEnded : Bool) : List ReadResult :=
  ((pieces bytes).filter fun piece => isEnded || piece.getLast? = some lineFeed).map reading

theorem octets_stripTerminator (bytes : ByteArray) :
    octets (stripTerminator bytes) = stripped (octets bytes) := by
  have last : (octets bytes).getLast? = bytes[bytes.size - 1]? := by
    rw [List.getLast?_eq_getElem?, getElem?_octets, length_octets]
  have before : (octets bytes).dropLast.getLast? =
      if bytes.size ≤ 1 then none else bytes[bytes.size - 2]? := by
    rw [List.getLast?_dropLast, getElem?_octets, length_octets]
  have front (n : Nat) : octets (bytes.extract 0 n) = (octets bytes).take n := by
    rw [octets_extract, List.drop_zero]
  unfold stripTerminator stripped
  simp only [last, before]
  simp only [List.dropLast_eq_take, List.length_take, length_octets, List.take_take]
  by_cases terminated : bytes[bytes.size - 1]? = some lineFeed
  · have nonempty : 0 < bytes.size := by
      refine Nat.pos_of_ne_zero fun empty => ?_
      rw [getElem?_neg bytes _ (by omega)] at terminated
      cases terminated
    rw [if_pos ⟨nonempty, terminated⟩, if_pos terminated]
    by_cases long : 1 < bytes.size
    · have not_short : ¬ bytes.size ≤ 1 := by omega
      rw [if_neg not_short]
      by_cases carriage : bytes[bytes.size - 2]? = some carriageReturn
      · rw [if_pos ⟨long, carriage⟩, if_pos carriage, front]
        congr 1
        omega
      · rw [if_neg (fun h => carriage h.2), if_neg carriage, front]
    · have short : bytes.size ≤ 1 := by omega
      rw [if_neg (fun h => long h.1), if_pos short, front]
      rfl
  · rw [if_neg (fun h => terminated h.2), if_neg terminated]

/-- What a collected piece comes to. -/
theorem finishLine_eq_reading {limit : Nat} {bytes : ByteArray} (nonempty : octets bytes ≠ [])
    (fits : (octets bytes).length ≤ limit) : finishLine limit bytes = reading (octets bytes) := by
  have size_ne : bytes.size ≠ 0 := by
    rw [← length_octets]
    exact fun empty => nonempty (List.eq_nil_of_length_eq_zero empty)
  rw [length_octets] at fits
  have same : stripTerminator bytes = ⟨(stripped (octets bytes)).toArray⟩ :=
    octets_injective (octets_stripTerminator bytes)
  have not_long : ¬ limit < bytes.size := Nat.not_lt.mpr fits
  cases decoded : Text.Utf8.decode ⟨(stripped (octets bytes)).toArray⟩ with
  | ok text => simp only [finishLine, reading, if_neg size_ne, if_neg not_long, same, decoded]
  | error flaw => simp only [finishLine, reading, if_neg size_ne, if_neg not_long, same, decoded]

/-- A piece is read as the text whose bytes it holds, and if it holds no text, reading fails, by an error of
the protocol. -/
theorem reading_cases (piece : List UInt8) :
    (∃ text, reading piece = .line text ∧ octets text.toUTF8 = stripped piece) ∨
      ∃ reason, reading piece = .failed (.protocol reason) ∧
        ∀ text : String, octets text.toUTF8 ≠ stripped piece := by
  unfold reading Text.Utf8.decode String.fromUTF8?
  by_cases valid : (⟨(stripped piece).toArray⟩ : ByteArray).IsValidUTF8
  · rw [dif_pos valid]
    exact .inl ⟨_, rfl, rfl⟩
  · rw [dif_neg valid]
    refine .inr ⟨_, rfl, fun text same => valid ?_⟩
    have bytes_eq : text.toUTF8 = ⟨(stripped piece).toArray⟩ := octets_injective same
    rw [← bytes_eq]
    exact text.isValidUTF8

theorem pieces_append_feed {t : List UInt8} (h : lineFeed ∉ t) (rest : List UInt8) :
    pieces (t ++ lineFeed :: rest) = (t ++ [lineFeed]) :: pieces rest := by
  induction t with
  | nil => simp [pieces]
  | cons b t ih =>
      have other := List.ne_of_not_mem_cons h
      have clean := List.not_mem_of_not_mem_cons h
      rw [List.cons_append, pieces, if_neg other.symm, ih clean, List.cons_append]

theorem pieces_of_not_mem {t : List UInt8} (h : lineFeed ∉ t) (ne : t ≠ []) : pieces t = [t] := by
  induction t with
  | nil => exact absurd rfl ne
  | cons b t ih =>
      have other := List.ne_of_not_mem_cons h
      have clean := List.not_mem_of_not_mem_cons h
      rw [pieces, if_neg other.symm]
      by_cases last : t = []
      · rw [last, pieces]
      · rw [ih clean last]

/-- Bytes without a line feed stand in one piece, whatever follows. -/
theorem exists_piece_of_not_mem {t : List UInt8} (h : lineFeed ∉ t) (ne : t ≠ []) (rest : List UInt8) :
    ∃ piece ∈ pieces (t ++ rest), t.length ≤ piece.length := by
  by_cases feed : lineFeed ∈ rest
  · obtain ⟨before, after, rfl, clean_before⟩ := List.eq_append_cons_of_mem feed
    have clean : lineFeed ∉ t ++ before := by simp [h, clean_before]
    refine ⟨t ++ before ++ [lineFeed], ?_, by simp⟩
    rw [← List.append_assoc, pieces_append_feed clean]
    exact List.mem_cons_self
  · have clean : lineFeed ∉ t ++ rest := by simp [h, feed]
    rw [pieces_of_not_mem clean (by simp [ne])]
    simp

theorem exists_longer_piece {bytes piece : List UInt8} (h : piece ∈ pieces bytes) (rest : List UInt8) :
    ∃ longer ∈ pieces (bytes ++ rest), piece.length ≤ longer.length := by
  by_cases feed : lineFeed ∈ bytes
  · obtain ⟨t, after, rfl, clean⟩ := List.eq_append_cons_of_mem feed
    rw [pieces_append_feed clean] at h
    rw [List.append_assoc, List.cons_append, pieces_append_feed clean]
    rcases List.mem_cons.mp h with rfl | h
    · exact ⟨_, List.mem_cons_self, Nat.le_refl _⟩
    · obtain ⟨longer, mem, le⟩ := exists_longer_piece h rest
      exact ⟨longer, List.mem_cons_of_mem _ mem, le⟩
  · by_cases empty : bytes = []
    · rw [empty, pieces] at h
      cases h
    · rw [pieces_of_not_mem feed empty, List.mem_singleton] at h
      subst h
      exact exists_piece_of_not_mem feed empty rest
termination_by bytes.length

end CallScript.Rpc.Framing
