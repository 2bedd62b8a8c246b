import CallScript.Proofs.Rpc.Attempts

/-! # The buffer of a line is bounded

Collecting bytes adds them to the buffer delivery by delivery, and stops one byte beyond the limit at the latest.
`collectHolding` is the same program, which also notes what the buffer holds meanwhile; with the budget of an
attempt nothing of it is longer than the limit and one byte (`size_held`).  What an attempt leaves in the buffer is
within the limit, so that the next one starts as this one did.

* `readingWithin_eq_tooLong_iff`, `Attempted.eq_tooLong_iff`: which lines are rejected.
* `exists_taken`, `Attempted.ne_waiting`, `Attempted.of_endless`: how much an attempt takes, and waits for.
* `line_buffer_is_bounded`: what holds after any schedule. -/

namespace CallScript.Rpc.Framing

/-! ### What the buffer holds meanwhile -/

/-- Collecting bytes, and all that the buffer holds from the start to the end, in order. -/
def collectHolding : (budget : Nat) → (buffer : ByteArray) → Stream →
    (Collected × ByteArray × Stream) × List ByteArray
  | 0, buffer, stream => ((.complete, buffer, stream), [buffer])
  | _ + 1, buffer, [] => ((.waiting, buffer, []), [buffer])
  | _ + 1, buffer, .finish :: rest => ((.complete, buffer, .finish :: rest), [buffer])
  | _ + 1, buffer, .failure reason :: rest => ((.failed reason, buffer, rest), [buffer])
  | budget + 1, buffer, .bytes piece :: rest =>
    let stop := min (budget + 1) piece.size
    match afterFeed piece 0 stop with
    | some index =>
      let filled := buffer ++ piece.extract 0 index
      ((.complete, filled, putBack piece index rest), [buffer, filled])
    | none =>
      if piece.size ≤ budget then
        let further := collectHolding (budget + 1 - piece.size) (buffer ++ piece) rest
        (further.1, buffer :: further.2)
      else
        let filled := buffer ++ piece.extract 0 stop
        ((.complete, filled, putBack piece stop rest), [buffer, filled])

theorem fst_collectHolding (budget : Nat) (buffer : ByteArray) (stream : Stream) :
    (collectHolding budget buffer stream).1 = collect budget buffer stream := by
  fun_induction collect budget buffer stream with
  | case5 budget buffer piece rest stop index found => simp only [collectHolding, stop, found]
  | case6 budget buffer piece rest stop none_found fits ih =>
      simp only [collectHolding, stop, none_found, if_pos fits, ih]
  | case7 budget buffer piece rest stop none_found long =>
      simp only [collectHolding, stop, none_found, if_neg long]
  | _ => rw [collectHolding]

theorem getLast?_held (budget : Nat) (buffer : ByteArray) (stream : Stream) :
    (collectHolding budget buffer stream).2.getLast? = some (collectHolding budget buffer stream).1.2.1 := by
  fun_induction collectHolding budget buffer stream with
  | case6 budget buffer piece rest stop none_found fits further ih =>
      dsimp only
      rw [List.getLast?_cons, ih]
      rfl
  | _ => rfl

theorem size_append_extract (buffer piece : ByteArray) (index : Nat) :
    (buffer ++ piece.extract 0 index).size ≤ buffer.size + index := by
  rw [ByteArray.size_append, ByteArray.size_extract]
  omega

/-- The buffer never grows by more than the budget. -/
theorem size_held {budget : Nat} {buffer : ByteArray} {stream : Stream} :
    ∀ held ∈ (collectHolding budget buffer stream).2, held.size ≤ buffer.size + budget := by
  fun_induction collectHolding budget buffer stream with
  | case5 budget buffer piece rest stop index found filled =>
      have within : stop ≤ (octets piece).length := Nat.min_le_right ..
      obtain ⟨t, after, -, -, -, bound⟩ := afterFeed_some within found
      have smaller : stop ≤ budget + 1 := Nat.min_le_left ..
      have grown : filled.size ≤ buffer.size + index := size_append_extract buffer piece index
      exact List.forall_mem_cons.mpr ⟨Nat.le_add_right _ _, List.forall_mem_singleton.mpr (by omega)⟩
  | case6 budget buffer piece rest stop none_found fits further ih =>
      refine List.forall_mem_cons.mpr ⟨Nat.le_add_right _ _, fun held later => ?_⟩
      have grown := ih held later
      rw [ByteArray.size_append] at grown
      omega
  | case7 budget buffer piece rest stop none_found long filled =>
      have smaller : stop ≤ budget + 1 := Nat.min_le_left ..
      have grown : filled.size ≤ buffer.size + stop := size_append_extract buffer piece stop
      exact List.forall_mem_cons.mpr ⟨Nat.le_add_right _ _, List.forall_mem_singleton.mpr (by omega)⟩
  | _ => exact List.forall_mem_singleton.mpr (Nat.le_add_right _ _)

/-! ### Rejected lines -/

section

variable {limit : Nat} {buffer later : ByteArray} {stream rest : Stream} {result : ReadResult}
  {portion : List UInt8}

theorem reading_ne_tooLong (limit : Nat) (portion : List UInt8) : reading portion ≠ tooLong limit := by
  unfold reading tooLong
  split
  · nofun
  next flaw invalid =>
    intro same
    injection same with same
    injection same with same
    have initials : ("Invalid UTF-8: " ++ flaw.message).toList.head? =
        ("Line exceeds " ++ toString limit ++ " bytes").toList.head? :=
      congrArg (fun message : String => message.toList.head?) same
    simp [String.toList_append] at initials

theorem readingWithin_eq_tooLong_iff : readingWithin limit portion = tooLong limit ↔ limit < portion.length := by
  constructor
  · intro rejected
    refine Nat.lt_of_not_le fun within => reading_ne_tooLong limit portion ?_
    rw [← readingWithin_of_le within]
    exact rejected
  · exact readingWithin_of_lt

theorem length_stripped_le (portion : List UInt8) : (stripped portion).length ≤ portion.length := by
  unfold stripped
  split
  · split
    · simp only [List.length_dropLast]
      omega
    · simp only [List.length_dropLast]
      omega
  · exact Nat.le_refl _

theorem utf8ByteSize_le_of_reading {text : String} (read : readingWithin limit portion = .line text) :
    text.utf8ByteSize ≤ limit := by
  by_cases within : portion.length ≤ limit
  · rw [readingWithin_of_le within] at read
    rcases reading_cases portion with ⟨found, reading_eq, bytes_eq⟩ | ⟨reason, reading_eq, -⟩
    · rw [reading_eq] at read
      cases read
      have size_eq : text.utf8ByteSize = (stripped portion).length := congrArg List.length bytes_eq
      have shorter := length_stripped_le portion
      omega
    · rw [reading_eq] at read
      cases read
  · rw [readingWithin_of_lt (Nat.lt_of_not_le within)] at read
    cases read

theorem Attempted.utf8ByteSize_le {text : String} (h : Attempted limit buffer stream result later rest)
    (read : result = .line text) : text.utf8ByteSize ≤ limit := by
  cases h with
  | line | long | last => exact utf8ByteSize_le_of_reading read
  | waiting | failed | ended => cases read

/-- The bytes up to the first line feed, or all of them if there is none. -/
def firstLine (bytes : List UInt8) : List UInt8 := (pieces bytes).headD []

theorem firstLine_append_feed {t : List UInt8} (clean : lineFeed ∉ t) (rest : List UInt8) :
    firstLine (t ++ lineFeed :: rest) = t ++ [lineFeed] := by
  rw [firstLine, pieces_append_feed clean, List.headD_cons]

theorem firstLine_of_not_mem {t : List UInt8} (clean : lineFeed ∉ t) : firstLine t = t := by
  by_cases empty : t = []
  · rw [empty]
    rfl
  · rw [firstLine, pieces_of_not_mem clean empty, List.headD_cons]

theorem length_le_firstLine {t : List UInt8} (clean : lineFeed ∉ t) (rest : List UInt8) :
    t.length ≤ (firstLine (t ++ rest)).length := by
  by_cases empty : rest = []
  · exact Nat.le_of_eq (by rw [empty, List.append_nil, firstLine_of_not_mem clean])
  · obtain ⟨piece, others, -, -, pieces_eq⟩ := pieces_append clean empty
    rw [firstLine, pieces_eq, List.headD_cons, List.length_append]
    exact Nat.le_add_right _ _

/-- A line is rejected exactly if its bytes, the terminator counted, are more than the limit allows, whatever of
it had still to arrive. -/
theorem Attempted.eq_tooLong_iff (h : Attempted limit buffer stream result later rest)
    (completed : result.isCompleted) (more : Stream) :
    result = tooLong limit ↔ limit < (firstLine (unread buffer (stream ++ more))).length := by
  cases h with
  | waiting | failed => cases completed
  | line unread_eq clean fits isEnded_eq failures_eq =>
      rw [unread_append, unread_eq, List.append_assoc, List.cons_append, firstLine_append_feed clean]
      exact readingWithin_eq_tooLong_iff
  | long unread_eq clean full isEnded_eq failures_eq =>
      rw [unread_append, unread_eq, List.append_assoc]
      have longer := length_le_firstLine clean (content rest ++ if isEnded stream then [] else content more)
      exact iff_of_true (readingWithin_of_lt (by omega)) (by omega)
  | last clean nonempty fits ended content_rest rest_ended failures_eq =>
      rw [unread_append, if_pos ended, List.append_nil, firstLine_of_not_mem clean]
      exact readingWithin_eq_tooLong_iff
  | ended empty ended content_rest rest_ended failures_eq =>
      rw [unread_append, if_pos ended, List.append_nil, empty]
      exact iff_of_false nofun (Nat.not_lt_zero limit)

/-! ### How much an attempt takes -/

theorem Takes.exists_eq {budget : Nat} {how : Collected} {t : List UInt8} (h : Takes budget stream how t rest) :
    content stream = t ++ content rest ∧ t.length ≤ budget := by
  cases h with
  | feed content_eq clean length_le =>
      rw [content_eq, List.append_assoc]
      exact ⟨rfl, by rwa [List.length_append]⟩
  | budget content_eq clean length_eq => exact ⟨content_eq, Nat.le_of_eq length_eq⟩
  | finish content_eq clean length_lt ended content_rest =>
      rw [content_rest, List.append_nil]
      exact ⟨content_eq, Nat.le_of_lt length_lt⟩
  | waiting content_eq clean length_lt =>
      rw [content, List.append_nil]
      exact ⟨content_eq, Nat.le_of_lt length_lt⟩
  | failed content_eq clean length_lt => exact ⟨content_eq, Nat.le_of_lt length_lt⟩

/-- An attempt stops one byte beyond the limit at the latest, the bytes of the buffer counted. -/
theorem exists_taken (fits : buffer.size ≤ limit) (stream : Stream) :
    ∃ taken, content stream = taken ++ content (readLineCapped limit buffer stream).2.2 ∧
      buffer.size + taken.length ≤ limit + 1 := by
  obtain ⟨t, -, takes⟩ := collect_spec (limit + 1 - buffer.size) buffer stream
  obtain ⟨content_eq, length_le⟩ := takes.exists_eq
  refine ⟨t, ?_, by omega⟩
  unfold readLineCapped
  generalize collect (limit + 1 - buffer.size) buffer stream = done at content_eq ⊢
  obtain ⟨_ | _ | reason, found, rest⟩ := done <;> exact content_eq

/-- An attempt that completes nothing loses nothing. -/
theorem Attempted.unread_eq_of_not_isCompleted (h : Attempted limit buffer stream result later rest)
    (going : ¬ result.isCompleted) : unread later rest = unread buffer stream := by
  cases h with
  | waiting unread_eq | failed unread_eq => exact unread_eq
  | line | long | last => exact absurd (isCompleted_readingWithin ..).1 going
  | ended => exact absurd rfl going

/-- An attempt does not wait beyond a line feed, nor for more bytes than the limit allows. -/
theorem Attempted.ne_waiting (h : Attempted limit buffer stream result later rest)
    (enough : limit < (unread buffer stream).length ∨ lineFeed ∈ unread buffer stream) : result ≠ .waiting := by
  cases h with
  | waiting unread_eq clean fits =>
      have later_eq : unread later [] = octets later := List.append_nil _
      rw [← unread_eq, later_eq, length_octets] at enough
      rcases enough with long | feed
      · omega
      · exact absurd feed clean
  | line | long | last => exact readingWithin_ne_waiting _ _
  | failed | ended => nofun

/-- More bytes than the limit allows, and no line feed among them, are rejected one beyond the limit, unless the
stream fails before. -/
theorem Attempted.of_endless (h : Attempted limit buffer stream result later rest)
    (endless : lineFeed ∉ unread buffer stream) (long : limit < (unread buffer stream).length)
    (quiet : failures stream = []) :
    result = tooLong limit ∧
      ∃ taken, unread buffer stream = taken ++ unread later rest ∧ taken.length = limit + 1 := by
  have not_waiting := h.ne_waiting (.inl long)
  cases h with
  | waiting => exact absurd rfl not_waiting
  | failed unread_eq clean fits isEnded_eq failures_eq =>
      rw [quiet] at failures_eq
      cases failures_eq
  | line unread_eq =>
      rw [unread_eq] at endless
      exact absurd (List.mem_append_right _ List.mem_cons_self) endless
  | long unread_eq clean full => exact ⟨readingWithin_of_lt (by omega), _, unread_eq, full⟩
  | last clean nonempty fits => omega
  | ended empty =>
      rw [empty] at long
      cases long

end

/-! ### After any schedule -/

/-- The buffer of a reader is bounded and its limit is exact, whatever has been read before: after any schedule of
deliveries and attempts that started with a buffer within the limit, the buffer is within the limit, and so it
is after one more attempt.  During this attempt the buffer never holds more than one byte beyond the limit, and no
more is taken from the stream.  A text that is read is within the limit.  An attempt that completes a line
empties the buffer, and rejects the line exactly if its bytes, the terminator counted, are more than the limit
allows, whatever arrives later; any other attempt loses no byte.  An attempt fails only by a failure of the
stream, and does not wait beyond a line feed, nor for more bytes than the limit allows.  If there are more and
no line feed is among them, they are rejected one byte beyond the limit. -/
theorem line_buffer_is_bounded {limit : Nat} {buffer : ByteArray} (clean : lineFeed ∉ octets buffer)
    (fits : buffer.size ≤ limit) (stream : Stream) (actions : List Action) :
    let state := (perform limit actions buffer stream).2
    let bytes := unread state.1 state.2
    let read := readLineCapped limit state.1 state.2
    let holding := collectHolding (limit + 1 - state.1.size) state.1 state.2
    (state.1.size ≤ limit ∧ read.2.1.size ≤ limit) ∧
      (holding.1 = collect (limit + 1 - state.1.size) state.1 state.2 ∧
        holding.2.getLast? = some holding.1.2.1 ∧ ∀ held ∈ holding.2, held.size ≤ limit + 1) ∧
      (∃ taken, content state.2 = taken ++ content read.2.2 ∧ state.1.size + taken.length ≤ limit + 1) ∧
      (∀ text, read.1 = .line text → text.utf8ByteSize ≤ limit) ∧
      (read.1.isCompleted → read.2.1 = .empty ∧ ∀ more,
        (read.1 = tooLong limit ↔ limit < (firstLine (unread state.1 (state.2 ++ more))).length)) ∧
      (¬ read.1.isCompleted → unread read.2.1 read.2.2 = bytes) ∧
      (∀ reason, read.1 = .failed (.io reason) → failures state.2 = reason :: failures read.2.2) ∧
      (limit < bytes.length ∨ lineFeed ∈ bytes → read.1 ≠ .waiting) ∧
      (limit < bytes.length → lineFeed ∉ bytes → failures state.2 = [] → read.1 = tooLong limit ∧
        ∃ taken, bytes = taken ++ unread read.2.1 read.2.2 ∧ taken.length = limit + 1) := by
  intro state bytes read holding
  have performed : Performed limit buffer (stream ++ arrived actions) _ state.1 state.2 :=
    perform_spec actions clean fits
  have attempt := attempted state.2 performed.clean performed.fits
  have onward := attempt.onward []
  rw [List.append_nil, List.append_nil] at onward
  refine ⟨⟨performed.fits, onward.fits⟩, ⟨fst_collectHolding .., getLast?_held .., fun held member => ?_⟩,
    exists_taken performed.fits state.2, fun text found => attempt.utf8ByteSize_le found,
    fun completed => ⟨buffer_of_isCompleted completed, attempt.eq_tooLong_iff completed⟩,
    attempt.unread_eq_of_not_isCompleted, fun reason failed => ?_, attempt.ne_waiting,
    fun long endless quiet => attempt.of_endless endless long quiet⟩
  · have grown := size_held held member
    have within : state.1.size ≤ limit := performed.fits
    omega
  · have failed : (readLineCapped limit state.1 state.2).1 = .failed (.io reason) := failed
    have failures_eq := onward.failures_eq
    rw [failed] at failures_eq
    exact failures_eq

/-- A line of six bytes under a limit of four, of which two were carried over and a third one was left by an
attempt that waited and one that failed. -/
theorem long_line_after_waiting_and_failure :
    let buffer : ByteArray := ⟨#[0x61, 0x62]⟩
    let actions : List Action :=
      [.attempt, .arrival (.failure "reset"), .attempt, .arrival (.bytes ⟨#[0x64, 0x65, 0x0A]⟩)]
    let performed := perform 4 actions buffer [.bytes ⟨#[0x63]⟩]
    let read := readLineCapped 4 performed.2.1 performed.2.2
    (lineFeed ∉ octets buffer ∧ buffer.size ≤ 4) ∧
      performed.1 = [.waiting, .failed (.io "reset")] ∧ octets performed.2.1 = [0x61, 0x62, 0x63] ∧
      firstLine (unread performed.2.1 performed.2.2) = [0x61, 0x62, 0x63, 0x64, 0x65, 0x0A] ∧
      read.1 = .failed (.protocol "Line exceeds 4 bytes") ∧ read.2.1 = .empty := by
  intro buffer actions performed read
  have clean : lineFeed ∉ octets buffer := by decide
  have fits : buffer.size ≤ 4 := by decide
  obtain ⟨-, -, -, -, complete, -⟩ := line_buffer_is_bounded clean fits [.bytes ⟨#[0x63]⟩] actions
  obtain ⟨emptied, rejected_iff⟩ := complete (by decide +kernel)
  have rejected : read.1 = tooLong 4 := (rejected_iff []).mpr (by decide +kernel)
  exact ⟨⟨clean, fits⟩, by decide +kernel, by decide +kernel, by decide +kernel, rejected, emptied⟩

end CallScript.Rpc.Framing
