import CallScript.Proofs.Rpc.Portions

/-! # Reading lines of a stream that arrives bit by bit

A stream arrives in deliveries of any size, with failures between them, and a reader attempts to read a line
at any time.  An attempt takes bytes from what has arrived and adds them to the buffer (`collect_spec`).  It
ends in one of six ways (`Attempted`), and loses no byte in any of them: what is in the buffer and what has
arrived after it are together the bytes that have not been read.

* `attempted`: what an attempt does.
* `perform_spec`: what a schedule of deliveries and attempts comes to.
* `portions_of_any_schedule`: the results of attempts are the portions of the lines of the stream, however it
  arrives.
* `lines_of_any_schedule`: they are the lines, if those are within the limit. -/

namespace CallScript.Rpc.Framing

/-! ### Streams -/

/-- The bytes of a stream up to its end. -/
def content : Stream → List UInt8
  | [] => []
  | .bytes piece :: stream => octets piece ++ content stream
  | .failure _ :: stream => content stream
  | .finish :: _ => []

/-- Whether a stream comes to its end. -/
def isEnded : Stream → Bool
  | [] => false
  | .finish :: _ => true
  | _ :: stream => isEnded stream

/-- The failures of a stream up to its end. -/
def failures : Stream → List String
  | [] => []
  | .failure reason :: stream => reason :: failures stream
  | .bytes _ :: stream => failures stream
  | .finish :: _ => []

theorem content_append (stream later : Stream) : content (stream ++ later) =
    content stream ++ if isEnded stream then [] else content later := by
  induction stream with
  | nil => rfl
  | cons d stream ih =>
      cases d with
      | bytes piece =>
          simp only [List.cons_append, content]
          rw [ih, List.append_assoc]
          rfl
      | failure reason => exact ih
      | finish => rfl

theorem isEnded_append (stream later : Stream) :
    isEnded (stream ++ later) = (isEnded stream || isEnded later) := by
  induction stream with
  | nil => rfl
  | cons d stream ih =>
      cases d with
      | bytes piece => exact ih
      | failure reason => exact ih
      | finish => rfl

theorem failures_append (stream later : Stream) : failures (stream ++ later) =
    failures stream ++ if isEnded stream then [] else failures later := by
  induction stream with
  | nil => rfl
  | cons d stream ih =>
      cases d with
      | bytes piece => exact ih
      | failure reason =>
          simp only [List.cons_append, failures]
          rw [ih]
          rfl
      | finish => rfl

section

variable (piece : ByteArray) (index stop : Nat) (stream : Stream)

theorem content_putBack :
    content (putBack piece index stream) = (octets piece).drop index ++ content stream := by
  unfold putBack
  split
  · rw [content, octets_extract, List.take_of_length_le (Nat.le_of_eq (length_octets piece))]
  next beyond =>
    have none_left : (octets piece).drop index = [] :=
      List.drop_eq_nil_of_le (Nat.le_of_not_lt beyond)
    rw [none_left, List.nil_append]

theorem isEnded_putBack : isEnded (putBack piece index stream) = isEnded stream := by
  unfold putBack
  split <;> rfl

theorem failures_putBack : failures (putBack piece index stream) = failures stream := by
  unfold putBack
  split <;> rfl

variable {piece index stop}

theorem afterFeed_some {after : Nat} (fits : stop ≤ (octets piece).length)
    (h : afterFeed piece index stop = some after) :
    ∃ t rest, (octets piece).drop index = t ++ lineFeed :: rest ∧ lineFeed ∉ t ∧
      after = index + (t.length + 1) ∧ after ≤ stop := by
  fun_induction afterFeed piece index stop with
  | case1 index inside found =>
      cases h
      rw [← getElem?_octets] at found
      obtain ⟨bound, found⟩ := List.getElem?_eq_some_iff.mp found
      refine ⟨[], (octets piece).drop (index + 1), ?_, by simp, by simp, inside⟩
      rw [List.drop_eq_getElem_cons bound, found]
      rfl
  | case2 index inside other ih =>
      obtain ⟨t, rest, split, clean, rfl, bound⟩ := ih h
      rw [← getElem?_octets, List.getElem?_eq_getElem (by omega), Option.some.injEq] at other
      refine ⟨(octets piece)[index] :: t, rest, ?_, ?_, by simp only [List.length_cons]; omega, bound⟩
      · rw [List.drop_eq_getElem_cons (by omega), split, List.cons_append]
      · exact List.not_mem_cons_of_ne_of_not_mem (Ne.symm other) clean
  | case3 index outside => cases h

theorem afterFeed_none (fits : stop ≤ (octets piece).length)
    (h : afterFeed piece index stop = none) :
    lineFeed ∉ ((octets piece).take stop).drop index := by
  fun_induction afterFeed piece index stop with
  | case1 index inside found => cases h
  | case2 index inside other ih =>
      have within : index < ((octets piece).take stop).length := by
        rw [List.length_take]
        omega
      rw [← getElem?_octets, List.getElem?_eq_getElem (by omega), Option.some.injEq] at other
      rw [List.drop_eq_getElem_cons within, List.getElem_take]
      exact List.not_mem_cons_of_ne_of_not_mem (Ne.symm other) (ih h)
  | case3 index outside =>
      rw [List.drop_eq_nil_of_le]
      · simp
      · rw [List.length_take]
        omega

end

/-! ### Collecting bytes -/

/-- The bytes that are taken from a stream, at most so many of them, and how taking them ended: with the
first line feed, with the budget, with the end of the stream, because nothing more has arrived, or with a
failure. -/
inductive Takes (budget : Nat) (stream : Stream) : Collected → List UInt8 → Stream → Prop
  | feed {t : List UInt8} {rest : Stream} (content_eq : content stream = t ++ lineFeed :: content rest)
      (clean : lineFeed ∉ t) (length_le : t.length + 1 ≤ budget)
      (isEnded_eq : isEnded rest = isEnded stream) (failures_eq : failures rest = failures stream) :
      Takes budget stream .complete (t ++ [lineFeed]) rest
  | budget {t : List UInt8} {rest : Stream} (content_eq : content stream = t ++ content rest)
      (clean : lineFeed ∉ t) (length_eq : t.length = budget) (isEnded_eq : isEnded rest = isEnded stream)
      (failures_eq : failures rest = failures stream) : Takes budget stream .complete t rest
  | finish {t : List UInt8} {rest : Stream} (content_eq : content stream = t) (clean : lineFeed ∉ t)
      (length_lt : t.length < budget) (ended : isEnded stream) (content_rest : content rest = [])
      (rest_ended : isEnded rest) (failures_eq : failures rest = failures stream) :
      Takes budget stream .complete t rest
  | waiting {t : List UInt8} (content_eq : content stream = t) (clean : lineFeed ∉ t)
      (length_lt : t.length < budget) (going : isEnded stream = false) (failures_eq : failures stream = []) :
      Takes budget stream .waiting t []
  | failed {t : List UInt8} {rest : Stream} {reason : String}
      (content_eq : content stream = t ++ content rest) (clean : lineFeed ∉ t) (length_lt : t.length < budget)
      (isEnded_eq : isEnded rest = isEnded stream)
      (failures_eq : failures stream = reason :: failures rest) :
      Takes budget stream (.failed reason) t rest

theorem Takes.after {budget : Nat} {stream rest : Stream} {how : Collected} {t : List UInt8}
    {piece : ByteArray} (clean : lineFeed ∉ octets piece) (fits : (octets piece).length ≤ budget)
    (h : Takes (budget - (octets piece).length) stream how t rest) :
    Takes budget (.bytes piece :: stream) how (octets piece ++ t) rest := by
  have both {t : List UInt8} (later : lineFeed ∉ t) : lineFeed ∉ octets piece ++ t := by
    simp [clean, later]
  have length_both (t : List UInt8) : (octets piece ++ t).length = (octets piece).length + t.length :=
    List.length_append
  cases h with
  | @feed t _ content_eq later length_le isEnded_eq failures_eq =>
      rw [← List.append_assoc]
      refine .feed ?_ (both later) ?_ isEnded_eq failures_eq
      · rw [content, content_eq, List.append_assoc]
      · rw [length_both]
        omega
  | budget content_eq later length_eq isEnded_eq failures_eq =>
      refine .budget ?_ (both later) ?_ isEnded_eq failures_eq
      · rw [content, content_eq, List.append_assoc]
      · rw [length_both]
        omega
  | finish content_eq later length_lt ended content_rest rest_ended failures_eq =>
      refine .finish (by rw [content, content_eq]) (both later) ?_ ended content_rest rest_ended failures_eq
      rw [length_both]
      omega
  | waiting content_eq later length_lt going failures_eq =>
      refine .waiting (by rw [content, content_eq]) (both later) ?_ going failures_eq
      rw [length_both]
      omega
  | failed content_eq later length_lt isEnded_eq failures_eq =>
      refine .failed (by rw [content, content_eq, List.append_assoc]) (both later) ?_ isEnded_eq failures_eq
      rw [length_both]
      omega

/-- What is collected is added to the buffer. -/
theorem collect_spec (budget : Nat) (buffer : ByteArray) (stream : Stream) :
    ∃ t, octets (collect budget buffer stream).2.1 = octets buffer ++ t ∧
      Takes budget stream (collect budget buffer stream).1 t (collect budget buffer stream).2.2 := by
  fun_induction collect budget buffer stream with
  | case1 buffer stream => exact ⟨[], (List.append_nil _).symm, .budget rfl (by simp) rfl rfl rfl⟩
  | case2 budget buffer =>
      exact ⟨[], (List.append_nil _).symm, .waiting rfl (by simp) (Nat.succ_pos budget) rfl rfl⟩
  | case3 budget buffer rest =>
      exact ⟨[], (List.append_nil _).symm, .finish rfl (by simp) (Nat.succ_pos budget) rfl rfl rfl rfl⟩
  | case4 budget buffer reason rest =>
      exact ⟨[], (List.append_nil _).symm, .failed rfl (by simp) (Nat.succ_pos budget) rfl rfl⟩
  | case5 budget buffer piece rest stop index found =>
      have within : stop ≤ (octets piece).length := Nat.min_le_right ..
      obtain ⟨t, after, split, clean, rfl, bound⟩ := afterFeed_some within found
      rw [List.drop_zero] at split
      have taken : (octets piece).take (0 + (t.length + 1)) = t ++ [lineFeed] := by
        rw [split, Nat.zero_add, List.take_length_add_append]
        rfl
      have left : (octets piece).drop (0 + (t.length + 1)) = after := by
        rw [split, Nat.zero_add, List.drop_length_add_append]
        rfl
      refine ⟨t ++ [lineFeed], ?_, .feed ?_ clean ?_ (isEnded_putBack ..) (failures_putBack ..)⟩
      · rw [octets_append, octets_extract, List.drop_zero, taken]
      · rw [content, content_putBack, left, split, List.append_assoc, List.cons_append]
      · have smaller : stop ≤ budget + 1 := Nat.min_le_left ..
        omega
  | case6 budget buffer piece rest stop none_found fits ih =>
      have within : stop ≤ (octets piece).length := Nat.min_le_right ..
      have all : stop = (octets piece).length := by
        rw [length_octets] at within ⊢
        omega
      have clean := afterFeed_none within none_found
      rw [List.drop_zero, all, List.take_length] at clean
      obtain ⟨t, collected, takes⟩ := ih
      refine ⟨octets piece ++ t, ?_, takes.after clean ?_⟩
      · rw [collected, octets_append, List.append_assoc]
      · rw [length_octets]
        omega
  | case7 budget buffer piece rest stop none_found long =>
      have within : stop ≤ (octets piece).length := Nat.min_le_right ..
      have clean := afterFeed_none within none_found
      rw [List.drop_zero] at clean
      refine ⟨(octets piece).take stop, ?_, .budget ?_ clean ?_ (isEnded_putBack ..) (failures_putBack ..)⟩
      · rw [octets_append, octets_extract, List.drop_zero]
      · rw [content, content_putBack, ← List.append_assoc, List.take_append_drop]
      · rw [List.length_take, length_octets]
        omega

/-! ### Attempts -/

/-- The bytes that have arrived and not been read: those of the buffer, and those after them. -/
def unread (buffer : ByteArray) (stream : Stream) : List UInt8 := octets buffer ++ content stream

/-- What an attempt to read a line comes to, with the buffer and the stream that it leaves.  It waits with
all bytes in the buffer, or fails without losing one, or reads the bytes up to the first line feed, or as many
as there are beyond the limit, or the last bytes of a stream that has ended, or finds that there are none. -/
inductive Attempted (limit : Nat) (buffer : ByteArray) (stream : Stream) :
    ReadResult → ByteArray → Stream → Prop
  | waiting {later : ByteArray} (unread_eq : unread later [] = unread buffer stream)
      (clean : lineFeed ∉ octets later) (fits : later.size ≤ limit) (going : isEnded stream = false)
      (failures_eq : failures stream = []) : Attempted limit buffer stream .waiting later []
  | failed {later : ByteArray} {rest : Stream} {reason : String}
      (unread_eq : unread later rest = unread buffer stream) (clean : lineFeed ∉ octets later)
      (fits : later.size ≤ limit) (isEnded_eq : isEnded rest = isEnded stream)
      (failures_eq : failures stream = reason :: failures rest) :
      Attempted limit buffer stream (.failed (.io reason)) later rest
  | line {t : List UInt8} {rest : Stream} (unread_eq : unread buffer stream = t ++ lineFeed :: content rest)
      (clean : lineFeed ∉ t) (fits : t.length ≤ limit) (isEnded_eq : isEnded rest = isEnded stream)
      (failures_eq : failures rest = failures stream) :
      Attempted limit buffer stream (readingWithin limit (t ++ [lineFeed])) .empty rest
  | long {t : List UInt8} {rest : Stream} (unread_eq : unread buffer stream = t ++ content rest)
      (clean : lineFeed ∉ t) (full : t.length = limit + 1) (isEnded_eq : isEnded rest = isEnded stream)
      (failures_eq : failures rest = failures stream) :
      Attempted limit buffer stream (readingWithin limit t) .empty rest
  | last {rest : Stream} (clean : lineFeed ∉ unread buffer stream) (nonempty : unread buffer stream ≠ [])
      (fits : (unread buffer stream).length ≤ limit) (ended : isEnded stream) (content_rest : content rest = [])
      (rest_ended : isEnded rest) (failures_eq : failures rest = failures stream) :
      Attempted limit buffer stream (readingWithin limit (unread buffer stream)) .empty rest
  | ended {rest : Stream} (empty : unread buffer stream = []) (ended : isEnded stream)
      (content_rest : content rest = []) (rest_ended : isEnded rest)
      (failures_eq : failures rest = failures stream) : Attempted limit buffer stream .ended .empty rest

/-- What an attempt does, if what was carried over to it is within the limit. -/
theorem attempted {limit : Nat} {buffer : ByteArray} (stream : Stream) (clean : lineFeed ∉ octets buffer)
    (fits : buffer.size ≤ limit) : Attempted limit buffer stream (readLineCapped limit buffer stream).1
      (readLineCapped limit buffer stream).2.1 (readLineCapped limit buffer stream).2.2 := by
  obtain ⟨t, collected, takes⟩ := collect_spec (limit + 1 - buffer.size) buffer stream
  have both {t : List UInt8} (later : lineFeed ∉ t) : lineFeed ∉ octets buffer ++ t := by
    simp [clean, later]
  unfold readLineCapped
  generalize collect (limit + 1 - buffer.size) buffer stream = done at collected takes ⊢
  obtain ⟨how, found, rest⟩ := done
  simp only at collected takes
  have size_eq : found.size = buffer.size + t.length := by
    rw [← length_octets, collected, List.length_append, length_octets]
  cases takes with
  | @feed t rest content_eq later_clean length_le isEnded_eq failures_eq =>
      have unread_eq : unread buffer stream = (octets buffer ++ t) ++ lineFeed :: content rest := by
        rw [unread, content_eq, List.append_assoc]
      rw [← List.append_assoc] at collected
      have nonempty : octets found ≠ [] := by simp [collected]
      have t_fits : (octets buffer ++ t).length ≤ limit := by
        rw [List.length_append, length_octets]
        omega
      simp only [finishLine_eq nonempty, collected]
      exact .line unread_eq (both later_clean) t_fits isEnded_eq failures_eq
  | budget content_eq later_clean length_eq isEnded_eq failures_eq =>
      -- the budget goes one byte beyond the limit
      have full : (octets buffer ++ t).length = limit + 1 := by
        rw [List.length_append, length_octets, length_eq]
        omega
      have nonempty : octets found ≠ [] := by
        rw [collected]
        exact List.ne_nil_of_length_pos (by omega)
      have unread_eq : unread buffer stream = (octets buffer ++ t) ++ content rest := by
        rw [unread, content_eq, List.append_assoc]
      simp only [finishLine_eq nonempty, collected]
      exact .long unread_eq (both later_clean) full isEnded_eq failures_eq
  | finish content_eq later_clean length_lt ended content_rest rest_ended failures_eq =>
      have unread_eq : unread buffer stream = octets found := by rw [unread, content_eq, collected]
      have found_clean : lineFeed ∉ octets found := by
        rw [collected]
        exact both later_clean
      by_cases empty : octets found = []
      · have size_zero : found.size = 0 := by rw [← length_octets, empty, List.length_nil]
        simp only [finishLine, if_pos size_zero]
        exact .ended (unread_eq.trans empty) ended content_rest rest_ended failures_eq
      · have found_fits : (octets found).length ≤ limit := by
          rw [length_octets]
          omega
        simp only [finishLine_eq empty]
        rw [← unread_eq] at found_clean empty found_fits ⊢
        exact .last found_clean empty found_fits ended content_rest rest_ended failures_eq
  | waiting content_eq later_clean length_lt going failures_eq =>
      have found_fits : found.size ≤ limit := by omega
      refine .waiting ?_ ?_ found_fits going failures_eq
      · rw [unread, unread, collected, content_eq]
        exact List.append_nil _
      · rw [collected]
        exact both later_clean
  | failed content_eq later_clean length_lt isEnded_eq failures_eq =>
      have found_fits : found.size ≤ limit := by omega
      refine .failed ?_ ?_ found_fits isEnded_eq failures_eq
      · rw [unread, unread, collected, content_eq, List.append_assoc]
      · rw [collected]
        exact both later_clean

/-! ### Schedules -/

/-- Whether an attempt came to a line, to a line that is no text or too long, or to the end of the stream. -/
def ReadResult.isCompleted : ReadResult → Bool
  | .waiting | .failed (.io _) => false
  | _ => true

/-- The failure of the stream that an attempt came upon. -/
def ReadResult.failure? : ReadResult → Option String
  | .failed (.io reason) => some reason
  | _ => none

theorem isCompleted_readingWithin (limit : Nat) (portion : List UInt8) :
    (readingWithin limit portion).isCompleted ∧ (readingWithin limit portion).failure? = none := by
  unfold readingWithin
  split
  · exact ⟨rfl, rfl⟩
  · rcases reading_cases portion with ⟨text, read, -⟩ | ⟨reason, read, -⟩
    · rw [read]
      exact ⟨rfl, rfl⟩
    · rw [read]
      exact ⟨rfl, rfl⟩

theorem readingWithin_ne_waiting (limit : Nat) (portion : List UInt8) :
    readingWithin limit portion ≠ .waiting := by
  intro waits
  have completed := (isCompleted_readingWithin limit portion).1
  rw [waits] at completed
  cases completed

section

variable {limit : Nat} {buffer later : ByteArray} {stream rest : Stream} {result : ReadResult}

/-- What is to be read of a buffer and a stream. -/
def ahead (limit : Nat) (buffer : ByteArray) (stream : Stream) : List ReadResult :=
  dueWithin limit (unread buffer stream) (isEnded stream)

/-- What an attempt leaves to be read, whatever arrives later. -/
structure Onward (limit : Nat) (buffer : ByteArray) (stream : Stream) (result : ReadResult)
    (later : ByteArray) (rest : Stream) : Prop where
  clean : lineFeed ∉ octets later
  fits : later.size ≤ limit
  isEnded_eq : isEnded rest = isEnded stream
  failures_eq : failures stream = result.failure?.toList ++ failures rest
  ahead_eq : ahead limit buffer stream =
      (if result.isCompleted then [result] else []) ++ ahead limit later rest ∨
    result = .ended ∧ isEnded stream ∧ ahead limit buffer stream = [] ∧ ahead limit later rest = []

/-- An attempt that does not complete a line leaves everything to be read. -/
theorem Onward.of_unread_eq (clean : lineFeed ∉ octets later) (fits : later.size ≤ limit)
    (isEnded_eq : isEnded rest = isEnded stream)
    (failures_eq : failures stream = result.failure?.toList ++ failures rest)
    (unread_eq : unread later rest = unread buffer stream) (open_ : result.isCompleted = false) :
    Onward limit buffer stream result later rest := by
  refine ⟨clean, fits, isEnded_eq, failures_eq, .inl ?_⟩
  rw [ahead, ahead, open_, unread_eq, isEnded_eq]
  rfl

theorem unread_append (buffer : ByteArray) (stream more : Stream) : unread buffer (stream ++ more) =
    unread buffer stream ++ if isEnded stream then [] else content more := by
  rw [unread, content_append, ← List.append_assoc]
  rfl

theorem Onward.of_portion {t : List UInt8} {more : Stream} (isEnded_eq : isEnded rest = isEnded stream)
    (failures_eq : failures rest = failures stream)
    (ahead_eq : ahead limit buffer (stream ++ more) =
      readingWithin limit t :: ahead limit .empty (rest ++ more)) :
    Onward limit buffer (stream ++ more) (readingWithin limit t) .empty (rest ++ more) := by
  obtain ⟨completed, no_failure⟩ := isCompleted_readingWithin limit t
  refine ⟨by simp, Nat.zero_le limit, ?_, ?_, .inl ?_⟩
  · rw [isEnded_append, isEnded_append, isEnded_eq]
  · rw [failures_append, failures_append, failures_eq, isEnded_eq, no_failure]
    rfl
  · rw [ahead_eq, completed]
    rfl

theorem Onward.of_isEnded (ended : isEnded stream) (content_rest : content rest = [])
    (rest_ended : isEnded rest) (failures_eq : failures rest = failures stream)
    (no_failure : result.failure? = none) (more : Stream)
    (came : dueWithin limit (unread buffer stream) true = [result] ∧ result.isCompleted ∨
      dueWithin limit (unread buffer stream) true = [] ∧ result = .ended) :
    Onward limit buffer (stream ++ more) result .empty (rest ++ more) := by
  have still_ended {s : Stream} (h : isEnded s) : isEnded (s ++ more) = true := by
    rw [isEnded_append, h, Bool.true_or]
  have same_failures {s : Stream} (h : isEnded s) : failures (s ++ more) = failures s := by
    rw [failures_append, if_pos h, List.append_nil]
  have ahead_before : ahead limit buffer (stream ++ more) = dueWithin limit (unread buffer stream) true := by
    rw [ahead, still_ended ended, unread_append, if_pos ended, List.append_nil]
  have nothing_left : unread .empty (rest ++ more) = [] := by
    rw [unread_append, if_pos rest_ended, unread, content_rest]
    rfl
  have ahead_after : ahead limit .empty (rest ++ more) = [] := by
    rw [ahead, nothing_left]
    rfl
  refine ⟨by simp, Nat.zero_le limit, ?_, ?_, ?_⟩
  · rw [still_ended ended, still_ended rest_ended]
  · rw [same_failures ended, same_failures rest_ended, failures_eq, no_failure]
    rfl
  · rw [ahead_before, ahead_after]
    rcases came with ⟨one, completed⟩ | ⟨none_due, is_end⟩
    · refine .inl ?_
      rw [one, completed]
      rfl
    · exact .inr ⟨is_end, still_ended ended, none_due, rfl⟩

theorem Attempted.onward (h : Attempted limit buffer stream result later rest) (more : Stream) :
    Onward limit buffer (stream ++ more) result later (rest ++ more) := by
  cases h with
  | waiting unread_eq clean fits going failures_eq =>
      refine .of_unread_eq clean fits ?_ ?_ ?_ rfl
      · rw [isEnded_append, isEnded_append, going]
        rfl
      · rw [failures_append, failures_eq, going]
        rfl
      · rw [unread_append, unread_append, unread_eq, going]
        rfl
  | failed unread_eq clean fits isEnded_eq failures_eq =>
      refine .of_unread_eq clean fits ?_ ?_ ?_ rfl
      · rw [isEnded_append, isEnded_append, isEnded_eq]
      · rw [failures_append, failures_append, failures_eq, isEnded_eq]
        rfl
      · rw [unread_append, unread_append, unread_eq, isEnded_eq]
  | @line t _ unread_eq clean fits isEnded_eq failures_eq =>
      refine .of_portion isEnded_eq failures_eq ?_
      have split : unread buffer (stream ++ more) = t ++ lineFeed :: unread .empty (rest ++ more) := by
        rw [unread_append, unread_append, unread_eq, isEnded_eq, List.append_assoc]
        rfl
      rw [ahead, split, dueWithin_append_feed clean fits, ahead, isEnded_append, isEnded_append, isEnded_eq]
  | @long t _ unread_eq clean full isEnded_eq failures_eq =>
      refine .of_portion isEnded_eq failures_eq ?_
      have split : unread buffer (stream ++ more) = t ++ unread .empty (rest ++ more) := by
        rw [unread_append, unread_append, unread_eq, isEnded_eq, List.append_assoc]
        rfl
      rw [ahead, split, dueWithin_append_long clean full, ahead, isEnded_append, isEnded_append, isEnded_eq]
  | last clean nonempty fits ended content_rest rest_ended failures_eq =>
      obtain ⟨completed, no_failure⟩ := isCompleted_readingWithin limit (unread buffer stream)
      exact .of_isEnded ended content_rest rest_ended failures_eq no_failure more
        (.inl ⟨dueWithin_ended clean nonempty fits, completed⟩)
  | ended empty ended content_rest rest_ended failures_eq =>
      have none_due : dueWithin limit (unread buffer stream) true = [] := by
        rw [empty]
        rfl
      exact .of_isEnded ended content_rest rest_ended failures_eq rfl more (.inr ⟨none_due, rfl⟩)

theorem Attempted.of_waiting (h : Attempted limit buffer stream result later rest)
    (waits : result = .waiting) : isEnded stream = false ∧ ahead limit buffer stream = [] := by
  cases h with
  | waiting unread_eq clean fits going failures_eq =>
      have later_eq : unread later [] = octets later := List.append_nil _
      rw [later_eq] at unread_eq
      refine ⟨going, ?_⟩
      rw [ahead, going, ← unread_eq, dueWithin_of_not_mem clean fits]
  | failed => cases waits
  | line | long | last => exact absurd waits (readingWithin_ne_waiting _ _)
  | ended => cases waits

end

/-- What may happen next: something arrives, or an attempt is made to read a line. -/
inductive Action where
  | arrival (d : Delivery)
  | attempt

/-- All that arrives. -/
def arrived (actions : List Action) : Stream :=
  actions.filterMap fun
    | .arrival d => some d
    | .attempt => none

/-- The results of the attempts of a schedule, with the buffer and the stream that it leaves. -/
def perform (limit : Nat) : List Action → ByteArray → Stream → List ReadResult × ByteArray × Stream
  | [], buffer, stream => ([], buffer, stream)
  | .arrival d :: actions, buffer, stream => perform limit actions buffer (stream ++ [d])
  | .attempt :: actions, buffer, stream =>
    let read := readLineCapped limit buffer stream
    let rest := perform limit actions read.2.1 read.2.2
    (read.1 :: rest.1, rest.2)

/-- Of what is to be read at the start of a schedule, its attempts have completed the first part, and the
rest is to be read after it. -/
structure Performed (limit : Nat) (buffer : ByteArray) (stream : Stream) (results : List ReadResult)
    (later : ByteArray) (rest : Stream) : Prop where
  clean : lineFeed ∉ octets later
  fits : later.size ≤ limit
  isEnded_eq : isEnded rest = isEnded stream
  failures_eq : failures stream = results.filterMap ReadResult.failure? ++ failures rest
  ahead_eq : ∃ ends : Nat, (0 < ends → isEnded stream ∧ ahead limit later rest = []) ∧
    ∃ done, results.filter ReadResult.isCompleted = done ++ List.replicate ends .ended ∧
      ahead limit buffer stream = done ++ ahead limit later rest

section

variable {limit : Nat} {buffer between later : ByteArray} {stream middle rest : Stream}
  {result : ReadResult} {results : List ReadResult}

theorem Performed.refl (clean : lineFeed ∉ octets buffer) (fits : buffer.size ≤ limit) (stream : Stream) :
    Performed limit buffer stream [] buffer stream :=
  ⟨clean, fits, rfl, rfl, 0, nofun, [], rfl, rfl⟩

theorem Onward.performed (first : Onward limit buffer stream result between middle)
    (h : Performed limit between middle results later rest) :
    Performed limit buffer stream (result :: results) later rest := by
  obtain ⟨ends, after_end, done, done_eq, ahead_eq⟩ := h.ahead_eq
  refine ⟨h.clean, h.fits, h.isEnded_eq.trans first.isEnded_eq, ?_, ?_⟩
  · rw [first.failures_eq, h.failures_eq, ← List.append_assoc]
    cases failed : result.failure? with
    | none => simp [failed]
    | some reason => simp [failed]
  · rw [first.isEnded_eq] at after_end
    rcases first.ahead_eq with goes_on | ⟨rfl, ended, none_before, none_after⟩
    · refine ⟨ends, after_end, (if result.isCompleted then [result] else []) ++ done, ?_, ?_⟩
      · rw [List.filter_cons, done_eq]
        cases result.isCompleted with
        | true => rfl
        | false => rfl
      · rw [goes_on, ahead_eq, List.append_assoc]
    · rw [none_after] at ahead_eq
      obtain ⟨rfl, none_left⟩ := List.append_eq_nil_iff.mp ahead_eq.symm
      refine ⟨ends + 1, fun _ => ⟨ended, none_left⟩, [], ?_, ?_⟩
      · rw [List.filter_cons_of_pos (by rfl), done_eq, List.replicate_succ]
        rfl
      · rw [none_before, none_left]
        rfl

/-- What a schedule comes to. -/
theorem perform_spec (actions : List Action) (clean : lineFeed ∉ octets buffer) (fits : buffer.size ≤ limit) :
    Performed limit buffer (stream ++ arrived actions) (perform limit actions buffer stream).1
      (perform limit actions buffer stream).2.1 (perform limit actions buffer stream).2.2 := by
  induction actions generalizing buffer stream with
  | nil =>
      rw [show arrived [] = [] from rfl, List.append_nil]
      exact .refl clean fits stream
  | cons action actions ih =>
      cases action with
      | arrival d =>
          have step : stream ++ arrived (.arrival d :: actions) = (stream ++ [d]) ++ arrived actions :=
            (List.append_assoc stream [d] (arrived actions)).symm
          rw [step]
          exact ih clean fits
      | attempt =>
          have onward := (attempted stream clean fits).onward (arrived actions)
          exact onward.performed (ih onward.clean onward.fits)

theorem perform_start (limit : Nat) (actions : List Action) :
    Performed limit .empty (arrived actions) (perform limit actions .empty []).1
      (perform limit actions .empty []).2.1 (perform limit actions .empty []).2.2 := by
  have performed : Performed limit .empty ([] ++ arrived actions) (perform limit actions .empty []).1
      (perform limit actions .empty []).2.1 (perform limit actions .empty []).2.2 :=
    perform_spec actions (by simp) (Nat.zero_le limit)
  exact performed

/-- The attempts of a schedule have completed the first portions, and report the end after the last. -/
theorem Performed.completed_eq (h : Performed limit buffer stream results later rest) :
    let completed := results.filter ReadResult.isCompleted
    let lines := ahead limit buffer stream
    completed = lines.take completed.length ++ .replicate (completed.length - lines.length) .ended ∧
      (lines.length < completed.length → isEnded stream) ∧
      (ahead limit later rest = [] → isEnded stream = false → completed = lines) := by
  obtain ⟨ends, after_end, done, done_eq, ahead_eq⟩ := h.ahead_eq
  intro completed lines
  rcases Nat.eq_zero_or_pos ends with rfl | some_ends
  · have all_done : completed = done := done_eq.trans (List.append_nil done)
    have lines_eq : lines = completed ++ ahead limit later rest := by rw [all_done]; exact ahead_eq
    have le : completed.length ≤ lines.length := by
      rw [lines_eq, List.length_append]
      exact Nat.le_add_right _ _
    refine ⟨?_, fun lt => absurd lt (Nat.not_lt.mpr le), fun none_left _ => ?_⟩
    · rw [Nat.sub_eq_zero_of_le le, lines_eq, List.take_left]
      exact (List.append_nil _).symm
    · rw [lines_eq, none_left, List.append_nil]
  · obtain ⟨ended, none_left⟩ := after_end some_ends
    have lines_eq : lines = done := by
      rw [none_left, List.append_nil] at ahead_eq
      exact ahead_eq
    have completed_eq : completed = lines ++ .replicate ends .ended := by rw [lines_eq]; exact done_eq
    have length_eq : completed.length = lines.length + ends := by
      rw [completed_eq, List.length_append, List.length_replicate]
    refine ⟨?_, fun _ => ended, fun _ going => ?_⟩
    · rw [length_eq, List.take_of_length_le (Nat.le_add_right _ _), Nat.add_sub_cancel_left]
      exact completed_eq
    · rw [ended] at going
      cases going

/-- An attempt after a schedule waits only if everything due of what has arrived has been read. -/
theorem completed_of_waiting (before : List Action)
    (waits : (readLineCapped limit (perform limit before .empty []).2.1
      (perform limit before .empty []).2.2).1 = .waiting) :
    isEnded (arrived before) = false ∧ (perform limit before .empty []).1.filter ReadResult.isCompleted =
      dueWithin limit (content (arrived before)) false := by
  have so_far := perform_start limit before
  obtain ⟨going, none_due⟩ := (attempted _ so_far.clean so_far.fits).of_waiting waits
  have not_ended : isEnded (arrived before) = false := so_far.isEnded_eq.symm.trans going
  obtain ⟨-, -, all_read⟩ := so_far.completed_eq
  refine ⟨not_ended, ?_⟩
  rw [all_read none_due not_ended, ahead, not_ended]
  rfl

theorem buffer_of_isCompleted (h : (readLineCapped limit buffer stream).1.isCompleted) :
    (readLineCapped limit buffer stream).2.1 = .empty := by
  unfold readLineCapped at h ⊢
  generalize collect (limit + 1 - buffer.size) buffer stream = done at h ⊢
  rcases done with ⟨_ | _ | reason, found, rest⟩
  · rfl
  · cases h
  · cases h

end

/-- A schedule of deliveries and attempts to read a line under any limit, from an empty buffer and a stream of
which nothing has arrived.  Leaving out the failures of the stream, the results of the attempts are the
portions of its lines in their order, each of them once, and its end from then on.  The portions of a line
are its bytes in order; all but the last go one byte beyond the limit and are errors, so what is left of a
line after an error is read as a line.  Every failure of the stream is reported at most once, in order.
After an attempt that completes a portion the buffer is empty, and an attempt that waits finds that everything
due has been read. -/
theorem portions_of_any_schedule (limit : Nat) (actions : List Action) :
    let due := dueWithin limit (content (arrived actions)) (isEnded (arrived actions))
    let results := (perform limit actions .empty []).1
    let completed := results.filter ReadResult.isCompleted
    (completed = due.take completed.length ++ .replicate (completed.length - due.length) .ended) ∧
      (due.length < completed.length → isEnded (arrived actions)) ∧
      (∃ later, failures (arrived actions) = results.filterMap ReadResult.failure? ++ later) ∧
      (∀ piece, ∃ full last, portionsOf limit piece = full ++ [last] ∧ full.flatten ++ last = piece ∧
        (∀ portion ∈ full, portion.length = limit + 1 ∧ readingWithin limit portion = tooLong limit) ∧
        last.length ≤ limit + 1) ∧
      ∀ before after, actions = before ++ .attempt :: after →
        let state := (perform limit before .empty []).2
        let read := readLineCapped limit state.1 state.2
        (read.1.isCompleted → read.2.1 = .empty) ∧
          (read.1 = .waiting → isEnded (arrived before) = false ∧
            (perform limit before .empty []).1.filter ReadResult.isCompleted =
              dueWithin limit (content (arrived before)) false) := by
  intro due results completed
  have performed := perform_start limit actions
  obtain ⟨completed_eq, ended, -⟩ := performed.completed_eq
  refine ⟨completed_eq, ended, ⟨_, performed.failures_eq⟩, fun piece => ?_, ?_⟩
  · obtain ⟨full, last, portions_eq, bytes_eq, full_length, last_length⟩ := exists_portionsOf limit piece
    refine ⟨full, last, portions_eq, bytes_eq, fun portion member => ?_, last_length⟩
    have length_eq := full_length portion member
    exact ⟨length_eq, readingWithin_of_lt (by omega)⟩
  · rintro before after rfl state read
    exact ⟨buffer_of_isCompleted, completed_of_waiting before⟩

/-- After a line of seven bytes under a limit of four, its last two bytes are read as a line that the stream
does not have. -/
theorem rest_of_a_long_line_is_read :
    let bytes := [0x61, 0x62, 0x63, 0x64, 0x65, 0x66, 0x67, 0x0A, 0x78, 0x0A]
    let actions : List Action :=
      [.arrival (.bytes ⟨bytes.toArray⟩), .attempt, .attempt, .attempt]
    (perform 4 actions .empty []).1 =
        [.failed (.protocol "Line exceeds 4 bytes"), .line "fg", .line "x"] ∧
      (pieces bytes).map reading = [.line "abcdefg", .line "x"] := by
  intro bytes actions
  exact ⟨by decide +kernel, by decide +kernel⟩

/-- A schedule of deliveries and attempts to read a line, from an empty buffer and a stream of which nothing
has arrived, whose lines are no longer than the cap with their terminators.  Leaving out the failures of the
stream, the results of the attempts are its lines in their order, each of them once, and its end from then
on: each line is the text of one piece without its terminator, or one error of the protocol if the piece is
no text.  Every failure of the stream is reported at most once, in order.  After an attempt that completes
a line the buffer is empty, and an attempt that waits finds that everything due has been read. -/
theorem lines_of_any_schedule (actions : List Action)
    (short : ∀ piece ∈ pieces (content (arrived actions)), piece.length ≤ cap) :
    let lines := due (content (arrived actions)) (isEnded (arrived actions))
    let results := (perform cap actions .empty []).1
    let completed := results.filter ReadResult.isCompleted
    (completed = lines.take completed.length ++ .replicate (completed.length - lines.length) .ended) ∧
      (lines.length < completed.length → isEnded (arrived actions)) ∧
      (∃ later, failures (arrived actions) = results.filterMap ReadResult.failure? ++ later) ∧
      (∀ piece, (∃ text, reading piece = .line text ∧ octets text.toUTF8 = stripped piece) ∨
        ∃ reason, reading piece = .failed (.protocol reason) ∧
          ∀ text : String, octets text.toUTF8 ≠ stripped piece) ∧
      ∀ before after, actions = before ++ .attempt :: after →
        let state := (perform cap before .empty []).2
        let read := readLine state.1 state.2
        (read.1.isCompleted → read.2.1 = .empty) ∧
          (read.1 = .waiting → isEnded (arrived before) = false ∧
            (perform cap before .empty []).1.filter ReadResult.isCompleted =
              due (content (arrived before)) false) := by
  intro lines results completed
  have performed := perform_start cap actions
  have lines_eq : ahead cap .empty (arrived actions) = lines := dueWithin_eq_due short _
  obtain ⟨completed_eq, ended, -⟩ := performed.completed_eq
  rw [lines_eq] at completed_eq ended
  refine ⟨completed_eq, ended, ⟨_, performed.failures_eq⟩, reading_cases, ?_⟩
  rintro before after rfl state read
  refine ⟨buffer_of_isCompleted, fun waits => ?_⟩
  -- the lines of what has arrived before the attempt are no longer than those of all that arrives
  have short_before : ∀ piece ∈ pieces (content (arrived before)), piece.length ≤ cap := by
    intro piece mem
    have all : content (arrived (before ++ .attempt :: after)) = content (arrived before) ++
        if isEnded (arrived before) then [] else content (arrived (.attempt :: after)) := by
      rw [arrived, List.filterMap_append]
      exact content_append _ _
    obtain ⟨longer, mem_longer, le⟩ := exists_longer_piece mem
      (if isEnded (arrived before) then [] else content (arrived (.attempt :: after)))
    rw [← all] at mem_longer
    exact Nat.le_trans le (short longer mem_longer)
  rw [← dueWithin_eq_due short_before]
  exact completed_of_waiting before waits

/-- Deliveries that cut a line inside its terminator and inside a character, with attempts and a failure
between them. -/
theorem lines_cut_inside_a_character :
    let bytes (piece : List UInt8) : Action := .arrival (.bytes ⟨piece.toArray⟩)
    let actions : List Action :=
      [bytes [0x61, 0x0D], .attempt, bytes [0x0A, 0xC3], .attempt, .attempt, .arrival (.failure "reset"),
        .attempt, bytes [0xA9, 0x0A, 0x0A, 0xFF, 0x0A, 0x78], .arrival .finish, .attempt, .attempt,
        .attempt, .attempt, .attempt, .attempt]
    let lines := due (content (arrived actions)) (isEnded (arrived actions))
    let completed := (perform cap actions .empty []).1.filter ReadResult.isCompleted
    (∀ piece ∈ pieces (content (arrived actions)), piece.length ≤ cap) ∧
      lines = [.line "a", .line "é", .line "",
        .failed (.protocol "Invalid UTF-8: invalid utf-8 sequence of 1 bytes from index 0"),
        .line "x"] ∧
      completed.length = 7 ∧
      completed = lines.take completed.length ++
        .replicate (completed.length - lines.length) .ended := by
  intro bytes actions lines completed
  have short : ∀ piece ∈ pieces (content (arrived actions)), piece.length ≤ cap := by decide +kernel
  obtain ⟨completed_eq, -⟩ := lines_of_any_schedule actions short
  exact ⟨short, by decide +kernel, by decide +kernel, completed_eq⟩

end CallScript.Rpc.Framing
