import CallScript.Proofs.Rpc.Chunking

/-! # Reading all that is due

As long as something is due, an attempt completes the first of it or takes a failure out of the stream
(`Attempted.length_lt`).  So as many attempts as there are portions and failures read everything that has arrived.

* `ahead_attempts`: nothing is due after them.
* `completed_attempts`: what a schedule comes to if they follow it. -/

namespace CallScript.Rpc.Framing

theorem perform_append (limit : Nat) (actions more : List Action) (buffer : ByteArray) (stream : Stream) :
    let before := perform limit actions buffer stream
    let after := perform limit more before.2.1 before.2.2
    perform limit (actions ++ more) buffer stream = (before.1 ++ after.1, after.2) := by
  induction actions generalizing buffer stream with
  | nil => rfl
  | cons action actions ih =>
      cases action with
      | arrival d => exact ih buffer (stream ++ [d])
      | attempt => simp only [List.cons_append, perform, ih]

theorem arrived_append (actions more : List Action) :
    arrived (actions ++ more) = arrived actions ++ arrived more := List.filterMap_append

theorem arrived_attempts (n : Nat) : arrived (.replicate n .attempt) = [] := by
  induction n with
  | zero => rfl
  | succ n ih => exact ih

/-- An attempt that completes nothing waits, or comes upon a failure. -/
theorem ReadResult.eq_of_not_isCompleted {result : ReadResult} (h : ¬ result.isCompleted) :
    result = .waiting ∨ ∃ reason, result = .failed (.io reason) := by
  cases result with
  | waiting => exact .inl rfl
  | failed e =>
      cases e with
      | io reason => exact .inr ⟨reason, rfl⟩
      | _ => exact absurd rfl h
  | _ => exact absurd rfl h

section

variable {limit n : Nat} {buffer later : ByteArray} {stream rest : Stream} {result : ReadResult}
  {results : List ReadResult}

theorem Performed.ahead_eq_nil (h : Performed limit buffer stream results later rest)
    (none_due : ahead limit buffer stream = []) : ahead limit later rest = [] := by
  obtain ⟨-, -, done, -, ahead_eq⟩ := h.ahead_eq
  rw [none_due] at ahead_eq
  exact (List.append_eq_nil_iff.mp ahead_eq.symm).2

/-- An attempt takes off what is due first, or a failure. -/
theorem Attempted.length_lt (h : Attempted limit buffer stream result later rest)
    (some_due : ahead limit buffer stream ≠ []) :
    (ahead limit later rest).length + (failures rest).length <
      (ahead limit buffer stream).length + (failures stream).length := by
  have onward := h.onward []
  rw [List.append_nil, List.append_nil] at onward
  have failures_length := congrArg List.length onward.failures_eq
  rcases onward.ahead_eq with goes_on | ⟨-, -, none_due, -⟩
  · have due_length := congrArg List.length goes_on
    rw [List.length_append] at failures_length due_length
    by_cases completed : result.isCompleted
    · rw [if_pos completed, List.length_singleton] at due_length
      omega
    · rcases ReadResult.eq_of_not_isCompleted completed with waits | ⟨reason, rfl⟩
      · exact absurd (h.of_waiting waits).2 some_due
      · have one : (ReadResult.failed (.io reason)).failure?.toList.length = 1 := rfl
        rw [if_neg completed, List.length_nil] at due_length
        omega
  · exact absurd none_due some_due

/-- Enough attempts leave nothing that is due. -/
theorem ahead_attempts (clean : lineFeed ∉ octets buffer) (fits : buffer.size ≤ limit)
    (enough : (ahead limit buffer stream).length + (failures stream).length ≤ n) :
    ahead limit (perform limit (.replicate n .attempt) buffer stream).2.1
      (perform limit (.replicate n .attempt) buffer stream).2.2 = [] := by
  induction n generalizing buffer stream with
  | zero =>
      have zero : (ahead limit buffer stream).length = 0 := by omega
      exact List.eq_nil_of_length_eq_zero zero
  | succ n ih =>
      by_cases none_due : ahead limit buffer stream = []
      · have performed : Performed limit buffer (stream ++ arrived (.replicate (n + 1) .attempt)) _ _ _ :=
          perform_spec _ clean fits
        rw [arrived_attempts, List.append_nil] at performed
        exact performed.ahead_eq_nil none_due
      · have attempt := attempted stream clean fits
        have onward := attempt.onward []
        have fewer := attempt.length_lt none_due
        exact ih onward.clean onward.fits (by omega)

end

/-- Once everything has arrived, attempts for what is due of it and for its failures have read all of it. -/
theorem completed_attempts (limit : Nat) (actions : List Action) :
    let due := ahead limit .empty (arrived actions)
    let attempts := .replicate (due.length + (failures (arrived actions)).length) .attempt
    ∃ ends, (0 < ends → isEnded (arrived actions)) ∧
      (perform limit (actions ++ attempts) .empty []).1.filter ReadResult.isCompleted =
        due ++ .replicate ends .ended := by
  intro due attempts
  have so_far := perform_start limit actions
  have performed := perform_start limit (actions ++ attempts)
  rw [arrived_append, arrived_attempts, List.append_nil, perform_append] at performed
  rw [perform_append]
  generalize perform limit actions .empty [] = reached at so_far performed ⊢
  obtain ⟨results, buffer, rest⟩ := reached
  simp only at so_far performed ⊢
  -- what the schedule leaves is no more than what there was at its start
  have enough : (ahead limit buffer rest).length + (failures rest).length ≤
      due.length + (failures (arrived actions)).length := by
    obtain ⟨-, -, read, -, due_eq⟩ := so_far.ahead_eq
    have due_length : due.length = _ := (congrArg List.length due_eq).trans List.length_append
    have failures_length := (congrArg List.length so_far.failures_eq).trans List.length_append
    omega
  have none_left := ahead_attempts so_far.clean so_far.fits enough
  obtain ⟨ends, after_end, read, completed_eq, due_eq⟩ := performed.ahead_eq
  rw [none_left, List.append_nil] at due_eq
  refine ⟨ends, fun some_ends => (after_end some_ends).1, ?_⟩
  rw [completed_eq, ← due_eq]

end CallScript.Rpc.Framing
