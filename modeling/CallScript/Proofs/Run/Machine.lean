import Mathlib.Data.List.Induction
import CallScript.Run.State

/-! # The state machine under any events

What a run can come to, whatever is reported to it and in whatever order.  `Follows` is the diagram of the
state machine: one constructor for each arrow, and an event fits a state exactly if there is an arrow for it
(`next?_eq_some_iff`).  A `Trail` is what a list of events leaves behind: the transitions that were accepted,
and the state in the end.

* `Sound`: which lines a trail has begun and judged, and how long it is, as far as its state tells.
* `sound_after`: every trail is sound.
* `over_after_ending`: after a failure that ends the run no line is begun.
* `trail_invariant`: what holds of every trail. -/

namespace CallScript.Run

/-! ### The diagram -/

/-- What was reported of a line. -/
inductive Verdict where
  | passed
  | failed (isFatal : Bool)
  deriving DecidableEq

/-- A run goes on after a line that passed, and under the policy for it after a failure that is not fatal. -/
def Verdict.LeadsOn (policy : Policy) (v : Verdict) : Prop :=
  v = .passed ∨ policy = .proceed ∧ v = .failed false

/-- The states after a line from which the run goes on. -/
inductive State.Settled (policy : Policy) : State → Nat → Prop
  | passed (i : Nat) : Settled policy (.succeeded i) i
  | tolerated (i : Nat) (h : policy = .proceed) : Settled policy (.failed i false) i

/-- The arrows of the state machine. -/
inductive Follows (plan : Plan) : State → Event → State → Prop
  | started : Follows plan .idle .start .starting
  | ready : Follows plan .starting .sessionReady .ready
  | refused : Follows plan .starting .sessionFailed .aborted
  | nothing (h : plan.total = 0) : Follows plan .ready .next .completed
  | first (h : 0 < plan.total) : Follows plan .ready .next (.executing 0)
  | passed (i : Nat) : Follows plan (.executing i) .stepPassed (.succeeded i)
  | failed (i : Nat) (isFatal : Bool) :
      Follows plan (.executing i) (.stepFailed isFatal) (.failed i isFatal)
  | stopped (i : Nat) (isFatal : Bool) (h : ¬ (Verdict.failed isFatal).LeadsOn plan.policy) :
      Follows plan (.failed i isFatal) .next .aborted
  | onward {s : State} {i : Nat} (h : s.Settled plan.policy i) (more : i + 1 < plan.total) :
      Follows plan s .next (.executing (i + 1))
  | last {s : State} {i : Nat} (h : s.Settled plan.policy i) (no_more : ¬ i + 1 < plan.total) :
      Follows plan s .next .completed
  | interrupted {s : State} (h : s.isTerminal = false) : Follows plan s .interrupted .aborted

theorem Verdict.leadsOn_failed_iff {policy : Policy} {isFatal : Bool} :
    (Verdict.failed isFatal).LeadsOn policy ↔ isFatal = false ∧ policy = .proceed := by
  simp [LeadsOn, and_comm]

theorem Verdict.not_leadsOn_failed_iff {policy : Policy} {isFatal : Bool} :
    ¬ (Verdict.failed isFatal).LeadsOn policy ↔ isFatal = true ∨ policy = .abort := by
  rw [leadsOn_failed_iff]
  cases isFatal <;> cases policy <;> simp

theorem Verdict.exists_failed {policy : Policy} {v : Verdict} (h : ¬ v.LeadsOn policy) :
    ∃ isFatal, v = .failed isFatal := by
  cases v with
  | passed => exact absurd (.inl rfl) h
  | failed isFatal => exact ⟨isFatal, rfl⟩

theorem State.Settled.follows {plan : Plan} {s : State} {i : Nat} (h : s.Settled plan.policy i) :
    Follows plan s .next (plan.afterStep i) := by
  unfold Plan.afterStep
  split
  next more => exact .onward h more
  next no_more => exact .last h no_more

/-- An event fits a state exactly if there is an arrow for it, which leads to the next state. -/
theorem next?_eq_some_iff {plan : Plan} {s next : State} {event : Event} :
    s.next? plan event = some next ↔ Follows plan s event next := by
  constructor
  · intro h
    unfold State.next? at h
    split at h
    · cases h
      exact .started
    · cases h
      exact .ready
    · cases h
      exact .refused
    · cases h
      split
      next empty => exact .nothing empty
      next filled => exact .first (Nat.pos_of_ne_zero filled)
    · cases h
      exact .passed _
    · cases h
      exact .failed _ _
    next i =>
      cases h
      exact (State.Settled.passed i).follows
    next i isFatal =>
      cases h
      split
      next stop =>
        refine .stopped i isFatal (Verdict.not_leadsOn_failed_iff.mpr ?_)
        simpa using stop
      next go =>
        obtain ⟨rfl, policy⟩ : isFatal = false ∧ plan.policy = .proceed := by
          cases policy : plan.policy <;> simp_all
        exact (State.Settled.tolerated i policy).follows
    · split at h
      · cases h
      next going =>
        cases h
        exact .interrupted (by simpa using going)
    · cases h
  · intro h
    cases h with
    | started | ready | refused | passed | failed => rfl
    | nothing empty => simp [State.next?, empty]
    | first filled => simp [State.next?, Nat.ne_of_gt filled]
    | stopped i isFatal stop =>
        have stop : (isFatal || plan.policy = .abort) = true := by
          simpa using Verdict.not_leadsOn_failed_iff.mp stop
        simp only [State.next?, stop, if_true]
    | onward settled more => cases settled <;> simp_all [State.next?, Plan.afterStep]
    | last settled no_more => cases settled <;> simp_all [State.next?, Plan.afterStep]
    | interrupted going => cases s <;> simp_all [State.next?, State.isTerminal]

theorem advance_eq_ok_iff {plan : Plan} {s next : State} {event : Event} :
    s.advance plan event = .ok next ↔ Follows plan s event next := by
  rw [← next?_eq_some_iff]
  unfold State.advance
  cases s.next? plan event with
  | none => simp
  | some other => simp

theorem Follows.not_terminal {plan : Plan} {s next : State} {event : Event}
    (h : Follows plan s event next) : s.isTerminal = false := by
  cases h with
  | onward settled => cases settled <;> rfl
  | last settled => cases settled <;> rfl
  | interrupted going => exact going
  | _ => rfl

/-! ### Trails -/

/-- An event that was accepted, with the states that it led from and to. -/
structure Transition where
  source : State
  event : Event
  target : State
  deriving DecidableEq

/-- The line that is begun by a transition. -/
def Transition.begun? (t : Transition) : Option Nat :=
  match t.target with
  | .executing i => some i
  | _ => none

/-- The line that is judged by a transition, and how. -/
def Transition.judged? (t : Transition) : Option (Nat × Verdict) :=
  match t.source, t.event with
  | .executing i, .stepPassed => some (i, .passed)
  | .executing i, .stepFailed isFatal => some (i, .failed isFatal)
  | _, _ => none

/-- The lines that are begun, in order. -/
def begunLines (past : List Transition) : List Nat := past.filterMap Transition.begun?

/-- The lines that are judged, in order, and how. -/
def judgedLines (past : List Transition) : List (Nat × Verdict) := past.filterMap Transition.judged?

/-- What a list of events leaves behind: the transitions that were accepted, and the state in the end. -/
structure Trail where
  past : List Transition := []
  state : State := .idle
  deriving DecidableEq

/-- One more event; one that is refused leaves everything as it is. -/
def Trail.feed (plan : Plan) (t : Trail) (event : Event) : Trail :=
  match t.state.advance plan event with
  | .ok next => ⟨t.past ++ [⟨t.state, event, next⟩], next⟩
  | .error _ => t

/-- The trail of a list of events, from the beginning. -/
def Trail.after (plan : Plan) (events : List Event) : Trail := events.foldl (Trail.feed plan) {}

/-- The index of the line that a state is about. -/
def State.index? : State → Option Nat
  | .executing i | .succeeded i | .failed i _ => some i
  | _ => none

theorem begunLines_concat (past : List Transition) (t : Transition) :
    begunLines (past ++ [t]) = begunLines past ++ t.begun?.toList := by
  cases has : t.begun? <;> simp [begunLines, has]

theorem judgedLines_concat (past : List Transition) (t : Transition) :
    judgedLines (past ++ [t]) = judgedLines past ++ t.judged?.toList := by
  cases has : t.judged? <;> simp [judgedLines, has]

theorem Trail.after_concat (plan : Plan) (events : List Event) (event : Event) :
    after plan (events ++ [event]) = (after plan events).feed plan event := by
  simp [after]

theorem Trail.feed_cases (plan : Plan) (t : Trail) (event : Event) :
    (∃ next, Follows plan t.state event next ∧
      t.feed plan event = ⟨t.past ++ [⟨t.state, event, next⟩], next⟩) ∨ t.feed plan event = t := by
  unfold feed
  split
  next next accepted => exact .inl ⟨next, advance_eq_ok_iff.mp accepted, rfl⟩
  · exact .inr rfl

/-! ### Counting -/

/-- Transitions that have begun so many lines and judged so many, from the first on, and how many they
are. -/
structure Counts (past : List Transition) (lines verdicts accepted : Nat) : Prop where
  begun_eq : begunLines past = List.range lines
  judged_eq : (judgedLines past).map Prod.fst = List.range verdicts
  length_eq : past.length = accepted

section

variable {past : List Transition} {lines verdicts accepted : Nat} (h : Counts past lines verdicts accepted)
  {t : Transition}

include h

theorem Counts.pass (not_begun : t.begun? = none) (not_judged : t.judged? = none) :
    Counts (past ++ [t]) lines verdicts (accepted + 1) := by
  refine ⟨?_, ?_, by simp [h.length_eq]⟩
  · rw [begunLines_concat, not_begun, h.begun_eq]
    exact List.append_nil _
  · rw [judgedLines_concat, not_judged]
    simpa using h.judged_eq

theorem Counts.begin (begins : t.begun? = some lines) (not_judged : t.judged? = none) :
    Counts (past ++ [t]) (lines + 1) verdicts (accepted + 1) := by
  refine ⟨?_, ?_, by simp [h.length_eq]⟩
  · rw [begunLines_concat, begins, h.begun_eq, List.range_succ]
    rfl
  · rw [judgedLines_concat, not_judged]
    simpa using h.judged_eq

theorem Counts.judge {v : Verdict} (not_begun : t.begun? = none)
    (judges : t.judged? = some (verdicts, v)) :
    Counts (past ++ [t]) lines (verdicts + 1) (accepted + 1) := by
  refine ⟨?_, ?_, by simp [h.length_eq]⟩
  · rw [begunLines_concat, not_begun, h.begun_eq]
    exact List.append_nil _
  · rw [judgedLines_concat, judges, List.map_append, h.judged_eq, List.range_succ]
    rfl

end

/-- The run has gone on after every line judged so far. -/
def GoesOn (policy : Policy) (past : List Transition) : Prop := ∀ v ∈ judgedLines past, v.2.LeadsOn policy

section

variable {policy : Policy} {past : List Transition} {t : Transition} (h : GoesOn policy past)

include h

theorem GoesOn.pass (not_judged : t.judged? = none) : GoesOn policy (past ++ [t]) := by
  intro v member
  rw [judgedLines_concat, not_judged] at member
  exact h v (by simpa using member)

theorem GoesOn.judge {i : Nat} {v : Verdict} (judges : t.judged? = some (i, v))
    (onward : v.LeadsOn policy) : GoesOn policy (past ++ [t]) := by
  intro w member
  rw [judgedLines_concat, judges, List.mem_append] at member
  rcases member with earlier | latest
  · exact h w earlier
  · obtain rfl : w = (i, v) := by simpa using latest
    exact onward

end

/-- What a trail has come to, as far as its state tells.  Before the end the state tells all: which lines
have been begun and judged, and how many events have been accepted. -/
inductive Sound (plan : Plan) : Trail → Prop
  | idle : Sound plan {}
  | starting {past : List Transition} (counts : Counts past 0 0 1) (goes_on : GoesOn plan.policy past) :
      Sound plan ⟨past, .starting⟩
  | ready {past : List Transition} (counts : Counts past 0 0 2) (goes_on : GoesOn plan.policy past) :
      Sound plan ⟨past, .ready⟩
  | executing {past : List Transition} {i : Nat} (in_range : i < plan.total)
      (counts : Counts past (i + 1) i (2 * i + 3)) (goes_on : GoesOn plan.policy past) :
      Sound plan ⟨past, .executing i⟩
  | succeeded {past : List Transition} {i : Nat} (in_range : i < plan.total)
      (counts : Counts past (i + 1) (i + 1) (2 * i + 4)) (goes_on : GoesOn plan.policy past) :
      Sound plan ⟨past, .succeeded i⟩
  | failed {past : List Transition} {i : Nat} {isFatal : Bool} (in_range : i < plan.total)
      (counts : Counts past (i + 1) (i + 1) (2 * i + 4))
      (goes_on : (Verdict.failed isFatal).LeadsOn plan.policy → GoesOn plan.policy past) :
      Sound plan ⟨past, .failed i isFatal⟩
  | completed {past : List Transition} (counts : Counts past plan.total plan.total (2 * plan.total + 3))
      (goes_on : GoesOn plan.policy past) : Sound plan ⟨past, .completed⟩
  | aborted {past : List Transition} {lines verdicts accepted : Nat}
      (counts : Counts past lines verdicts accepted) (lines_le : lines ≤ plan.total)
      (accepted_le : accepted ≤ 2 * plan.total + 3) : Sound plan ⟨past, .aborted⟩

/-- After a settled line, all lines up to it have been judged and the run has gone on after each. -/
theorem Sound.settled {plan : Plan} {past : List Transition} {s : State} {i : Nat}
    (h : Sound plan ⟨past, s⟩) (settled : s.Settled plan.policy i) :
    i < plan.total ∧ Counts past (i + 1) (i + 1) (2 * i + 4) ∧ GoesOn plan.policy past := by
  cases settled with
  | passed =>
      cases h with
      | succeeded in_range counts goes_on => exact ⟨in_range, counts, goes_on⟩
  | tolerated _ policy =>
      cases h with
      | failed in_range counts goes_on =>
          exact ⟨in_range, counts, goes_on (Verdict.leadsOn_failed_iff.mpr ⟨rfl, policy⟩)⟩

theorem Sound.room {plan : Plan} {past : List Transition} {s : State} (h : Sound plan ⟨past, s⟩)
    (going : s.isTerminal = false) :
    ∃ lines verdicts accepted, Counts past lines verdicts accepted ∧ lines ≤ plan.total ∧
      accepted + 1 ≤ 2 * plan.total + 3 := by
  cases h with
  | idle => exact ⟨0, 0, 0, ⟨rfl, rfl, rfl⟩, by omega, by omega⟩
  | starting counts | ready counts => exact ⟨_, _, _, counts, by omega, by omega⟩
  | executing in_range counts | succeeded in_range counts | failed in_range counts =>
      exact ⟨_, _, _, counts, by omega, by omega⟩
  | completed | aborted => cases going

theorem Sound.step {plan : Plan} {past : List Transition} {s next : State} {event : Event}
    (h : Sound plan ⟨past, s⟩) (arrow : Follows plan s event next) :
    Sound plan ⟨past ++ [⟨s, event, next⟩], next⟩ := by
  cases arrow with
  | started =>
      cases h with
      | idle => exact .starting ⟨rfl, rfl, rfl⟩ (by nofun)
  | ready =>
      cases h with
      | starting counts goes_on => exact .ready (counts.pass rfl rfl) (goes_on.pass rfl)
  | refused =>
      cases h with
      | starting counts => exact .aborted (counts.pass rfl rfl) (by omega) (by omega)
  | nothing empty =>
      cases h with
      | ready counts goes_on =>
          have passed := counts.pass (t := ⟨.ready, .next, .completed⟩) rfl rfl
          refine .completed ?_ (goes_on.pass rfl)
          rw [empty]
          exact passed
  | first filled =>
      cases h with
      | ready counts goes_on => exact .executing filled (counts.begin rfl rfl) (goes_on.pass rfl)
  | passed =>
      cases h with
      | executing in_range counts goes_on =>
          exact .succeeded in_range (counts.judge rfl rfl) (goes_on.judge rfl (.inl rfl))
  | failed =>
      cases h with
      | executing in_range counts goes_on =>
          exact .failed in_range (counts.judge rfl rfl) fun onward => goes_on.judge rfl onward
  | stopped =>
      cases h with
      | failed in_range counts => exact .aborted (counts.pass rfl rfl) (by omega) (by omega)
  | onward settled more =>
      obtain ⟨-, counts, goes_on⟩ := h.settled settled
      have not_judged : ∀ next, (Transition.mk s .next next).judged? = none := by
        cases settled <;> exact fun _ => rfl
      exact .executing more (counts.begin rfl (not_judged _)) (goes_on.pass (not_judged _))
  | @last _ i settled no_more =>
      obtain ⟨in_range, counts, goes_on⟩ := h.settled settled
      have not_judged : ∀ next, (Transition.mk s .next next).judged? = none := by
        cases settled <;> exact fun _ => rfl
      have passed := counts.pass (t := ⟨s, .next, .completed⟩) rfl (not_judged _)
      have total_eq : i + 1 = plan.total := by omega
      have length_eq : 2 * i + 4 + 1 = 2 * plan.total + 3 := by omega
      rw [total_eq, length_eq] at passed
      exact .completed passed (goes_on.pass (not_judged _))
  | interrupted going =>
      obtain ⟨lines, verdicts, accepted, counts, lines_le, room⟩ := h.room going
      have not_judged : (Transition.mk s .interrupted .aborted).judged? = none := by cases s <;> rfl
      exact .aborted (counts.pass rfl not_judged) lines_le room

/-- Every trail is sound. -/
theorem sound_after (plan : Plan) (events : List Event) : Sound plan (.after plan events) := by
  induction events using List.reverseRecOn with
  | nil => exact .idle
  | append_singleton events event ih =>
      rw [Trail.after_concat]
      rcases Trail.feed_cases plan (.after plan events) event with ⟨next, arrow, fed⟩ | same
      · rw [fed]
        exact ih.step arrow
      · rw [same]
        exact ih

/-! ### Failures that end the run -/

/-- The states after a failure that ends the run. -/
inductive State.Over (policy : Policy) : State → Prop
  | aborted : Over policy .aborted
  | failed (i : Nat) {isFatal : Bool} (h : ¬ (Verdict.failed isFatal).LeadsOn policy) :
      Over policy (.failed i isFatal)

theorem State.Over.step {plan : Plan} {s next : State} {event : Event} (h : s.Over plan.policy)
    (arrow : Follows plan s event next) : next = .aborted := by
  cases h with
  | aborted => exact absurd arrow.not_terminal (by simp [State.isTerminal])
  | failed i ending =>
      cases arrow with
      | stopped => rfl
      | interrupted => rfl
      | onward settled =>
          cases settled with
          | tolerated _ policy => exact absurd (Verdict.leadsOn_failed_iff.mpr ⟨rfl, policy⟩) ending
      | last settled =>
          cases settled with
          | tolerated _ policy => exact absurd (Verdict.leadsOn_failed_iff.mpr ⟨rfl, policy⟩) ending

/-- An arrow that judges a line as failed leads to the state that says so. -/
theorem Follows.target_of_judged {plan : Plan} {s next : State} {event : Event} {i : Nat}
    {isFatal : Bool} (h : Follows plan s event next)
    (judges : (Transition.mk s event next).judged? = some (i, .failed isFatal)) :
    next = .failed i isFatal := by
  cases h with
  | failed =>
      cases judges
      rfl
  | onward settled => cases settled <;> cases judges
  | last settled => cases settled <;> cases judges
  | interrupted => cases s <;> cases judges
  | _ => cases judges

/-- After a failure that ends the run, no line is begun. -/
theorem over_after_ending {plan : Plan} {events : List Event} {earlier later : List Transition}
    {t : Transition} {i : Nat} {v : Verdict} (split : (Trail.after plan events).past = earlier ++ t :: later)
    (judges : t.judged? = some (i, v)) (ending : ¬ v.LeadsOn plan.policy) :
    begunLines later = [] ∧ (Trail.after plan events).state.Over plan.policy := by
  obtain ⟨isFatal, rfl⟩ := Verdict.exists_failed ending
  -- The last transition is the failure itself, or comes after it.
  induction events using List.reverseRecOn generalizing later with
  | nil => simp [Trail.after] at split
  | append_singleton events event ih =>
      rw [Trail.after_concat] at split ⊢
      rcases Trail.feed_cases plan (.after plan events) event with ⟨next, arrow, fed⟩ | same
      · rw [fed] at split ⊢
        rcases List.eq_nil_or_concat later with rfl | ⟨before, latest, rfl⟩
        · obtain ⟨-, same⟩ := List.append_inj' split rfl
          obtain rfl := List.singleton_inj.mp same
          obtain rfl := arrow.target_of_judged judges
          exact ⟨rfl, .failed i ending⟩
        · rw [List.concat_eq_append, ← List.cons_append, ← List.append_assoc] at split
          obtain ⟨split_before, same⟩ := List.append_inj' split rfl
          obtain rfl := List.singleton_inj.mp same
          obtain ⟨none_begun, ended⟩ := ih split_before
          obtain rfl := ended.step arrow
          refine ⟨?_, .aborted⟩
          rw [List.concat_eq_append, begunLines_concat, none_begun]
          rfl
      · rw [same] at split ⊢
        exact ih split

/-! ### What holds of every trail -/

theorem Sound.index_lt {plan : Plan} {t : Trail} (h : Sound plan t) {i : Nat}
    (at_line : t.state.index? = some i) : i < plan.total := by
  cases h with
  | executing in_range | succeeded in_range | failed in_range =>
      cases at_line
      exact in_range
  | idle | starting | ready | completed | aborted => cases at_line

theorem Sound.begun_eq {plan : Plan} {t : Trail} (h : Sound plan t) :
    ∃ n, n ≤ plan.total ∧ begunLines t.past = List.range n := by
  cases h with
  | idle => exact ⟨0, by omega, rfl⟩
  | starting counts | ready counts => exact ⟨_, by omega, counts.begun_eq⟩
  | executing in_range counts | succeeded in_range counts | failed in_range counts =>
      exact ⟨_, in_range, counts.begun_eq⟩
  | completed counts => exact ⟨_, Nat.le_refl _, counts.begun_eq⟩
  | aborted counts lines_le => exact ⟨_, lines_le, counts.begun_eq⟩

theorem Sound.length_le {plan : Plan} {t : Trail} (h : Sound plan t) :
    t.past.length ≤ 2 * plan.total + 3 := by
  obtain ⟨past, s⟩ := t
  cases going : s.isTerminal with
  | false =>
      obtain ⟨lines, verdicts, accepted, counts, -, room⟩ := h.room going
      rw [counts.length_eq]
      omega
  | true =>
      cases h with
      | completed counts => exact Nat.le_of_eq counts.length_eq
      | aborted counts _ accepted_le =>
          rw [counts.length_eq]
          exact accepted_le
      | _ => cases going

/-- What holds of the state machine under any events, of which those that do not fit are refused and change
nothing.  A state about a line is about a line of the script.  The lines are begun in their order, each at
most once.  The run is complete only if every line has been begun and judged and the run has gone on after
each.  No line is begun after a fatal failure, or after any failure if failures end the run.  The two final
states refuse every event, and all others, and only they, accept an interrupt.  At most two events for each
line and three more are accepted. -/
theorem trail_invariant (plan : Plan) (events : List Event) :
    let t := Trail.after plan events
    (∀ i, t.state.index? = some i → i < plan.total) ∧
      (∃ n, n ≤ plan.total ∧ begunLines t.past = List.range n) ∧
      (t.state = .completed → begunLines t.past = List.range plan.total ∧
        (judgedLines t.past).map Prod.fst = List.range plan.total ∧
        ∀ v ∈ judgedLines t.past, v.2 = .passed ∨ plan.policy = .proceed ∧ v.2 = .failed false) ∧
      (∀ earlier failure later i isFatal, t.past = earlier ++ failure :: later →
        failure.judged? = some (i, .failed isFatal) → isFatal = true ∨ plan.policy = .abort →
          begunLines later = []) ∧
      (∀ event, (∃ e, State.aborted.advance plan event = .error e) ∧
        ∃ e, State.completed.advance plan event = .error e) ∧
      (∀ s : State, (∃ next, s.advance plan .interrupted = .ok next) ↔ s ≠ .aborted ∧ s ≠ .completed) ∧
      t.past.length ≤ 2 * plan.total + 3 := by
  intro t
  have sound : Sound plan t := sound_after plan events
  refine ⟨fun i => sound.index_lt, sound.begun_eq, ?_, ?_, ?_, ?_, sound.length_le⟩
  · intro completed
    obtain ⟨past, s⟩ := t
    cases completed
    cases sound with
    | completed counts goes_on => exact ⟨counts.begun_eq, counts.judged_eq, goes_on⟩
  · intro earlier failure later i isFatal split judges ending
    exact (over_after_ending split judges (Verdict.not_leadsOn_failed_iff.mpr ending)).1
  · have refused : ∀ s : State, s.isTerminal = true → ∀ event, ∃ e, s.advance plan event = .error e := by
      intro s terminal event
      cases accepted : s.advance plan event with
      | error e => exact ⟨e, rfl⟩
      | ok next =>
          have going := (advance_eq_ok_iff.mp accepted).not_terminal
          rw [terminal] at going
          cases going
    exact fun event => ⟨refused .aborted rfl event, refused .completed rfl event⟩
  · intro s
    simp only [advance_eq_ok_iff]
    constructor
    · rintro ⟨next, arrow⟩
      have going := arrow.not_terminal
      constructor <;> rintro rfl <;> cases going
    · rintro ⟨not_aborted, not_completed⟩
      refine ⟨.aborted, .interrupted ?_⟩
      cases s <;> first | rfl | contradiction

/-- The bound is reached by a run of one line; the two events that do not fit are refused. -/
example : (Trail.after ⟨1, .abort⟩
    [.start, .stepPassed, .sessionReady, .next, .stepPassed, .next, .interrupted]).past.length = 5 := by
  decide

end CallScript.Run
