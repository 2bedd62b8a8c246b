import CallScript.Proofs.Session.Log
import Mathlib.Data.List.Basic

/-! # The life of a session

However a session is used and whatever its process does meanwhile, the log of what is done with the process is in
order: the process is asked to end at most once, and not once its end has been observed; and nothing is sent to it
once its end has been observed or the session has been stopped.  `Act.precludes` says which acts rule out which,
and `Session.Orderly` is what every operation preserves: the log is in order, and the session knows what is in
it.

* `Session.Orderly.perform`, `Session.Orderly.performAll`: one operation, and any number of them.
* `Session.outcome_of_stopped`: what can come of a session that has been stopped.
* `Session.ids_performAll`: the ids that are handed out.
* `Session.life_is_orderly`: the life of a session from its start until it is dropped. -/

namespace CallScript

open Rpc Rpc.Framing

namespace Act

/-- Whether an act rules out a later one. -/
def precludes : Act → Act → Bool
  | .asked (some _), .terminated | .asked (some _), .sent _ | .closed, .sent _ | .terminated, .terminated => true
  | _, _ => false

variable (first : Act)

@[simp] theorem precludes_asked (status : Option ExitStatus) : first.precludes (.asked status) = false := by
  rcases first with ⟨_ | _⟩ | _ | _ | _ | _ <;> rfl

@[simp] theorem precludes_closed : first.precludes .closed = false := by
  rcases first with ⟨_ | _⟩ | _ | _ | _ | _ <;> rfl

@[simp] theorem precludes_killed : first.precludes .killed = false := by
  rcases first with ⟨_ | _⟩ | _ | _ | _ | _ <;> rfl

variable {first}

theorem precludes_sent {text : String} :
    first.precludes (.sent text) = true ↔ (∃ status, first = .asked (some status)) ∨ first = .closed := by
  rcases first with ⟨_ | _⟩ | _ | _ | _ | _ <;> simp [precludes]

theorem precludes_terminated :
    first.precludes .terminated = true ↔ (∃ status, first = .asked (some status)) ∨ first = .terminated := by
  rcases first with ⟨_ | _⟩ | _ | _ | _ | _ <;> simp [precludes]

/-- Acts in order: none of them rules out a later one. -/
def InOrder (acts : List Act) : Prop := acts.Pairwise fun first later => first.precludes later = false

/-- Acts that come after others are in order if they are among themselves, and none of the others rules out one
of them. -/
theorem InOrder.append {acts more : List Act} (inOrder : InOrder acts) (more_inOrder : InOrder more)
    (free : ∀ first ∈ acts, ∀ later ∈ more, first.precludes later = false) : InOrder (acts ++ more) :=
  List.pairwise_append.mpr ⟨inOrder, more_inOrder, free⟩

theorem InOrder.of_mem_append {acts more : List Act} {first later : Act} (inOrder : InOrder (acts ++ more))
    (before : first ∈ acts) (after : later ∈ more) : first.precludes later = false :=
  (List.pairwise_append.mp inOrder).2.2 first before later after

theorem InOrder.of_mem_after {before after : List Act} {first later : Act}
    (inOrder : InOrder (before ++ first :: after)) (member : later ∈ after) : first.precludes later = false := by
  rw [List.append_cons] at inOrder
  exact inOrder.of_mem_append List.mem_concat_self member

/-- In order, a process is asked to end at most once. -/
theorem InOrder.count_terminated {acts : List Act} (inOrder : InOrder acts) : acts.count .terminated ≤ 1 := by
  induction acts with
  | nil => exact Nat.zero_le _
  | cons first rest ih =>
      obtain ⟨free, rest_inOrder⟩ := List.pairwise_cons.mp inOrder
      by_cases asked : first = .terminated
      · have once : .terminated ∉ rest := fun again => by simpa [asked, precludes] using free _ again
        have count_eq : (first :: rest).count .terminated = 1 := by
          rw [asked, List.count_cons_self, List.count_eq_zero.mpr once]
        exact Nat.le_of_eq count_eq
      · rw [List.count_cons_of_ne asked]
        exact ih rest_inOrder

theorem InOrder.concat {acts : List Act} {act : Act} (inOrder : InOrder acts)
    (free : ∀ first ∈ acts, first.precludes act = false) : InOrder (acts ++ [act]) :=
  inOrder.append (List.pairwise_singleton _ _) fun first member later last => by
    rw [List.mem_singleton.mp last]
    exact free first member

end Act

namespace Session

open Act (InOrder)

variable {κ : Type}

/-- The log of a session is in order, and the session knows what is in it. -/
structure Orderly (s : Session (Logged κ)) : Prop where
  inOrder : InOrder s.child.acts
  isOpen_eq : s.isInputOpen = !s.isStopped
  known : ∀ status, .asked (some status) ∈ s.child.acts → s.status.isSome
  closed_iff : .closed ∈ s.child.acts ↔ s.isStopped
  stopped_of_terminated : .terminated ∈ s.child.acts → s.isStopped

variable {ch : Child κ} {s : Session (Logged κ)}

/-! ### One operation -/

theorem Orderly.exitStatus (orderly : s.Orderly) : (s.exitStatus ch.logged).2.Orderly := by
  cases known : s.status with
  | some status =>
      rw [exitStatus_of_known known]
      exact orderly
  | none =>
      rw [exitStatus_of_unknown known, Child.logged_poll]
      constructor
      case inOrder => exact orderly.inOrder.concat (by simp)
      case isOpen_eq => exact orderly.isOpen_eq
      case known =>
        intro status asked
        rcases List.mem_append.mp asked with before | now
        · simpa [known] using orderly.known status before
        · have answered : some status = (ch.poll s.child.state).1 := Act.asked.inj (List.mem_singleton.mp now)
          rw [← answered]
          rfl
      case closed_iff => simpa using orderly.closed_iff
      case stopped_of_terminated => simpa using orderly.stopped_of_terminated

theorem Orderly.send (orderly : s.Orderly) (unknown : s.status = none) (isOpen : s.isInputOpen = true)
    (text : String) (state : κ) : ({ s with child := s.child.note (.sent text) state } : Session _).Orderly := by
  have running : s.isStopped = false := by simpa [isOpen] using orderly.isOpen_eq
  constructor
  case inOrder =>
    refine orderly.inOrder.concat fun first member => ?_
    rw [Bool.eq_false_iff, ne_eq, Act.precludes_sent]
    rintro (⟨status, rfl⟩ | rfl)
    · simpa [unknown] using orderly.known status member
    · simpa [running] using orderly.closed_iff.mp member
  case isOpen_eq => exact orderly.isOpen_eq
  case known => simpa using orderly.known
  case closed_iff => simpa using orderly.closed_iff
  case stopped_of_terminated => simpa using orderly.stopped_of_terminated

theorem status_exitStatus (ch : Child κ) (s : Session κ) : (s.exitStatus ch).2.status = (s.exitStatus ch).1 := by
  cases known : s.status with
  | some status => rw [exitStatus_of_known known, known]
  | none => rw [exitStatus_of_unknown known]

/-- Writing a line asks how the process ended, and then perhaps sends the line. -/
theorem writeLine_cases (ch : Child κ) (s : Session κ) (line : String) :
    (s.writeLine ch line).2 = (s.exitStatus ch).2 ∨
      (s.exitStatus ch).1 = none ∧ (s.exitStatus ch).2.isInputOpen = true ∧ ∃ framed,
        (s.writeLine ch line).2 =
          { (s.exitStatus ch).2 with child := (ch.send (s.exitStatus ch).2.child framed).2 } := by
  unfold writeLine
  rcases s.exitStatus ch with ⟨_ | status, asked⟩
  · dsimp only
    split
    · exact .inl rfl
    next isOpen =>
      cases frame line with
      | error e => exact .inl rfl
      | ok framed =>
          refine .inr ⟨rfl, by simpa using isOpen, framed, ?_⟩
          dsimp only
          rcases ch.send asked.child framed with ⟨_ | _, child⟩
          · rfl
          · rfl
  · exact .inl rfl

theorem Orderly.writeLine (orderly : s.Orderly) (line : String) : (s.writeLine ch.logged line).2.Orderly := by
  rcases writeLine_cases ch.logged s line with asked | ⟨unknown, isOpen, framed, sent⟩
  · rw [asked]
    exact orderly.exitStatus
  · rw [sent]
    exact orderly.exitStatus.send ((status_exitStatus _ _).trans unknown) isOpen framed _

/-- What reading leaves as it is. -/
structure SameBut (s t : Session (Logged κ)) : Prop where
  acts : t.child.acts = s.child.acts
  status : t.status = s.status
  isStopped : t.isStopped = s.isStopped
  isInputOpen : t.isInputOpen = s.isInputOpen
  ids : t.ids = s.ids

theorem sameBut_readUntil (allowed deadline : Duration) : SameBut s (readUntil ch.logged allowed deadline s).2 := by
  fun_induction readUntil ch.logged allowed deadline s with
  | case6 s buffer inbox read now delivery child received ih =>
      obtain ⟨-, rfl⟩ := Prod.mk.inj received
      exact ⟨ih.acts, ih.status, ih.isStopped, ih.isInputOpen, ih.ids⟩
  | case5 s buffer inbox read now child received =>
      obtain ⟨-, rfl⟩ := Prod.mk.inj received
      exact ⟨rfl, rfl, rfl, rfl, rfl⟩
  | _ => exact ⟨rfl, rfl, rfl, rfl, rfl⟩

theorem sameBut_readLine (allowed : Duration) : SameBut s (s.readLine ch.logged allowed).2 := by
  have read : SameBut { s with child := (ch.logged.clock s.child).2 } (s.readLine ch.logged allowed).2 :=
    sameBut_readUntil allowed _
  exact ⟨read.acts, read.status, read.isStopped, read.isInputOpen, read.ids⟩

theorem Orderly.of_sameBut {t : Session (Logged κ)} (orderly : s.Orderly) (same : SameBut s t) : t.Orderly where
  inOrder := same.acts ▸ orderly.inOrder
  isOpen_eq := by rw [same.isInputOpen, same.isStopped, orderly.isOpen_eq]
  known := by rw [same.acts, same.status]; exact orderly.known
  closed_iff := by rw [same.acts, same.isStopped]; exact orderly.closed_iff
  stopped_of_terminated := by rw [same.acts, same.isStopped]; exact orderly.stopped_of_terminated

/-- What is done with a process to stop it, by what is known of its end before, and by its answers. -/
def parting : Option ExitStatus → Option ExitStatus → Option ExitStatus → List Act
  | some _, _, _ => [.closed]
  | none, some status, _ => [.closed, .asked (some status)]
  | none, none, some status => [.closed, .asked none, .terminated, .asked (some status)]
  | none, none, none => [.closed, .asked none, .terminated, .asked none, .killed]

theorem acts_farewell (ch : Child κ) (s : Session (Logged κ)) (grace : Duration) :
    ∃ first second, (s.farewell ch.logged grace).2.acts = s.child.acts ++ parting s.status first second ∧
      (s.farewell ch.logged grace).1 = (s.status.or first).or second := by
  unfold farewell
  cases s.status with
  | some status => exact ⟨none, none, rfl, rfl⟩
  | none =>
      dsimp only
      rw [Child.logged_poll]
      rcases ch.poll (ch.logged.closeInput s.child).state with ⟨_ | status, child⟩
      · dsimp only
        rw [Child.logged_await]
        rcases ch.await (ch.logged.terminate _).state grace with ⟨_ | status, ended⟩
        · exact ⟨none, none, by simp [Child.logged, parting], rfl⟩
        · exact ⟨none, some status, by simp [Child.logged, parting], rfl⟩
      · exact ⟨some status, none, by simp [Child.logged, parting], rfl⟩

section parting

variable {known first second : Option ExitStatus}

theorem inOrder_parting : InOrder (parting known first second) := by
  unfold InOrder
  rcases known with _ | _ <;> rcases first with _ | _ <;> rcases second with _ | _ <;> simp [parting, Act.precludes]

theorem parting_eq_cons : ∃ rest, parting known first second = .closed :: rest := by
  rcases known with _ | _ <;> rcases first with _ | _ <;> rcases second with _ | _ <;> exact ⟨_, rfl⟩

theorem sent_not_mem_parting (text : String) : .sent text ∉ parting known first second := by
  rcases known with _ | _ <;> rcases first with _ | _ <;> rcases second with _ | _ <;> simp [parting]

/-- A process is asked to end only if nothing was known of its end. -/
theorem eq_none_of_terminated (asked : .terminated ∈ parting known first second) : known = none := by
  rcases known with _ | _
  · rfl
  · simp [parting] at asked

theorem isSome_of_asked {status : ExitStatus} (asked : .asked (some status) ∈ parting known first second) :
    ((known.or first).or second).isSome := by
  rcases known with _ | _ <;> rcases first with _ | _ <;> rcases second with _ | _ <;> simp_all [parting]

end parting

theorem acts_stop (ch : Child κ) (running : s.isStopped = false) (grace : Duration) :
    ∃ first second, (s.stop ch.logged grace).child.acts = s.child.acts ++ parting s.status first second ∧
      (s.stop ch.logged grace).status = (s.status.or first).or second := by
  obtain ⟨first, second, acts_eq, status_eq⟩ := acts_farewell ch s grace
  rw [stop_of_running running]
  exact ⟨first, second, acts_eq, status_eq⟩

theorem unsent_while_stopping (ch : Child κ) (s : Session (Logged κ)) (grace : Duration) :
    ∃ acts, (s.stop ch.logged grace).child.acts = s.child.acts ++ acts ∧ ∀ text, .sent text ∉ acts := by
  cases stopped : s.isStopped with
  | true =>
      refine ⟨[], ?_, by simp⟩
      rw [stop_of_isStopped stopped, List.append_nil]
  | false =>
      obtain ⟨first, second, acts_eq, -⟩ := acts_stop ch stopped grace
      exact ⟨_, acts_eq, sent_not_mem_parting⟩

theorem isStopped_stop (ch : Child κ) (s : Session κ) (grace : Duration) : (s.stop ch grace).isStopped = true := by
  cases stopped : s.isStopped with
  | true => rw [stop_of_isStopped stopped, stopped]
  | false => rw [stop_of_running stopped]

theorem ids_stop (ch : Child κ) (s : Session κ) (grace : Duration) : (s.stop ch grace).ids = s.ids := by
  cases stopped : s.isStopped with
  | true => rw [stop_of_isStopped stopped]
  | false => rw [stop_of_running stopped]

theorem Orderly.stop (orderly : s.Orderly) (grace : Duration) : (s.stop ch.logged grace).Orderly := by
  cases stopped : s.isStopped with
  | true =>
      rw [stop_of_isStopped stopped]
      exact orderly
  | false =>
      obtain ⟨first, second, acts_eq, status_eq⟩ := acts_stop ch stopped grace
      constructor
      case inOrder =>
        rw [acts_eq]
        refine orderly.inOrder.append inOrder_parting fun earlier before later now => ?_
        rw [Bool.eq_false_iff]
        intro ruled_out
        -- Of what is done to stop it, only being asked to end could be ruled out by something earlier.
        cases later with
        | terminated =>
            have unknown := eq_none_of_terminated now
            rcases Act.precludes_terminated.mp ruled_out with ⟨status, rfl⟩ | rfl
            · simpa [unknown] using orderly.known status before
            · simpa [stopped] using orderly.stopped_of_terminated before
        | sent text => exact sent_not_mem_parting text now
        | asked status => simp at ruled_out
        | killed => simp at ruled_out
        | closed => simp at ruled_out
      case isOpen_eq => rw [stop_of_running stopped]; rfl
      case known =>
        intro status asked
        rw [acts_eq] at asked
        rw [status_eq]
        rcases List.mem_append.mp asked with before | now
        · simp [orderly.known status before]
        · exact isSome_of_asked now
      case closed_iff =>
        obtain ⟨rest, parting_eq⟩ : ∃ rest, parting s.status first second = .closed :: rest := parting_eq_cons
        simp [acts_eq, parting_eq, isStopped_stop]
      case stopped_of_terminated => exact fun _ => isStopped_stop _ _ _

theorem Orderly.perform (orderly : s.Orderly) (operation : Operation) :
    (s.perform ch.logged operation).2.Orderly := by
  cases operation with
  | write line => exact orderly.writeLine line
  | read allowed => exact orderly.of_sameBut (sameBut_readLine allowed)
  | takeId =>
      exact ⟨orderly.inOrder, orderly.isOpen_eq, orderly.known, orderly.closed_iff, orderly.stopped_of_terminated⟩
  | isAlive => exact orderly.exitStatus
  | stop grace => exact orderly.stop grace

/-! ### What an operation leaves as it is -/

theorem acts_exitStatus : s.child.acts <+: (s.exitStatus ch.logged).2.child.acts := by
  cases known : s.status with
  | some status => simp [exitStatus_of_known known]
  | none =>
      rw [exitStatus_of_unknown known]
      exact List.prefix_append _ _

theorem acts_perform (ch : Child κ) (s : Session (Logged κ)) (operation : Operation) :
    s.child.acts <+: (s.perform ch.logged operation).2.child.acts := by
  cases operation with
  | write line =>
      rcases writeLine_cases ch.logged s line with asked | ⟨-, -, framed, sent⟩
      · change s.child.acts <+: (s.writeLine ch.logged line).2.child.acts
        rw [asked]
        exact acts_exitStatus
      · change s.child.acts <+: (s.writeLine ch.logged line).2.child.acts
        rw [sent]
        exact acts_exitStatus.trans (List.prefix_append _ _)
  | read allowed => exact (sameBut_readLine allowed).acts ▸ List.prefix_refl _
  | takeId => exact List.prefix_refl _
  | isAlive => exact acts_exitStatus
  | stop grace =>
      obtain ⟨acts, acts_eq, -⟩ := unsent_while_stopping ch s grace
      exact ⟨acts, acts_eq.symm⟩

theorem flags_exitStatus (ch : Child κ) (s : Session κ) :
    (s.exitStatus ch).2.isStopped = s.isStopped ∧ (s.exitStatus ch).2.isInputOpen = s.isInputOpen ∧
      (s.exitStatus ch).2.ids = s.ids := by
  cases known : s.status with
  | some status => simp [exitStatus_of_known known]
  | none => simp [exitStatus_of_unknown known]

theorem flags_writeLine (ch : Child κ) (s : Session κ) (line : String) :
    (s.writeLine ch line).2.isStopped = s.isStopped ∧ (s.writeLine ch line).2.ids = s.ids := by
  have asked := flags_exitStatus ch s
  rcases writeLine_cases ch s line with asked_eq | ⟨-, -, framed, sent_eq⟩
  · rw [asked_eq]
    exact ⟨asked.1, asked.2.2⟩
  · rw [sent_eq]
    exact ⟨asked.1, asked.2.2⟩

theorem isStopped_perform (stopped : s.isStopped = true) (operation : Operation) :
    (s.perform ch.logged operation).2.isStopped = true := by
  cases operation with
  | write line => exact (flags_writeLine ch.logged s line).1.trans stopped
  | read allowed => exact (sameBut_readLine allowed).isStopped.trans stopped
  | takeId => exact stopped
  | isAlive => exact (flags_exitStatus ch.logged s).1.trans stopped
  | stop grace => exact isStopped_stop _ _ _

theorem writeLine_of_closed {κ : Type} (ch : Child κ) {s : Session κ} (closed : s.isInputOpen = false)
    (line : String) : ∃ message, (s.writeLine ch line).1 = .error (.connection message) := by
  unfold Session.writeLine
  have closed_asked := (flags_exitStatus ch s).2.1.trans closed
  rcases exit : s.exitStatus ch with ⟨_ | status, asked⟩
  · rw [exit] at closed_asked
    dsimp only at closed_asked ⊢
    rw [closed_asked]
    exact ⟨_, rfl⟩
  · exact ⟨_, rfl⟩

/-- What can come of a session that has been stopped. -/
theorem outcome_of_stopped (orderly : s.Orderly) (stopped : s.isStopped = true) (operation : Operation)
    {result : Except Error Unit} (outcome : (s.perform ch.logged operation).1 = .written result) :
    ∃ message, result = .error (.connection message) := by
  cases operation with
  | write line =>
      have closed : s.isInputOpen = false := by rw [orderly.isOpen_eq, stopped]; rfl
      obtain ⟨message, written⟩ := writeLine_of_closed ch.logged closed line
      exact ⟨message, (Outcome.written.inj outcome).symm.trans written⟩
  | read allowed => cases outcome
  | takeId => cases outcome
  | isAlive => cases outcome
  | stop grace => cases outcome

/-! ### Any number of operations -/

theorem performAll_append {κ : Type} (ch : Child κ) (s : Session κ) (operations more : List Operation) :
    s.performAll ch (operations ++ more) =
      ((s.performAll ch operations).1 ++ ((s.performAll ch operations).2.performAll ch more).1,
        ((s.performAll ch operations).2.performAll ch more).2) := by
  induction operations generalizing s with
  | nil => rfl
  | cons operation rest ih =>
      simp only [List.cons_append, performAll, ih]

theorem Orderly.performAll (orderly : s.Orderly) (operations : List Operation) :
    (s.performAll ch.logged operations).2.Orderly := by
  induction operations generalizing s with
  | nil => exact orderly
  | cons operation rest ih => exact ih (orderly.perform operation)

theorem acts_performAll (ch : Child κ) (s : Session (Logged κ)) (operations : List Operation) :
    s.child.acts <+: (s.performAll ch.logged operations).2.child.acts := by
  induction operations generalizing s with
  | nil => exact List.prefix_refl _
  | cons operation rest ih => exact (acts_perform ch s operation).trans (ih _)

theorem isStopped_performAll (stopped : s.isStopped = true) (operations : List Operation) :
    (s.performAll ch.logged operations).2.isStopped = true := by
  induction operations generalizing s with
  | nil => exact stopped
  | cons operation rest ih => exact ih (isStopped_perform stopped operation)

theorem outcomes_of_stopped (orderly : s.Orderly) (stopped : s.isStopped = true) (operations : List Operation)
    {result : Except Error Unit} (outcome : .written result ∈ (s.performAll ch.logged operations).1) :
    ∃ message, result = .error (.connection message) := by
  induction operations generalizing s with
  | nil => cases outcome
  | cons operation rest ih =>
      rcases List.mem_cons.mp outcome with first | later
      · exact outcome_of_stopped orderly stopped operation first.symm
      · exact ih (orderly.perform operation) (isStopped_perform stopped operation) later

/-! ### Ids -/

theorem ids_perform (ch : Child κ) (s : Session (Logged κ)) (operation : Operation) :
    (s.perform ch.logged operation).1.id? = (if operation.takesId then some s.ids.next else none) ∧
      (s.perform ch.logged operation).2.ids = if operation.takesId then s.ids.take.2 else s.ids := by
  cases operation with
  | write line => exact ⟨rfl, (flags_writeLine ch.logged s line).2⟩
  | read allowed => exact ⟨rfl, (sameBut_readLine allowed).ids⟩
  | takeId => exact ⟨rfl, rfl⟩
  | isAlive => exact ⟨rfl, (flags_exitStatus ch.logged s).2.2⟩
  | stop grace => exact ⟨rfl, ids_stop ch.logged s grace⟩

/-- The ids that are handed out count up, whatever else is done and whatever comes of it. -/
theorem ids_performAll (ch : Child κ) (s : Session (Logged κ)) {n : Nat} (next : s.ids = ⟨Int64.ofNat n⟩)
    (operations : List Operation) :
    (s.performAll ch.logged operations).1.filterMap Outcome.id? =
      (List.range' n (operations.countP Operation.takesId)).map Int64.ofNat := by
  induction operations generalizing s n with
  | nil => rfl
  | cons operation rest ih =>
      obtain ⟨id_eq, ids_eq⟩ := ids_perform ch s operation
      simp only [performAll, List.filterMap_cons, id_eq]
      cases takes : operation.takesId with
      | true =>
          rw [takes, if_pos rfl, next] at ids_eq
          have next' : (s.perform ch.logged operation).2.ids = ⟨Int64.ofNat (n + 1)⟩ := by
            rw [ids_eq, Ids.take, Int64.ofNat_add]
            rfl
          rw [List.countP_cons_of_pos takes, List.range'_succ, List.map_cons, ← ih _ next', if_pos rfl, next]
      | false =>
          rw [takes, if_neg Bool.false_ne_true] at ids_eq
          rw [List.countP_cons_of_neg (by simp [takes]), ← ih _ (ids_eq.trans next), if_neg Bool.false_ne_true]

/-! ### A whole life -/

/-- What is done with the process of a session until the session is dropped. -/
def life (ch : Child κ) (s : Session (Logged κ)) (operations : List Operation) : List Act :=
  ((s.performAll ch.logged operations).2.drop ch.logged).acts

theorem life_eq (ch : Child κ) (s : Session (Logged κ)) (operations : List Operation) :
    s.life ch operations = (s.performAll ch.logged operations).2.child.acts ++
      if (s.performAll ch.logged operations).2.isStopped then [] else [.killed] := by
  unfold life Session.drop
  split
  · simp
  · rfl

theorem inOrder_life (orderly : s.Orderly) (operations : List Operation) : InOrder (s.life ch operations) := by
  rw [life_eq]
  split
  · rw [List.append_nil]
    exact (orderly.performAll operations).inOrder
  · exact (orderly.performAll operations).inOrder.concat (by simp)

theorem acts_life (ch : Child κ) (s : Session (Logged κ)) (operations : List Operation) :
    ∃ more, s.life ch operations = s.child.acts ++ more := by
  obtain ⟨more, more_eq⟩ := acts_performAll ch s operations
  rw [life_eq, ← more_eq, List.append_assoc]
  exact ⟨_, rfl⟩

theorem orderly_of_start {ω : Type} {sp : Spawner ω κ} {w w' : ω} {launch : Launch} {grace : Duration}
    (started : Session.start sp.logged w launch grace = (.ok s, w')) : s.Orderly ∧ s.ids = ⟨1⟩ := by
  obtain ⟨child, lived, spawned, awaited, rfl, -⟩ := start_eq_ok_iff.mp started
  obtain ⟨state, -, rfl⟩ := map_eq_ok_iff.mp spawned
  obtain ⟨silent, noted⟩ := Prod.mk.inj awaited
  have acts_eq : lived.acts = [.asked none] := by rw [← noted, silent]; rfl
  refine ⟨?_, rfl⟩
  constructor
  case inOrder => exact acts_eq ▸ List.pairwise_singleton _ _
  case isOpen_eq => rfl
  case known => simp [acts_eq]
  case closed_iff => simp [acts_eq]
  case stopped_of_terminated => simp [acts_eq]

/-- Once a session is told to stop nothing is sent, neither while it is being stopped nor later. -/
theorem unsent_after_stop (orderly : s.Orderly) (grace : Duration) (later : List Operation) :
    ∃ rest, s.life ch (.stop grace :: later) = s.child.acts ++ rest ∧ ∀ text, .sent text ∉ rest := by
  obtain ⟨stopping, stopping_eq, unsent⟩ := unsent_while_stopping ch s grace
  have closed : .closed ∈ (s.stop ch.logged grace).child.acts :=
    (orderly.stop grace).closed_iff.mpr (isStopped_stop _ _ _)
  obtain ⟨more, life_eq⟩ := acts_life ch (s.stop ch.logged grace) later
  have life_inOrder : InOrder ((s.stop ch.logged grace).child.acts ++ more) :=
    life_eq ▸ inOrder_life (orderly.stop grace) later
  refine ⟨stopping ++ more, ?_, fun text sent => ?_⟩
  · rw [← List.append_assoc, ← stopping_eq, ← life_eq]
    rfl
  · rcases List.mem_append.mp sent with now | afterwards
    · exact unsent text now
    · simpa [Act.precludes] using life_inOrder.of_mem_append closed afterwards

theorem life_append (ch : Child κ) (s : Session (Logged κ)) (operations more : List Operation) :
    s.life ch (operations ++ more) = (s.performAll ch.logged operations).2.life ch more := by
  rw [life, life, performAll_append]

/-- The life of a session.  Keeping the log changes nothing about it.  Whatever its process does, in every use of
the session the process is asked to end at most once, and once its end has been observed it is neither asked to
end nor sent anything.  Once the session is told to stop, nothing is sent any more, every line that is handed over
for writing fails because there is no connection, and to stop again changes nothing.  The ids that are handed out
are 1, 2, 3 and so on. -/
theorem life_is_orderly {ω : Type} (sp : Spawner ω κ) (w w' : ω) (launch : Launch) (grace : Duration)
    (s : Session (Logged κ)) (started : Session.start sp.logged w launch grace = (.ok s, w'))
    (operations : List Operation) :
    (Session.start sp w launch grace = (.ok s.bare, w') ∧
      (s.performAll sp.child.logged operations).map id bare = s.bare.performAll sp.child operations ∧
      ((s.performAll sp.child.logged operations).2.drop sp.child.logged).state =
        (s.bare.performAll sp.child operations).2.drop sp.child) ∧
    (s.life sp.child operations).count .terminated ≤ 1 ∧
    (∀ before status after, s.life sp.child operations = before ++ .asked (some status) :: after →
      .terminated ∉ after ∧ ∀ text, .sent text ∉ after) ∧
    (∀ before patience after, operations = before ++ .stop patience :: after →
      (∃ rest, s.life sp.child operations = (s.performAll sp.child.logged before).2.child.acts ++ rest ∧
        ∀ text, .sent text ∉ rest) ∧
      (∀ result, .written result ∈
        ((s.performAll sp.child.logged (before ++ [.stop patience])).2.performAll sp.child.logged after).1 →
          ∃ message, result = .error (.connection message)) ∧
      ∀ again, (s.performAll sp.child.logged operations).2.stop sp.child.logged again =
        (s.performAll sp.child.logged operations).2) ∧
    (s.performAll sp.child.logged operations).1.filterMap Outcome.id? =
      (List.range' 1 (operations.countP Operation.takesId)).map Int64.ofNat := by
  obtain ⟨orderly, ids_eq⟩ := orderly_of_start started
  have inOrder : InOrder (s.life sp.child operations) := inOrder_life orderly operations
  have bare_eq : (s.performAll sp.child.logged operations).map id bare = s.bare.performAll sp.child operations :=
    bare_performAll s operations
  refine ⟨⟨bare_start started, bare_eq, (state_drop _).trans ?_⟩, inOrder.count_terminated, ?_, ?_,
    ids_performAll sp.child s ids_eq operations⟩
  · rw [← bare_eq]
    rfl
  · intro before status after life_split
    rw [life_split] at inOrder
    exact ⟨fun asked => by simpa [Act.precludes] using inOrder.of_mem_after asked,
      fun text sent => by simpa [Act.precludes] using inOrder.of_mem_after sent⟩
  · rintro before patience after rfl
    have before_orderly : (s.performAll sp.child.logged before).2.Orderly := orderly.performAll before
    have stopped : ((s.performAll sp.child.logged before).2.stop sp.child.logged patience).isStopped = true :=
      isStopped_stop _ _ _
    refine ⟨?_, fun result outcome => ?_, fun again => ?_⟩
    · rw [life_append]
      exact unsent_after_stop before_orderly patience after
    · rw [performAll_append] at outcome
      exact outcomes_of_stopped (before_orderly.stop patience) stopped after outcome
    · rw [performAll_append]
      exact stop_of_isStopped (isStopped_performAll stopped after)

/-- Processes that have ended after they have been asked for their end three times. -/
def mortals : Spawner Unit Nat where
  spawn := fun _ _ => .ok 3
  system := fun _ => ()
  child := {
    poll := fun n => (if n = 0 then some (.code 0) else none, n - 1)
    await := fun n _ => (if n = 0 then some (.code 0) else none, n - 1)
    terminate := id
    kill := fun _ => 0
    closeInput := id
    send := fun n _ => (.ok (), n)
    receive := fun n _ => (none, n)
    clock := fun n => (⟨0⟩, n)
    errorLines := fun _ => []
    drainErrors := fun n _ => n
    pending := fun _ => 0
    receive_pending := by simp
    clock_pending := fun _ => rfl }

/-- A line before the end of such a process and a line after it, with ids and two stops. -/
theorem life_of_mortal :
    let operations := [.write "a", .takeId, .stop ⟨0⟩, .write "b", .takeId, .stop ⟨0⟩]
    ∃ s, Session.start mortals.logged () { program := "p" } ⟨0⟩ = (.ok s, ()) ∧
      s.life mortals.child operations = [.asked none, .asked none, .sent "a\n", .closed, .asked none, .terminated,
        .asked (some (.code 0))] ∧
      (s.life mortals.child operations).count .terminated ≤ 1 ∧
      (s.performAll mortals.child.logged operations).1.filterMap Outcome.id? = [1, 2] := by
  intro operations
  let s : Session (Logged Nat) := { child := ⟨2, [.asked none]⟩ }
  have started : Session.start mortals.logged () { program := "p" } ⟨0⟩ = (.ok s, ()) := rfl
  obtain ⟨-, once, -, -, ids⟩ := life_is_orderly mortals () () { program := "p" } ⟨0⟩ s started operations
  exact ⟨s, started, by decide +kernel, once, ids.trans (by decide)⟩

end Session

end CallScript
