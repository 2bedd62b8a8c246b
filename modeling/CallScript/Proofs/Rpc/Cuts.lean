import CallScript.Proofs.Rpc.Transcript

/-! # Where an interrupt cuts

An interrupt that comes during an operation cuts it off, and leaves a last exchange in the transcript that
says so (`Exchange.isCut`).  A procedure is `Curbed` if that is all that interrupts do to it: either none
comes and nothing is different, or the procedure does first what it does without interrupts, is cut off, and
comes to a result of its own; and without interrupts it would have done more.

* `Curbed.bind`: what follows a cut is nothing, so curbed procedures can be done one after the other.
* `curbed_call`, `curbed_introduce`: the operations of a client are curbed. -/

namespace CallScript.Rpc

/-- Whether an interrupt has cut the exchange off. -/
def Exchange.isCut : Exchange → Bool
  | .unsent _ .interrupted | .unread .interrupted => true
  | .sent _ | .unsent _ (.failed _) | .received _ | .unread (.failed _) => false

/-- No exchange has been cut off. -/
def Uncut (t : List Exchange) : Prop := ∀ e ∈ t, e.isCut = false

theorem uncut_nil : Uncut [] := by nofun

theorem Uncut.append {t u : List Exchange} (h : Uncut t) (h' : Uncut u) : Uncut (t ++ u) := by
  intro e member
  rcases List.mem_append.mp member with first | second
  · exact h e first
  · exact h' e second

theorem uncut_singleton {e : Exchange} (h : e.isCut = false) : Uncut [e] := by
  intro e' member
  rw [List.mem_singleton.mp member]
  exact h

variable {σ : Type} {α β : Type}

/-- All that interrupts do to a procedure is to cut it off, and then it comes to a given result. -/
inductive Procedure.Curbed (p : Procedure α) (ch : Channel σ) (int : Interrupts σ) (c : Client σ) (a : α) :
    Prop
  /-- No interrupt comes. -/
  | whole (run_eq : p.run ch int c = p.run ch (.never σ) c)
      (transcript_eq : p.transcript ch int c = p.transcript ch (.never σ) c)
      (uncut : Uncut (p.transcript ch int c))
  /-- An interrupt comes after some exchanges, and others are missed. -/
  | cut (done missed : List Exchange) (last : Exchange) (result : (p.run ch int c).1 = a)
      (transcript_eq : p.transcript ch int c = done ++ [last])
      (never_eq : p.transcript ch (.never σ) c = done ++ missed)
      (uncut : Uncut done) (is_cut : last.isCut = true) (some_missed : missed ≠ [])

/-- A procedure that leaves the channel alone and comes to a result. -/
structure Procedure.Yields (p : Procedure α) (a : α) : Prop where
  run_eq : ∀ {σ : Type} (ch : Channel σ) (int : Interrupts σ) (c : Client σ), p.run ch int c = (a, c)

namespace Procedure

variable {p : Procedure α} {q : α → Procedure β} {a : α} {b : β} {ch : Channel σ} {int : Interrupts σ}
  {c : Client σ}

theorem yields_pure (a : α) : (pure a).Yields a := ⟨fun _ _ _ => rfl⟩

theorem Yields.transcript_eq (h : p.Yields a) (ch : Channel σ) (int : Interrupts σ) (c : Client σ) :
    p.transcript ch int c = [] := by
  unfold transcript
  rw [h.run_eq]
  rfl

theorem curbed_pure (ch : Channel σ) (int : Interrupts σ) (c : Client σ) (a a' : α) :
    (pure a).Curbed ch int c a' := .whole rfl rfl uncut_nil

theorem Curbed.after_whole {c' : Client σ} {a' : α} (run_eq : p.run ch int c = (a', c'))
    (whole_eq : p.run ch (.never σ) c = (a', c'))
    (transcript_eq : p.transcript ch int c = p.transcript ch (.never σ) c)
    (uncut : Uncut (p.transcript ch int c)) (second : (q a').Curbed ch int c' b) :
    (p.bind q).Curbed ch int c b := by
  have bind_run : (p.bind q).run ch int c = (q a').run ch int c' := by
    simp only [Procedure.bind]
    rw [run_eq]
  have bind_whole : (p.bind q).run ch (.never σ) c = (q a').run ch (.never σ) c' := by
    simp only [Procedure.bind]
    rw [whole_eq]
  have bind_transcript := p.transcript_bind ch int c q
  have bind_never := p.transcript_bind ch (.never σ) c q
  rw [run_eq] at bind_transcript
  rw [whole_eq, ← transcript_eq] at bind_never
  cases second with
  | whole run_eq' transcript_eq' uncut' =>
      refine .whole ?_ ?_ ?_
      · rw [bind_run, run_eq', bind_whole]
      · rw [bind_transcript, transcript_eq', bind_never]
      · rw [bind_transcript]
        exact uncut.append uncut'
  | cut done missed last result transcript_eq' never_eq uncut' is_cut some_missed =>
      refine .cut (p.transcript ch int c ++ done) missed last ?_ ?_ ?_ (uncut.append uncut') is_cut
        some_missed
      · rw [bind_run, result]
      · rw [bind_transcript, transcript_eq', List.append_assoc]
      · rw [bind_never, never_eq, List.append_assoc]

/-- One curbed procedure after the other, if nothing follows a cut in the first one. -/
theorem Curbed.bind (first : p.Curbed ch int c a) (stops : (q a).Yields b)
    (second : (q (p.run ch (.never σ) c).1).Curbed ch int (p.run ch (.never σ) c).2 b) :
    (p.bind q).Curbed ch int c b := by
  cases first with
  | whole run_eq transcript_eq uncut => exact .after_whole run_eq rfl transcript_eq uncut second
  | cut done missed last result transcript_eq never_eq uncut is_cut some_missed =>
      have bind_never := p.transcript_bind ch (.never σ) c q
      rw [never_eq, List.append_assoc] at bind_never
      refine .cut done _ last ?_ ?_ bind_never uncut is_cut
        (List.append_ne_nil_of_left_ne_nil some_missed _)
      · simp only [Procedure.bind]
        rw [result, stops.run_eq]
      · rw [transcript_bind, result, stops.transcript_eq, transcript_eq, List.append_nil]

end Procedure

/-! ### Waiting -/

theorem Client.recording_injective {c d : Client σ} {t u : List Exchange}
    (h : c.recording t = d.recording u) : c = d ∧ t = u := by
  obtain ⟨s, ids, lastId, timeout, crashed⟩ := c
  obtain ⟨s', ids', lastId', timeout', crashed'⟩ := d
  simp only [Client.recording, Client.onto, Client.mk.injEq, Recorded.mk.injEq] at h
  obtain ⟨⟨rfl, rfl⟩, rfl, rfl, rfl, rfl⟩ := h
  exact ⟨rfl, rfl⟩

theorem Procedure.Curbed.of_recorded {p : Procedure α} {ch : Channel σ} {int : Interrupts σ} {c : Client σ}
    {a : α} (same : p.run ch.recorded int.recorded (c.recording []) =
      p.run ch.recorded (.never (Recorded σ)) (c.recording [])) (uncut : Uncut (p.transcript ch int c)) :
    p.Curbed ch int c a := by
  have never := p.run_recorded ch (.never σ) c []
  rw [Interrupts.recorded_never] at never
  rw [p.run_recorded, never] at same
  obtain ⟨result_eq, recorded⟩ := Prod.mk.inj same
  obtain ⟨client_eq, transcript_eq⟩ := Client.recording_injective recorded
  exact .whole (Prod.ext result_eq client_eq) transcript_eq uncut

theorem await_never_eq (ch : Channel σ) (allowed : Duration) (id : Int64) (deadline : Duration) (s : σ) :
    Client.await ch (.never σ) allowed id deadline s =
      if deadline.micros ≤ (ch.clock s).1.micros then
        (.error (.failed (.timeout allowed)), (ch.clock s).2)
      else match ch.read (ch.clock s).2 ⟨deadline.micros - (ch.clock s).1.micros⟩ with
        | (.error (.timeout _), s) => (.error (.failed (.timeout allowed)), s)
        | (.error e, s) => (.error (.failed e), s)
        | (.ok line, s) => match relevance id line with
          | .answer r => (.ok r, s)
          | .refused e => (.error (.failed e), s)
          | .passed => Client.await ch (.never σ) allowed id deadline s :=
  Client.await_eq ch (.never σ) allowed id deadline s

theorem await_reads (ch : Channel σ) (allowed : Duration) (id : Int64) (deadline : Duration)
    (s : Recorded σ) (early : ¬ deadline.micros ≤ (ch.recorded.clock s).1.micros) :
    ∃ t, (Client.await ch.recorded (.never (Recorded σ)) allowed id deadline s).2.transcript =
      s.transcript ++ t ∧ t ≠ [] := by
  rw [await_never_eq, if_neg early]
  have kept : (ch.recorded.clock s).2.transcript = s.transcript := rfl
  rcases read : ch.recorded.read (ch.recorded.clock s).2 _ with ⟨e | line, s'⟩
  · have noted := Channel.transcript_read_error read
    rw [kept] at noted
    cases e with
    | timeout spent => exact ⟨_, noted, by simp⟩
    | _ => exact ⟨_, noted, by simp⟩
  · have noted := Channel.transcript_read_ok read
    rw [kept] at noted
    simp only
    cases relevance id line with
    | answer r => exact ⟨_, noted, by simp⟩
    | refused e => exact ⟨_, noted, by simp⟩
    | passed =>
        obtain ⟨t, more, -⟩ := Client.await_recorded ch (.never σ) allowed id deadline s'
        rw [Interrupts.recorded_never, noted, List.append_assoc] at more
        exact ⟨_, more, by simp⟩

/-- A wait under interrupts is the same as without, or it is cut off at a read that would have come to
something. -/
theorem curbed_await (ch : Channel σ) (int : Interrupts σ) (allowed : Duration) (id : Int64)
    (deadline : Duration) (s : Recorded σ) :
    let curbed := Client.await ch.recorded int.recorded allowed id deadline s
    let whole := Client.await ch.recorded (.never (Recorded σ)) allowed id deadline s
    (curbed = whole ∧ ∃ t, Uncut t ∧ curbed.2.transcript = s.transcript ++ t) ∨
      ∃ done missed, curbed.1 = .error .interrupted ∧
        curbed.2.transcript = s.transcript ++ done ++ [.unread .interrupted] ∧
        whole.2.transcript = s.transcript ++ done ++ missed ∧ Uncut done ∧ missed ≠ [] := by
  intro curbed whole
  simp only [curbed, whole]
  fun_induction Client.await ch.recorded int.recorded allowed id deadline s with
  | case1 s now late =>
      refine .inl ⟨?_, [], uncut_nil, (List.append_nil _).symm⟩
      rw [await_never_eq, if_pos late]
  | case2 s now early left s' cut =>
      obtain ⟨missed, whole_noted, some_missed⟩ := await_reads ch allowed id deadline s early
      have noted := Interrupts.transcript_read cut
      refine .inr ⟨[], missed, rfl, ?_, ?_, uncut_nil, some_missed⟩
      · rw [noted, List.append_nil]
        rfl
      · rw [whole_noted, List.append_nil]
  | case3 s now early left uncut spent s' read =>
      have noted := Channel.transcript_read_error read
      refine .inl ⟨?_, _, uncut_singleton rfl, noted⟩
      rw [await_never_eq, if_neg early, read]
  | case4 s now early left uncut e s' notTimeout read =>
      have noted := Channel.transcript_read_error read
      refine .inl ⟨?_, _, uncut_singleton rfl, noted⟩
      rw [await_never_eq, if_neg early, read]
      cases e <;> first | rfl | exact absurd rfl (notTimeout _)
  | case5 s now early left uncut line s' read r answer =>
      have noted := Channel.transcript_read_ok read
      refine .inl ⟨?_, _, uncut_singleton rfl, noted⟩
      rw [await_never_eq, if_neg early, read]
      simp only [answer]
  | case6 s now early left uncut line s' read e refused =>
      have noted := Channel.transcript_read_ok read
      refine .inl ⟨?_, _, uncut_singleton rfl, noted⟩
      rw [await_never_eq, if_neg early, read]
      simp only [refused]
  | case7 s now early left uncut line s' read passed ih =>
      have kept : now.2.transcript = s.transcript := rfl
      have noted := Channel.transcript_read_ok read
      rw [kept] at noted
      have whole_eq := await_never_eq ch.recorded allowed id deadline s
      rw [if_neg early, read] at whole_eq
      simp only [passed] at whole_eq
      rw [whole_eq]
      have received : Uncut [.received line] := uncut_singleton rfl
      rcases ih with ⟨same, t, uncut_t, more⟩ | ⟨done, missed, result, more, whole_more, uncut_done, some_missed⟩
      · rw [noted, List.append_assoc] at more
        exact .inl ⟨same, _, received.append uncut_t, more⟩
      · rw [noted, List.append_assoc s.transcript] at more whole_more
        exact .inr ⟨_, missed, result, more, whole_more, received.append uncut_done, some_missed⟩

/-! ### The operations of a client -/

section

variable (ch : Channel σ) (int : Interrupts σ) (c : Client σ)

theorem curbed_send (s : Recorded σ) (line : String) :
    let curbed := Client.send ch.recorded int.recorded s line
    let whole := Client.send ch.recorded (.never (Recorded σ)) s line
    (curbed = whole ∧ ∃ e, e.isCut = false ∧ curbed.2.transcript = s.transcript ++ [e]) ∨
      ∃ missed, curbed.1 = .error .interrupted ∧
        curbed.2.transcript = s.transcript ++ [.unsent line .interrupted] ∧
        whole.2.transcript = s.transcript ++ [missed] := by
  intro curbed whole
  have noted := Client.send_recorded ch int s line
  have whole_noted := Client.send_recorded ch (.never σ) s line
  rw [Interrupts.recorded_never] at whole_noted
  cases interrupted : int.write? s.state line with
  | some state =>
      have result : curbed.1 = .error .interrupted := by
        simp only [curbed, Client.send, Interrupts.recorded, interrupted]
        rfl
      refine .inr ⟨_, result, ?_, whole_noted⟩
      rw [noted, result]
      rfl
  | none =>
      have same : curbed = whole := by
        simp only [curbed, whole, Client.send, Interrupts.recorded, interrupted]
        rfl
      refine .inl ⟨same, .ofWrite line curbed.1, ?_, noted⟩
      rw [same]
      simp only [whole, Client.send, Interrupts.never]
      rcases ch.recorded.write s line with ⟨e | _, s'⟩
      · rfl
      · rfl

theorem curbed_notify (method : String) (params : Option Json) :
    (Procedure.notify method params).Curbed ch int c (.error .interrupted) := by
  have recorded := (Procedure.notify method params).run_recorded ch int c []
  rcases curbed_send ch int ⟨c.channel, []⟩ (notificationLine method params) with
    ⟨same, e, uncut, noted⟩ | ⟨missed, result, noted, whole_noted⟩
  · refine .of_recorded ?_ ?_
    · simp only [Procedure.notify, Client.notify]
      exact congrArg (fun sent => (sent.1, ({ c.recording [] with channel := sent.2 } : Client (Recorded σ)))) same
    · have transcript_eq : (Procedure.notify method params).transcript ch int c = [e] := noted
      rw [transcript_eq]
      exact uncut_singleton uncut
  · refine .cut [] [missed] _ ?_ noted whole_noted uncut_nil rfl (by simp)
    exact (congrArg Prod.fst recorded).symm.trans result

theorem run_call_recorded (int : Interrupts (Recorded σ)) (method : String) (params : Option Json) :
    (Procedure.call method params).run ch.recorded int (c.recording []) =
      match Client.send ch.recorded int ⟨c.channel, []⟩ (requestLine c.ids.next method params) with
      | (.error stop, s) => (.error stop, ⟨s, c.ids.take.2, some c.ids.next, c.timeout, c.crashed⟩)
      | (.ok (), s) =>
        let now := ch.recorded.clock s
        let deadline : Duration := ⟨now.1.micros + c.timeout.micros⟩
        let answered := Client.await ch.recorded int c.timeout c.ids.next deadline now.2
        (answered.1, ⟨answered.2, c.ids.take.2, some c.ids.next, c.timeout,
          c.crashed || !fitsClock deadline⟩) := by
  simp only [Procedure.call, Client.call, Client.recording, Client.onto, Ids.take, requestLine]
  rcases Client.send ch.recorded int ⟨c.channel, []⟩ _ with ⟨stop | _, s⟩
  · rfl
  · rfl

theorem curbed_call (method : String) (params : Option Json) :
    (Procedure.call method params).Curbed ch int c (.error .interrupted) := by
  have recorded := (Procedure.call method params).run_recorded ch int c []
  have run_eq := run_call_recorded ch c int.recorded method params
  have whole_eq := run_call_recorded ch c (.never (Recorded σ)) method params
  have transcript_eq : (Procedure.call method params).transcript ch int c =
    ((Procedure.call method params).run ch.recorded int.recorded (c.recording [])).2.channel.transcript := rfl
  have never_eq : (Procedure.call method params).transcript ch (.never σ) c =
    ((Procedure.call method params).run ch.recorded (.never (Recorded σ))
      (c.recording [])).2.channel.transcript := rfl
  have sent := curbed_send ch int ⟨c.channel, []⟩ (requestLine c.ids.next method params)
  simp only at sent
  generalize Client.send ch.recorded int.recorded ⟨c.channel, []⟩ _ = curbed at sent run_eq
  generalize Client.send ch.recorded (.never (Recorded σ)) ⟨c.channel, []⟩ _ = whole at sent whole_eq
  rcases sent with ⟨rfl, e, uncut, noted⟩ | ⟨missed, result, noted, whole_noted⟩
  · rcases curbed with ⟨stop | _, s⟩
    · refine .of_recorded (run_eq.trans whole_eq.symm) ?_
      rw [transcript_eq, run_eq, noted]
      exact uncut_singleton uncut
    · have kept : (ch.recorded.clock s).2.transcript = [e] := noted
      rcases curbed_await ch int c.timeout c.ids.next
          ⟨(ch.recorded.clock s).1.micros + c.timeout.micros⟩ (ch.recorded.clock s).2 with
        ⟨same, t, uncut_t, more⟩ | ⟨done, missed, result, more, whole_more, uncut_done, some_missed⟩
      · refine .of_recorded (run_eq.trans (Eq.trans ?_ whole_eq.symm)) ?_
        · simp only [same]
        · rw [transcript_eq, run_eq, more, kept]
          exact (uncut_singleton uncut).append uncut_t
      · refine .cut ([e] ++ done) missed (.unread .interrupted) ?_ ?_ ?_
          ((uncut_singleton uncut).append uncut_done) rfl some_missed
        · rw [run_eq] at recorded
          exact (congrArg Prod.fst recorded).symm.trans result
        · rw [transcript_eq, run_eq, more, kept]
        · rw [never_eq, whole_eq, whole_more, kept]
  · obtain ⟨t, whole_more⟩ : ∃ t, (Procedure.call method params).transcript ch (.never σ) c =
        missed :: t := by
      rw [never_eq, whole_eq]
      rcases whole with ⟨stop | _, s⟩
      · exact ⟨[], whole_noted⟩
      · have kept : (ch.recorded.clock s).2.transcript = [missed] := whole_noted
        obtain ⟨t, more, -⟩ := Client.await_recorded ch (.never σ) c.timeout c.ids.next
          ⟨(ch.recorded.clock s).1.micros + c.timeout.micros⟩ (ch.recorded.clock s).2
        rw [kept] at more
        exact ⟨t, more⟩
    rcases curbed with ⟨stop | _, s⟩
    · cases result
      refine .cut [] (missed :: t) (.unsent (requestLine c.ids.next method params) .interrupted) ?_ ?_
        whole_more uncut_nil rfl (by simp)
      · rw [run_eq] at recorded
        exact (congrArg Prod.fst recorded).symm
      · rw [transcript_eq, run_eq]
        exact noted
    · cases result

/-- An introduction is curbed. -/
theorem curbed_introduce (h : Handshake) :
    (Procedure.introduce h).Curbed ch int c (.error .interrupted) := by
  refine (curbed_call ch int c _ _).bind (Procedure.yields_pure _) ?_
  rcases (Procedure.run (Procedure.call Client.introduceMethod (some h.toJson)) ch (.never σ) c).1 with
    stop | ⟨id, result | e⟩
  · exact Procedure.curbed_pure ..
  · simp only [Procedure.afterIntroduction]
    refine (curbed_notify ch int _ _ _).bind (Procedure.yields_pure _) ?_
    exact Procedure.curbed_pure ..
  · exact Procedure.curbed_pure ..

end

end CallScript.Rpc
