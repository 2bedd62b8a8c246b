import CallScript.Proofs.Json.Printed
import CallScript.Proofs.Rpc.Attempts
import CallScript.Proofs.Rpc.Correlation
import CallScript.Session.Basic

/-! # Outgoing messages are lines

Whatever a client is used for, the messages that it hands over are written JSON (`Message`), and so hold no
character below U+0020.  The bytes of such a text are those of one line: neither a line feed nor a carriage
return is among them, since a byte below 128 is always a character of its own.

* `frame_eq_ok`, `frame_eq_error`: a text is sent with a line feed after it, unless it holds one.
* `dueWithin_written`: what is to be read of the bytes of messages.
* `outgoing_messages_are_lines`: from the operations of a client to the texts at the other end. -/

namespace CallScript

namespace Rpc

/-- What a client hands over for writing. -/
inductive Message : String → Prop
  | request (id : Int64) (method : String) (params : Option Json) : Message (requestLine id method params)
  | notification (method : String) (params : Option Json) : Message (notificationLine method params)

theorem Message.uncontrolled {message : String} (h : Message message) : Json.Uncontrolled message.toList := by
  cases h with
  | request id method params =>
      rw [requestLine, Json.compact, String.toList_ofList]
      exact Json.uncontrolled_write _
  | notification method params =>
      rw [notificationLine, Json.compact, String.toList_ofList]
      exact Json.uncontrolled_write _

section

variable {σ : Type} (ch : Channel σ) (int : Interrupts σ) (c : Client σ)

theorem Turn.Sound.message {turn : Turn} (h : turn.Sound) :
    ∀ line ∈ writtenLines turn.transcript, Message line := by
  intro line member
  cases taken : turn.id with
  | some id =>
      obtain ⟨first, more, lines_eq, rfl, -, more_cases, -⟩ := h.request id taken
      rw [lines_eq] at member
      rcases List.mem_cons.mp member with rfl | member
      · exact .request ..
      · rcases more_cases with rfl | ⟨-, rfl⟩
        · cases member
        · rw [List.mem_singleton.mp member]
          exact .notification ..
  | none =>
      obtain ⟨only, lines_eq, rfl, -⟩ := h.notification taken
      rw [lines_eq, List.mem_singleton] at member
      rw [member]
      exact .notification ..

/-- All that a client hands over in the course of any operations are messages. -/
theorem message_of_mem_writtenLines (ops : List Operation) :
    ∀ line ∈ writtenLines
      (Operation.performAll ch.recorded int.recorded (c.recording []) ops).2.channel.transcript,
      Message line := by
  intro line member
  rw [runs_recorded] at member
  obtain ⟨exchange, of_run, is_written⟩ := List.mem_filterMap.mp member
  rw [Client.recording, Client.onto, List.nil_append] at of_run
  obtain ⟨turn, of_turns, of_turn⟩ := List.mem_flatMap.mp of_run
  have in_turn : line ∈ writtenLines turn.transcript := List.mem_filterMap.mpr ⟨exchange, of_turn, is_written⟩
  exact (sound_turns ch int c ops turn of_turns).message line in_turn

end

namespace Framing

/-! ### The bytes of a text -/

theorem octets_toUTF8 (text : String) : octets text.toUTF8 = text.toList.flatMap String.utf8EncodeChar := by
  conv_lhs => rw [← String.ofList_toList (s := text)]
  rw [String.toUTF8_eq_toByteArray, String.toByteArray_ofList, List.utf8Encode, octets, List.data_toByteArray]

theorem mem_utf8EncodeChar {c : Char} {b : UInt8} (member : b ∈ String.utf8EncodeChar c) :
    b.toNat = c.toNat ∨ 128 ≤ b.toNat := by
  -- a mark of at least 128 is added to the lower bits that a byte carries
  have marked {bits mark : Nat} (n : Nat) (fits : 0 < bits ∧ bits + mark ≤ 256) (beyond : 128 ≤ mark) :
      128 ≤ (UInt8.ofNat (n % bits + mark)).toNat := by
    have small := Nat.mod_lt n fits.1
    rw [UInt8.toNat_ofNat', Nat.mod_eq_of_lt (by omega)]
    omega
  unfold String.utf8EncodeChar at member
  dsimp only at member
  split at member
  next single =>
    rw [List.mem_singleton.mp member, UInt8.toNat_ofNat', Nat.mod_eq_of_lt (by omega)]
    exact .inl rfl
  right
  split at member
  · simp only [List.mem_cons, List.not_mem_nil, or_false] at member
    rcases member with rfl | rfl <;> exact marked _ (by decide) (by decide)
  split at member
  · simp only [List.mem_cons, List.not_mem_nil, or_false] at member
    rcases member with rfl | rfl | rfl <;> exact marked _ (by decide) (by decide)
  · simp only [List.mem_cons, List.not_mem_nil, or_false] at member
    rcases member with rfl | rfl | rfl | rfl <;> exact marked _ (by decide) (by decide)

variable {text message : String} {messages : List String}

theorem not_mem_octets (h : Json.Uncontrolled text.toList) {b : UInt8} (below : b.toNat < 32) :
    b ∉ octets text.toUTF8 := by
  intro member
  rw [octets_toUTF8] at member
  obtain ⟨c, of_text, of_c⟩ := List.mem_flatMap.mp member
  have above := h c of_text
  have byte := mem_utf8EncodeChar of_c
  omega

/-- The bytes of a text that does not end with a carriage return are read as this text. -/
theorem reading_octets (h : carriageReturn ∉ octets text.toUTF8) :
    reading (octets text.toUTF8 ++ [lineFeed]) = .line text := by
  have last : (octets text.toUTF8).getLast? ≠ some carriageReturn :=
    fun ends => h (List.mem_of_getLast? ends)
  have stripped_eq : stripped (octets text.toUTF8 ++ [lineFeed]) = octets text.toUTF8 := by
    rw [stripped, List.getLast?_concat, if_pos rfl, List.dropLast_concat, if_neg last]
  rcases reading_cases (octets text.toUTF8 ++ [lineFeed]) with ⟨read, reading_eq, bytes_eq⟩ | ⟨_, _, no_text⟩
  · rw [stripped_eq] at bytes_eq
    have same : read.toByteArray = text.toByteArray := octets_injective bytes_eq
    rw [reading_eq, String.toByteArray_inj.mp same]
  · exact absurd stripped_eq.symm (no_text text)

/-! ### Writing -/

/-- The bytes that a text is sent as; of a text that is refused there are none. -/
def written (text : String) : List UInt8 :=
  match frame text with
  | .ok framed => octets framed.toUTF8
  | .error _ => []

theorem frame_eq_ok (h : '\n' ∉ text.toList) : frame text = .ok (text.push '\n') := by
  simp [frame, h]

theorem frame_eq_error (h : '\n' ∈ text.toList) :
    frame text = .error (.internal "Refusing to write a message containing a newline") := by
  simp [frame, h]

theorem written_eq (h : '\n' ∉ text.toList) : written text = octets text.toUTF8 ++ [lineFeed] := by
  rw [written, frame_eq_ok h]
  dsimp only
  rw [octets_toUTF8, octets_toUTF8, String.toList_push, List.flatMap_append]
  rfl

theorem written_eq_nil (h : '\n' ∈ text.toList) : written text = [] := by rw [written, frame_eq_error h]

/-- What is to be read of the bytes of texts, whether or not they have come to their end. -/
theorem dueWithin_written {limit : Nat} (isEnded : Bool)
    (h : ∀ text ∈ messages, Json.Uncontrolled text.toList ∧ (written text).length ≤ limit) :
    dueWithin limit (messages.flatMap written) isEnded = messages.map .line := by
  induction messages with
  | nil => rfl
  | cons text messages ih =>
      obtain ⟨uncontrolled, fits⟩ := h text List.mem_cons_self
      have no_feed : lineFeed ∉ octets text.toUTF8 := not_mem_octets uncontrolled (by decide)
      have no_return : carriageReturn ∉ octets text.toUTF8 := not_mem_octets uncontrolled (by decide)
      have bytes_eq := written_eq (uncontrolled.not_mem (by decide))
      rw [bytes_eq] at fits
      have body_fits : (octets text.toUTF8).length ≤ limit := by
        rw [List.length_append] at fits
        omega
      have rest := ih fun text later => h text (List.mem_cons_of_mem _ later)
      rw [List.flatMap_cons, bytes_eq, List.append_assoc, List.cons_append, List.nil_append,
        dueWithin_append_feed no_feed body_fits, readingWithin_of_le fits, reading_octets no_return, rest]
      rfl

end Framing

end Rpc

/-! ### From a client to the other end -/

namespace Session

open Rpc.Framing

variable {κ : Type} (ch : Child κ) (s : Session κ) {text : String}

/-- A text that is refused reaches no process: the session has only looked at its status. -/
theorem writeLine_of_mem (h : '\n' ∈ text.toList) :
    ∃ e, s.writeLine ch text = (.error e, (s.exitStatus ch).2) := by
  have refused := frame_eq_error h
  unfold writeLine
  rcases s.exitStatus ch with ⟨_ | status, s⟩
  · dsimp only
    split
    · exact ⟨_, rfl⟩
    · rw [refused]
      exact ⟨_, rfl⟩
  · exact ⟨_, rfl⟩

/-- Whatever else may keep a session from writing a text, it is no refusal of the text. -/
theorem writeLine_of_not_mem (h : '\n' ∉ text.toList) (reason : String) :
    (s.writeLine ch text).1 ≠ .error (.internal reason) := by
  have framed := frame_eq_ok h
  unfold writeLine
  rcases s.exitStatus ch with ⟨_ | status, s⟩
  · dsimp only
    split
    · nofun
    · rw [framed]
      dsimp only
      rcases ch.send s.child (text.push '\n') with ⟨_ | _, child⟩ <;> nofun
  · nofun

theorem child_writeLine (h : '\n' ∉ text.toList) (running : (s.exitStatus ch).1 = none)
    (open_ : (s.exitStatus ch).2.isInputOpen) :
    (s.writeLine ch text).2.child = (ch.send (s.exitStatus ch).2.child (text.push '\n')).2 := by
  have framed := frame_eq_ok h
  unfold writeLine
  generalize s.exitStatus ch = status at running open_ ⊢
  obtain ⟨status, s⟩ := status
  obtain rfl : status = none := running
  have not_closed : ¬ (!s.isInputOpen) = true := by simpa using open_
  dsimp only
  rw [if_neg not_closed, framed]
  dsimp only
  rcases ch.send s.child (text.push '\n') with ⟨_ | _, child⟩ <;> rfl

end Session

namespace Rpc

open Framing

/-- Every outgoing message is one line.  What a client hands over in the course of any operations, over any
channel, are messages.  A message has no character below U+0020, whatever its names and parameters hold, and is
never refused.  A reader that gets the bytes of any messages, each within its limit, reads exactly these messages
in their order, however the bytes arrive, and has read all of them after as many attempts as there are messages
and failures of the stream.  A text that holds a line feed is refused and nothing is written of it. -/
theorem outgoing_messages_are_lines :
    (∀ (σ : Type) (ch : Channel σ) (int : Interrupts σ) (c : Client σ) (ops : List Operation),
      ∀ line ∈ writtenLines
        (Operation.performAll ch.recorded int.recorded (c.recording []) ops).2.channel.transcript,
        Message line) ∧
      (∀ message, Message message → Json.Uncontrolled message.toList ∧
        frame message = .ok (message.push '\n') ∧
        ∀ (κ : Type) (ch : Child κ) (s : Session κ),
          (∀ reason, (s.writeLine ch message).1 ≠ .error (.internal reason)) ∧
            ((s.exitStatus ch).1 = none → (s.exitStatus ch).2.isInputOpen →
              (s.writeLine ch message).2.child =
                (ch.send (s.exitStatus ch).2.child (message.push '\n')).2)) ∧
      (∀ (limit : Nat) (messages : List String),
        (∀ message ∈ messages, Message message ∧ (written message).length ≤ limit) →
        ∀ actions, content (arrived actions) = messages.flatMap written →
          let lines := messages.map ReadResult.line
          let completed (actions : List Action) :=
            (perform limit actions .empty []).1.filter ReadResult.isCompleted
          let attempts := .replicate (lines.length + (failures (arrived actions)).length) .attempt
          (completed actions = lines.take (completed actions).length ++
            .replicate ((completed actions).length - lines.length) .ended) ∧
            ∃ ends, (0 < ends → isEnded (arrived actions)) ∧
              completed (actions ++ attempts) = lines ++ .replicate ends .ended) ∧
      ∀ text : String, '\n' ∈ text.toList →
        written text = [] ∧
          frame text = .error (.internal "Refusing to write a message containing a newline") ∧
          ∀ (κ : Type) (ch : Child κ) (s : Session κ),
            ∃ e, s.writeLine ch text = (.error e, (s.exitStatus ch).2) := by
  refine ⟨fun σ ch int c ops => message_of_mem_writtenLines ch int c ops, ?_, ?_, ?_⟩
  · intro message is_message
    have uncontrolled := is_message.uncontrolled
    have one_line : '\n' ∉ message.toList := uncontrolled.not_mem (by decide)
    exact ⟨uncontrolled, frame_eq_ok one_line, fun κ ch s =>
      ⟨s.writeLine_of_not_mem ch one_line, s.child_writeLine ch one_line⟩⟩
  · intro limit messages fit actions content_eq lines completed attempts
    have due_eq : ahead limit .empty (arrived actions) = lines := by
      rw [ahead, unread, content_eq]
      exact dueWithin_written _ fun message member =>
        ⟨(fit message member).1.uncontrolled, (fit message member).2⟩
    obtain ⟨completed_eq, -⟩ := (perform_start limit actions).completed_eq
    obtain ⟨ends, after_end, all_eq⟩ := completed_attempts limit actions
    rw [due_eq] at completed_eq all_eq
    exact ⟨completed_eq, ends, after_end, all_eq⟩
  · intro text member
    exact ⟨written_eq_nil member, frame_eq_error member, fun κ ch s => s.writeLine_of_mem ch member⟩

/-- Two messages with line ends in the name of a tool, in a key and in a method; they arrive in two pieces that
are cut inside a character, with a failure between them. -/
theorem messages_with_line_ends :
    let messages := [
      requestLine 7 "tools/call" (some (toolCallParams "a\nb" (.obj [("k\r", .str "é\x00")]))),
      notificationLine "x\ny" none]
    let bytes := messages.flatMap written
    let actions : List Action := [.arrival (.bytes ⟨(bytes.take 77).toArray⟩), .attempt,
      .arrival (.failure "reset"), .arrival (.bytes ⟨(bytes.drop 77).toArray⟩), .arrival .finish]
    let lines := messages.map ReadResult.line
    let attempts := .replicate (lines.length + (failures (arrived actions)).length) .attempt
    (∀ message ∈ messages, Message message ∧ (written message).length ≤ 120) ∧
      content (arrived actions) = bytes ∧ bytes[76]? = some 0xC3 ∧
      messages[1]? = some "\x7b\"jsonrpc\":\"2.0\",\"method\":\"x\\ny\"\x7d" ∧
      ∃ ends, (perform 120 (actions ++ attempts) .empty []).1.filter ReadResult.isCompleted =
        lines ++ .replicate ends .ended := by
  intro messages bytes actions lines attempts
  have fit : ∀ message ∈ messages, Message message ∧ (written message).length ≤ 120 := by
    intro message member
    simp only [messages, List.mem_cons, List.not_mem_nil, or_false] at member
    rcases member with rfl | rfl
    · exact ⟨.request .., by decide +kernel⟩
    · exact ⟨.notification .., by decide +kernel⟩
  have content_eq : content (arrived actions) = bytes := by decide +kernel
  obtain ⟨-, -, read, -⟩ := outgoing_messages_are_lines
  obtain ⟨-, ends, -, completed_eq⟩ := read 120 messages fit actions content_eq
  exact ⟨fit, content_eq, by decide +kernel, by decide +kernel, ends, completed_eq⟩

end Rpc

end CallScript
