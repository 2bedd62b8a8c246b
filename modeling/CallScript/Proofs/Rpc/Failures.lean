import CallScript.Proofs.Rpc.Classification
import CallScript.Proofs.Rpc.Transcript
import CallScript.Session.Channel

/-! # How calls fail

What keeps a call from being answered is the channel, the time, or a line that breaks the protocol.  So the errors
of a call are of the same categories as those of its channel, if that one fails only in what a channel is for
(`Channel.FailsInTransport`).  A session is such a channel.

* `kind_of_refused`: a line that is out of step breaks the protocol.
* `Client.kind_of_failed_call`: the errors of calls.
* `Session.failsInTransport`: the errors of sessions. -/

namespace CallScript

/-- The categories of what goes wrong between a client and its server. -/
def ErrorKind.ofTransport : List ErrorKind := [.connection, .timeout, .protocol, .internal]

namespace Rpc

/-- A channel fails only because the server cannot be reached, because of the time, because the protocol is
broken, or internally. -/
structure Channel.FailsInTransport {σ : Type} (ch : Channel σ) : Prop where
  write : ∀ {s line e s'}, ch.write s line = (.error e, s') → e.kind ∈ ErrorKind.ofTransport
  read : ∀ {s allowed e s'}, ch.read s allowed = (.error e, s') → e.kind ∈ ErrorKind.ofTransport

theorem kind_of_refused {id : Int64} {line : String} {e : Error} (refused : relevance id line = .refused e) :
    e.kind = .protocol := by
  unfold relevance at refused
  split at refused
  next failed =>
    cases refused
    obtain ⟨reason, rfl⟩ := Incoming.eq_protocol_of_decode failed
    rfl
  · cases refused
  · cases refused
  · split at refused
    · cases refused
    · split at refused
      · cases refused
      · cases refused
        rfl

namespace Client

variable {σ : Type} {ch : Channel σ} {int : Interrupts σ}

theorem kind_of_failed_send (plain : ch.FailsInTransport) {s s' : σ} {line : String} {e : Error}
    (h : send ch int s line = (.error (.failed e), s')) : e.kind ∈ ErrorKind.ofTransport := by
  unfold send at h
  split at h
  · cases h
  · split at h
    · cases h
    next failed =>
      cases h
      exact plain.write failed

theorem kind_of_failed_await (plain : ch.FailsInTransport) {allowed deadline : Duration} {id : Int64} {s s' : σ}
    {e : Error} (h : await ch int allowed id deadline s = (.error (.failed e), s')) :
    e.kind ∈ ErrorKind.ofTransport := by
  fun_induction await ch int allowed id deadline s with
  | case1 | case3 =>
      cases h
      simp [Error.kind, ErrorKind.ofTransport]
  | case2 | case5 => cases h
  | case4 s now late left uncut e' s' not_timeout read =>
      cases h
      exact plain.read read
  | case6 s now late left uncut line s' read e' refused =>
      cases h
      rw [kind_of_refused refused]
      simp [ErrorKind.ofTransport]
  | case7 s now late left uncut line s' read passed ih => exact ih h

/-- A call fails as its channel does, over time, or because the protocol is broken. -/
theorem kind_of_failed_call (plain : ch.FailsInTransport) {c d : Client σ} {method : String}
    {params : Option Json} {e : Error} (h : c.call ch int method params = (.error (.failed e), d)) :
    e.kind ∈ ErrorKind.ofTransport := by
  simp only [call] at h
  split at h
  next not_sent =>
    cases h
    exact kind_of_failed_send plain not_sent
  next sent =>
    obtain ⟨failed, -⟩ := Prod.mk.inj h
    exact kind_of_failed_await plain (Prod.ext failed rfl)

end Client

/-! ### Sessions -/

namespace Framing

theorem kind_of_frame {message : String} {e : Error} (h : frame message = .error e) : e.kind = .internal := by
  unfold frame at h
  split at h
  · cases h
    rfl
  · cases h

theorem kind_of_readLine {buffer rest : ByteArray} {stream later : Stream} {e : Error}
    (h : readLine buffer stream = (.failed e, rest, later)) : e.kind = .internal ∨ e.kind = .protocol := by
  unfold readLine readLineCapped at h
  split at h
  · obtain ⟨finished, -⟩ := Prod.mk.inj h
    unfold finishLine at finished
    split at finished
    · cases finished
    · split at finished
      · cases finished
        exact .inr rfl
      · split at finished
        · cases finished
        · cases finished
          exact .inr rfl
  · cases h
  · cases h
    exact .inl rfl

end Framing

end Rpc

namespace Session

open Rpc Rpc.Framing

variable {κ : Type} (ch : Child κ)

theorem kind_of_writeLine {s s' : Session κ} {line : String} {e : Error}
    (h : s.writeLine ch line = (.error e, s')) : e.kind ∈ ErrorKind.ofTransport := by
  unfold writeLine at h
  split at h
  · cases h
    simp [Error.kind, ErrorKind.ofTransport]
  · split at h
    · cases h
      simp [Error.kind, ErrorKind.ofTransport]
    · split at h
      next unframed =>
        cases h
        rw [kind_of_frame unframed]
        simp [ErrorKind.ofTransport]
      · split at h
        · cases h
        · cases h
          simp [Error.kind, ErrorKind.ofTransport]

theorem kind_of_readUntil {allowed deadline : Duration} {s s' : Session κ} {e : Error}
    (h : readUntil ch allowed deadline s = (.error e, s')) : e.kind ∈ ErrorKind.ofTransport := by
  fun_induction readUntil ch allowed deadline s with
  | case1 => cases h
  | case2 | case3 | case5 =>
      cases h
      simp [Error.kind, ErrorKind.ofTransport]
  | case4 s e' buffer inbox not_io read =>
      cases h
      rcases kind_of_readLine read with kind | kind
      · simp [kind, ErrorKind.ofTransport]
      · simp [kind, ErrorKind.ofTransport]
  | case6 s buffer inbox read now delivery child received ih => exact ih h

/-- A session fails only in what a channel is for. -/
theorem failsInTransport : (channel ch).FailsInTransport where
  write := kind_of_writeLine ch
  read := kind_of_readUntil ch

end Session

end CallScript
