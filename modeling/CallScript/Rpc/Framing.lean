import CallScript.Error
import CallScript.Text.Utf8

/-! # Lines of a byte stream

Messages travel as lines.  `Stream` is what has arrived of a byte stream and not been read yet: pieces of
any size, failures, and its end.  `readLine` takes one line from it.  Bytes of a line that is not
complete yet are carried over in a buffer, so that reading may stop at any byte and go on later.  A line
of more than `cap` bytes, its terminator counted, is refused, and the buffer never holds more than one
byte beyond the cap. -/

namespace CallScript.Rpc.Framing

/-- What arrives on a stream. -/
inductive Delivery where
  | bytes (piece : ByteArray)
  /-- Reading fails once. -/
  | failure (reason : String)
  /-- The stream ends here. -/
  | finish

/-- What has arrived and not been read yet, in order. -/
abbrev Stream := List Delivery

/-- The number of bytes that a delivery brings. -/
def Delivery.size : Delivery → Nat
  | .bytes piece => piece.size
  | _ => 0

/-- The number of bytes of a stream. -/
def Stream.size : Stream → Nat
  | [] => 0
  | d :: stream => d.size + Stream.size stream

@[simp] theorem Stream.size_nil : Stream.size [] = 0 := rfl

@[simp] theorem Stream.size_cons (d : Delivery) (stream : Stream) :
    Stream.size (d :: stream) = d.size + Stream.size stream := rfl

/-- The byte that ends a line. -/
def lineFeed : UInt8 := 10

/-- The byte that may stand before it. -/
def carriageReturn : UInt8 := 13

/-- The largest number of bytes of a line. -/
def cap : Nat := 64 * 1024 * 1024

/-- The index after the first line feed from `index` on and before `stop`. -/
def afterFeed (piece : ByteArray) (index stop : Nat) : Option Nat :=
  if index < stop then
    if piece[index]? = some lineFeed then some (index + 1) else afterFeed piece (index + 1) stop
  else none
termination_by stop - index

/-- The rest of a piece, put back before the stream. -/
def putBack (piece : ByteArray) (index : Nat) (stream : Stream) : Stream :=
  if index < piece.size then .bytes (piece.extract index piece.size) :: stream else stream

/-- How collecting bytes ended. -/
inductive Collected where
  /-- A line feed was found, the stream ended, or the budget was used up. -/
  | complete
  /-- Nothing has arrived beyond what was collected. -/
  | waiting
  | failed (reason : String)
  deriving DecidableEq, Repr

/-- Collects bytes into the buffer: at most `budget` of them, up to and including the first line feed. -/
def collect : (budget : Nat) → (buffer : ByteArray) → Stream → Collected × ByteArray × Stream
  | 0, buffer, stream => (.complete, buffer, stream)
  | _ + 1, buffer, [] => (.waiting, buffer, [])
  | _ + 1, buffer, .finish :: rest => (.complete, buffer, .finish :: rest)
  | _ + 1, buffer, .failure reason :: rest => (.failed reason, buffer, rest)
  | budget + 1, buffer, .bytes piece :: rest =>
    let stop := min (budget + 1) piece.size
    match afterFeed piece 0 stop with
    | some index => (.complete, buffer ++ piece.extract 0 index, putBack piece index rest)
    | none =>
      if piece.size ≤ budget then collect (budget + 1 - piece.size) (buffer ++ piece) rest
      else (.complete, buffer ++ piece.extract 0 stop, putBack piece stop rest)

theorem size_putBack (piece : ByteArray) (index : Nat) (stream : Stream) :
    (putBack piece index stream).size = (piece.size - index) + stream.size := by
  unfold putBack
  split
  · simp [Delivery.size]
  · omega

/-- Collecting loses no byte. -/
theorem size_collect (budget : Nat) (buffer : ByteArray) (stream : Stream) :
    (collect budget buffer stream).2.1.size + (collect budget buffer stream).2.2.size =
      buffer.size + stream.size := by
  fun_induction collect budget buffer stream with
  | case1 => rfl
  | case2 => rfl
  | case3 => rfl
  | case4 => simp [Delivery.size]
  | case5 budget buffer piece rest stop index h =>
    simp [size_putBack, ByteArray.size_append, ByteArray.size_extract, Delivery.size]
    omega
  | case6 budget buffer piece rest stop h hle ih =>
    simp [ByteArray.size_append, Delivery.size] at ih ⊢
    omega
  | case7 budget buffer piece rest stop h hle =>
    simp [size_putBack, ByteArray.size_append, ByteArray.size_extract, Delivery.size]
    omega

/-- The line without its terminator. -/
def stripTerminator (bytes : ByteArray) : ByteArray :=
  let n := bytes.size
  if 0 < n ∧ bytes[n - 1]? = some lineFeed then
    if 1 < n ∧ bytes[n - 2]? = some carriageReturn then bytes.extract 0 (n - 2)
    else bytes.extract 0 (n - 1)
  else bytes

/-- What reading a line came to. -/
inductive ReadResult where
  | line (text : String)
  /-- The stream has ended. -/
  | ended
  /-- The line is not complete yet. -/
  | waiting
  | failed (e : Error)
  deriving DecidableEq, Repr

/-- What a complete buffer holds, and the buffer after it. -/
def finishLine (cap : Nat) (buffer : ByteArray) : ReadResult :=
  if buffer.size = 0 then .ended
  else if cap < buffer.size then .failed (.protocol s!"Line exceeds {cap} bytes")
  else match Text.Utf8.decode (stripTerminator buffer) with
    | .ok text => .line text
    | .error flaw => .failed (.protocol s!"Invalid UTF-8: {flaw.message}")

/-- Reads one line of at most `cap` bytes. -/
def readLineCapped (cap : Nat) (buffer : ByteArray) (stream : Stream) :
    ReadResult × ByteArray × Stream :=
  match collect (cap + 1 - buffer.size) buffer stream with
  | (.complete, buffer, stream) => (finishLine cap buffer, .empty, stream)
  | (.waiting, buffer, stream) => (.waiting, buffer, stream)
  | (.failed reason, buffer, stream) => (.failed (.io reason), buffer, stream)

/-- A line that is read takes at least one byte, and leaves no buffer behind. -/
theorem size_readLineCapped {cap : Nat} {buffer rest : ByteArray} {stream later : Stream} {text : String}
    (h : readLineCapped cap buffer stream = (.line text, rest, later)) :
    rest.size + later.size < buffer.size + stream.size := by
  have total := size_collect (cap + 1 - buffer.size) buffer stream
  unfold readLineCapped at h
  split at h
  next found left heq =>
    rw [heq] at total
    simp only [Prod.mk.injEq] at h
    obtain ⟨line, rfl, rfl⟩ := h
    have : found.size ≠ 0 := by
      intro zero
      simp [finishLine, zero] at line
    simp only [ByteArray.size_empty] at *
    omega
  · simp at h
  · simp at h

/-- Reading a line never makes bytes. -/
theorem size_readLineCapped_le (cap : Nat) (buffer : ByteArray) (stream : Stream) :
    (readLineCapped cap buffer stream).2.1.size + (readLineCapped cap buffer stream).2.2.size ≤
      buffer.size + stream.size := by
  have total := size_collect (cap + 1 - buffer.size) buffer stream
  unfold readLineCapped
  split
  next collected =>
    rw [collected] at total
    simp only [ByteArray.size_empty, Nat.zero_add]
    exact Nat.le_trans (Nat.le_add_left _ _) (Nat.le_of_eq total)
  next collected =>
    rw [collected] at total
    exact Nat.le_of_eq total
  next collected =>
    rw [collected] at total
    exact Nat.le_of_eq total

/-- Reads one line. -/
def readLine (buffer : ByteArray) (stream : Stream) : ReadResult × ByteArray × Stream :=
  readLineCapped cap buffer stream

/-- The line that a message is sent as; a message that holds a line feed is refused. -/
def frame (message : String) : Except Error String :=
  if message.toList.contains '\n' then
    .error (.internal "Refusing to write a message containing a newline")
  else .ok (message.push '\n')

end CallScript.Rpc.Framing
