import CallScript.Rpc.Client

/-! # A rehearsed channel

A channel whose server follows a script: to its first write it reacts in one given way, to its second in
another, and so on.  A reaction queues what is to be read, or fails the write.  No time passes, and a read
that finds nothing queued times out at once. -/

namespace CallScript.Rpc

namespace Rehearsed

/-- What a read finds. -/
inductive Item where
  | line (text : String)
  /-- The read fails. -/
  | failure (e : Error)
  /-- The server closes its end. -/
  | close
  deriving DecidableEq

/-- How the server reacts to a write. -/
inductive Reaction where
  | queue (items : List Item)
  /-- The write fails. -/
  | refuse (e : Error)
  deriving DecidableEq

/-- The state of a rehearsed channel. -/
structure State where
  /-- The reactions to the writes to come. -/
  reactions : List Reaction
  /-- What is to be read. -/
  queued : List Item := []
  /-- Whether the server has closed its end. -/
  isClosed : Bool := false
  /-- The lines written so far, the last one first. -/
  written : List String := []
  deriving DecidableEq

/-- Writes a line.  A line that the server refuses counts as written. -/
def write (s : State) (line : String) : Except Error Unit × State :=
  if s.isClosed then (.error (.connection "Server has exited"), s)
  else
    let s := { s with written := line :: s.written }
    match s.reactions with
    | [] => (.ok (), s)
    | .queue items :: rest => (.ok (), { s with reactions := rest, queued := s.queued ++ items })
    | .refuse e :: rest => (.error e, { s with reactions := rest })

/-- Reads what is queued first. -/
def read (s : State) (allowed : Duration) : Except Error String × State :=
  if s.isClosed then (.error .connectionClosed, s)
  else match s.queued with
    | [] => (.error (.timeout allowed), s)
    | .line text :: rest => (.ok text, { s with queued := rest })
    | .failure (.timeout _) :: rest => (.error (.timeout allowed), { s with queued := rest })
    | .failure e :: rest => (.error e, { s with queued := rest })
    | .close :: _ => (.error .connectionClosed, { s with queued := [], isClosed := true })

theorem length_queued_read {s s' : State} {allowed : Duration} {line : String}
    (h : read s allowed = (.ok line, s')) : s'.queued.length < s.queued.length := by
  unfold read at h
  split at h
  · simp at h
  · split at h <;> simp at h
    next hq => simp [← h.2, hq]

/-- The channel of a rehearsed server. -/
def channel : Channel State where
  write := write
  read := read
  clock := fun s => (⟨0⟩, s)
  backlog := fun s => s.queued.length
  read_backlog := length_queued_read
  clock_backlog := fun _ => rfl

end Rehearsed

end CallScript.Rpc
