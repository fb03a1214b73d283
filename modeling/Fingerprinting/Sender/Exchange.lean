/-
# Exchanges

One request and its reply over a connected stream.  What the stream does is told by events, each of
which happens once the ones before it are over; time is counted in milliseconds and passes only
while something is waited for.

The request is written and flushed, each within a deadline of its own.  Then bytes are read until
the stream ends, the buffer is full, or one deadline for all reads has passed.  Whatever has arrived
by then is the reply; only when nothing has arrived is a failure reported.
-/
import Fingerprinting.Error
import Fingerprinting.Text.Utf8

namespace Fingerprinting

/-! ## Streams -/

/-- An event of a stream. -/
inductive StreamEvent (α : Type) where
  /-- Nothing happens for some time. -/
  | wait (ms : Nat)
  /-- Nothing happens ever after. -/
  | hang
  /-- The stream fails, with its words. -/
  | fail (failure : SystemFailure) (words : String)
  /-- Something is taken or delivered. -/
  | give (a : α)
deriving Repr, Inhabited

/-- A connected stream: how many bytes it takes at a time, what happens when it is flushed, and what
it delivers. -/
structure Stream where
  writes : List (StreamEvent Nat) := []
  flushes : List (StreamEvent Unit) := []
  reads : List (StreamEvent Bytes) := []

/-! ## Writing -/

/-- What a writer leaves: why it failed if it did, the number of bytes taken, and the time. -/
structure Written where
  failure : Option Error := none
  taken : Nat := 0
  time : Nat
deriving Inhabited

/-- The failure of a request that is not taken in time. -/
def lateWrite : Error := .reported .timeout "write timed out"

/-- Write the rest of a request, of which `taken` bytes are gone and `left` bytes remain.  A stream
without further events takes everything. -/
def writeFrom (deadline now taken left : Nat) : List (StreamEvent Nat) → Written
  | [] => { taken := taken + left, time := now }
  | .wait ms :: rest =>
      if left = 0 then { taken, time := now }
      else if deadline < now + ms then { failure := some lateWrite, taken, time := deadline }
      else writeFrom deadline (now + ms) taken left rest
  | .hang :: _ =>
      if left = 0 then { taken, time := now }
      else { failure := some lateWrite, taken, time := deadline }
  | .fail failure words :: _ =>
      if left = 0 then { taken, time := now }
      else { failure := some (.ofSystem failure words), taken, time := now }
  | .give n :: rest =>
      if left = 0 then { taken, time := now }
      else if n = 0 then
        { failure := some (.ofSystem .other "write zero"), taken, time := now }
      else writeFrom deadline now (taken + min n left) (left - n) rest

/-- Flush a stream.  A flush that takes too long is given up, and that is no failure. -/
def flush (deadline now : Nat) : List (StreamEvent Unit) → Option Error × Nat
  | [] => (none, now)
  | .wait ms :: rest =>
      if deadline < now + ms then (none, deadline) else flush deadline (now + ms) rest
  | .hang :: _ => (none, deadline)
  | .fail failure words :: _ => (some (.ofSystem failure words), now)
  | .give _ :: _ => (none, now)

/-! ## Reading -/

/-- Why reading stops. -/
inductive ReadStop where
  | full
  | closed
  | late
  | failed (e : Error)
deriving DecidableEq, Repr, Inhabited

/-- What a reader leaves: the bytes of each read, why it stopped, and the time. -/
structure ReadRun where
  chunks : List Bytes := []
  stop : ReadStop
  time : Nat
deriving Inhabited

/-- Read into a buffer with some space.  A stream without further events has ended, as has one that
delivers no bytes. -/
def readInto (deadline now space : Nat) : List (StreamEvent Bytes) → ReadRun
  | [] => { stop := if space = 0 then .full else .closed, time := now }
  | .wait ms :: rest =>
      if space = 0 then { stop := .full, time := now }
      else if deadline < now + ms then { stop := .late, time := deadline }
      else readInto deadline (now + ms) space rest
  | .hang :: _ =>
      if space = 0 then { stop := .full, time := now } else { stop := .late, time := deadline }
  | .fail failure words :: _ =>
      if space = 0 then { stop := .full, time := now }
      else { stop := .failed (.ofSystem failure words), time := now }
  | .give b :: rest =>
      if space = 0 then { stop := .full, time := now }
      else if b.isEmpty then { chunks := [[]], stop := .closed, time := now }
      else
        let more := readInto deadline now (space - b.length) rest
        { more with chunks := b.take space :: more.chunks }

/-- The bytes that have been read. -/
def ReadRun.bytes (r : ReadRun) : Bytes := r.chunks.flatten

/-- The failure of a stream that is silent. -/
def lateRead : Error := .reported .timeout "read timed out"

/-- The reply: what has been read, or why there is nothing. -/
def ReadRun.reply (r : ReadRun) : Except Error Bytes :=
  if r.bytes.isEmpty then
    match r.stop with
    | .late => .error lateRead
    | .failed e => .error e
    | _ => .ok []
  else .ok r.bytes

/-! ## Exchanges -/

/-- What an exchange leaves: the reply, the bytes written, the bytes of each read, and the time. -/
structure Exchange where
  reply : Except Error Bytes
  written : Bytes := []
  chunks : List Bytes := []
  time : Nat

/-- Write a request if there is one.  Answers why that failed if it did, the number of bytes taken,
and the time. -/
def Stream.write (s : Stream) (data : Bytes) (writeTime : Nat) : Written :=
  if data.isEmpty then { time := 0 }
  else
    let w := writeFrom writeTime 0 0 data.length s.writes
    match w.failure with
    | some _ => w
    | none =>
        let (failure, time) := flush (w.time + writeTime) w.time s.flushes
        { w with failure, time }

/-- Exchange a request for a reply. -/
def Stream.exchange (s : Stream) (data : Bytes) (writeTime readTime buffer : Nat) : Exchange :=
  let w := s.write data writeTime
  match w.failure with
  | some e => { reply := .error e, written := data.take w.taken, time := w.time }
  | none =>
      let r := readInto (w.time + readTime) w.time buffer s.reads
      { reply := r.reply, written := data.take w.taken, chunks := r.chunks, time := r.time }

end Fingerprinting
