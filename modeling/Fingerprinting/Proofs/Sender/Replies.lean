/-
# Replies

The script of a stream is a course of arrivals, each at its time: bytes, the end of the stream, or a
failure.  What can be read by a deadline is what arrives before the stream ends, fails or is late,
and the reply is the part of it for which there is space.  In how many pieces it arrives, and when,
makes no difference.

* `course` says when a stream delivers what, `delivered` what has arrived by a deadline, and
  `firstStop` what comes after that;
* `Reads` says what a reader with some space makes of a course, and `reads_readInto` that this is
  what `readInto` does.

Main statement: `exchange_reply` says what an exchange answers once its request is written.
-/
import Mathlib.Tactic.Common
import Fingerprinting.Sender.Exchange

namespace Fingerprinting

/-! ## Courses -/

/-- What a reader meets. -/
inductive Arrival where
  | chunk (b : Bytes)
  | ended
  | failed (failure : SystemFailure) (words : String)

/-- The bytes of an arrival. -/
def Arrival.bytes : Arrival → Bytes
  | .chunk b => b
  | _ => []

/-- Whether an arrival is one of bytes. -/
def Arrival.isChunk : Arrival → Bool
  | .chunk _ => true
  | _ => false

/-- What arrives on a stream from some time on, and when.  A stream without further events has
ended, and to deliver no bytes is to end. -/
def course (now : Nat) : List (StreamEvent Bytes) → List (Nat × Arrival)
  | [] => [(now, .ended)]
  | .wait ms :: rest => course (now + ms) rest
  | .hang :: _ => []
  | .fail failure words :: rest => (now, .failed failure words) :: course now rest
  | .give b :: rest => (now, if b.isEmpty then .ended else .chunk b) :: course now rest

/-- Whether bytes arrive by a deadline; what arrives at the deadline is in time. -/
def isTimely (deadline : Nat) (arrival : Nat × Arrival) : Bool :=
  arrival.1 ≤ deadline && arrival.2.isChunk

/-- Everything that arrives before the stream ends, fails or the deadline has passed. -/
def delivered (deadline : Nat) (arrivals : List (Nat × Arrival)) : Bytes :=
  (arrivals.takeWhile (isTimely deadline)).flatMap fun arrival => arrival.2.bytes

/-- What comes first of the end of the stream, its failure and the deadline. -/
def firstStop (deadline : Nat) (arrivals : List (Nat × Arrival)) : ReadStop :=
  match (arrivals.dropWhile (isTimely deadline)).head? with
  | none => .late
  | some (time, arrival) =>
      if deadline < time then .late
      else
        match arrival with
        | .failed failure words => .failed (.ofSystem failure words)
        | _ => .closed

/-! ## Arrivals one by one -/

section

variable {deadline now : Nat}

theorem isTimely_chunk (h : now ≤ deadline) (b : Bytes) :
    isTimely deadline (now, .chunk b) = true := by
  simp [isTimely, Arrival.isChunk, h]

/-- Bytes that arrive in time come before what arrives later. -/
theorem delivered_chunk (h : now ≤ deadline) (b : Bytes) (rest : List (Nat × Arrival)) :
    delivered deadline ((now, .chunk b) :: rest) = b ++ delivered deadline rest := by
  rw [delivered, List.takeWhile_cons_of_pos (isTimely_chunk h b), List.flatMap_cons]
  rfl

theorem firstStop_chunk (h : now ≤ deadline) (b : Bytes) (rest : List (Nat × Arrival)) :
    firstStop deadline ((now, .chunk b) :: rest) = firstStop deadline rest := by
  rw [firstStop, List.dropWhile_cons_of_pos (isTimely_chunk h b)]
  rfl

/-- Nothing is delivered from where the stream does not deliver bytes in time. -/
theorem delivered_of_not_isTimely {arrival : Nat × Arrival} (h : isTimely deadline arrival = false)
    (rest : List (Nat × Arrival)) : delivered deadline (arrival :: rest) = [] := by
  rw [delivered, List.takeWhile_cons_of_neg (by simp [h]), List.flatMap_nil]

theorem isTimely_of_lt (h : deadline < now) (arrival : Arrival) :
    isTimely deadline (now, arrival) = false := by
  simp [isTimely, Nat.not_le.mpr h]

/-- After the deadline everything is late. -/
theorem late_of_lt (h : deadline < now) (events : List (StreamEvent Bytes)) :
    delivered deadline (course now events) = [] ∧
      firstStop deadline (course now events) = .late := by
  induction events generalizing now with
  | nil => simp [course, delivered, firstStop, isTimely_of_lt h, h]
  | cons event rest ih =>
      cases event with
      | wait ms =>
          apply ih
          omega
      | hang => exact ⟨rfl, rfl⟩
      | fail failure words => simp [course, delivered, firstStop, isTimely_of_lt h, h]
      | give b => simp [course, delivered, firstStop, isTimely_of_lt h, h]

end

/-! ## Reading -/

/-- What a reader makes of a course: it reads the part of what is delivered for which there is
space, stops for what comes first when all of it leaves space, and is done by the deadline. -/
structure Reads (deadline space : Nat) (arrivals : List (Nat × Arrival)) (r : ReadRun) : Prop where
  bytes : r.bytes = (delivered deadline arrivals).take space
  stop : (delivered deadline arrivals).length < space → r.stop = firstStop deadline arrivals
  time : r.time ≤ deadline

namespace Reads

variable {deadline now space : Nat}

/-- A reader without space. -/
theorem full (h : now ≤ deadline) (arrivals : List (Nat × Arrival)) :
    Reads deadline 0 arrivals { stop := .full, time := now } where
  bytes := by
    rw [List.take_zero]
    rfl
  stop := fun hlength => absurd hlength (Nat.not_lt_zero _)
  time := h

/-- A reader that waits until the deadline. -/
theorem late {arrivals : List (Nat × Arrival)} (hnone : delivered deadline arrivals = [])
    (hlate : firstStop deadline arrivals = .late) :
    Reads deadline space arrivals { stop := .late, time := deadline } where
  bytes := by
    rw [hnone, List.take_nil]
    rfl
  stop := fun _ => hlate.symm
  time := Nat.le_refl deadline

/-- A reader whose stream has ended. -/
theorem ended (h : now ≤ deadline) (rest : List (Nat × Arrival)) {r : ReadRun}
    (hbytes : r.bytes = []) (hstop : r.stop = .closed) (htime : r.time = now) :
    Reads deadline space ((now, .ended) :: rest) r where
  bytes := by
    rw [delivered_of_not_isTimely (by simp [isTimely, Arrival.isChunk]), List.take_nil, hbytes]
  stop := by
    intro _
    rw [hstop]
    simp [firstStop, isTimely, Arrival.isChunk, Nat.not_lt.mpr h]
  time := htime ▸ h

/-- A reader whose stream fails. -/
theorem failed (h : now ≤ deadline) (failure : SystemFailure) (words : String)
    (rest : List (Nat × Arrival)) :
    Reads deadline space ((now, .failed failure words) :: rest)
      { stop := .failed (.ofSystem failure words), time := now } where
  bytes := by
    rw [delivered_of_not_isTimely (by simp [isTimely, Arrival.isChunk]), List.take_nil]
    rfl
  stop := by
    intro _
    simp [firstStop, isTimely, Arrival.isChunk, Nat.not_lt.mpr h]
  time := h

/-- A reader of bytes goes on with the space that they leave. -/
theorem chunk (h : now ≤ deadline) (b : Bytes) {rest : List (Nat × Arrival)} {more : ReadRun}
    (hmore : Reads deadline (space - b.length) rest more) :
    Reads deadline space ((now, .chunk b) :: rest)
      { more with chunks := b.take space :: more.chunks } where
  bytes := by
    rw [delivered_chunk h, List.take_append, ← hmore.bytes]
    rfl
  stop := by
    intro hlength
    rw [delivered_chunk h, List.length_append] at hlength
    rw [firstStop_chunk h]
    apply hmore.stop
    omega
  time := hmore.time

end Reads

/-- Reading into some space is reading the course of the stream. -/
theorem reads_readInto {deadline now : Nat} (hnow : now ≤ deadline) (space : Nat)
    (events : List (StreamEvent Bytes)) :
    Reads deadline space (course now events) (readInto deadline now space events) := by
  induction events generalizing now space with
  | nil =>
      rcases Nat.eq_zero_or_pos space with rfl | hspace
      · exact .full hnow _
      · rw [readInto, if_neg (Nat.ne_of_gt hspace)]
        exact .ended hnow [] rfl rfl rfl
  | cons event rest ih =>
      rcases Nat.eq_zero_or_pos space with rfl | hspace
      · -- A full reader stops at whatever event comes next.
        cases event <;> exact .full hnow _
      · have hne : ¬ space = 0 := Nat.ne_of_gt hspace
        cases event with
        | wait ms =>
            rw [readInto, if_neg hne, course]
            split
            · rename_i hlate
              obtain ⟨hnone, hstop⟩ := late_of_lt hlate rest
              exact .late hnone hstop
            · rename_i hlate
              exact ih (Nat.not_lt.mp hlate) space
        | hang =>
            rw [readInto, if_neg hne]
            exact .late rfl rfl
        | fail failure words =>
            rw [readInto, if_neg hne]
            exact .failed hnow failure words _
        | give b =>
            rw [readInto, if_neg hne, course]
            split
            · exact .ended hnow _ rfl rfl rfl
            · exact .chunk hnow b (ih hnow _)

/-! ## Exchanges -/

/-- Once a request is written, an exchange is what is read by a deadline that is fixed then. -/
theorem exchange_of_written (s : Stream) (data : Bytes) (writeTime readTime buffer : Nat)
    (h : (s.write data writeTime).failure = none) :
    s.exchange data writeTime readTime buffer =
      let w := s.write data writeTime
      let r := readInto (w.time + readTime) w.time buffer s.reads
      { reply := r.reply, written := data.take w.taken, chunks := r.chunks, time := r.time } := by
  unfold Stream.exchange
  dsimp only
  rw [h]

/-- The reply is what is read when something is, and else tells why nothing is. -/
theorem Reads.reply_eq {deadline space : Nat} {arrivals : List (Nat × Arrival)} {r : ReadRun}
    (h : Reads deadline space arrivals r) (hspace : 0 < space) :
    r.reply =
      if delivered deadline arrivals = [] then
        match firstStop deadline arrivals with
        | .late => .error lateRead
        | .failed e => .error e
        | _ => .ok []
      else .ok ((delivered deadline arrivals).take space) := by
  rw [ReadRun.reply, h.bytes]
  by_cases hnone : delivered deadline arrivals = []
  · have hstop : r.stop = firstStop deadline arrivals := by
      apply h.stop
      rwa [hnone]
    rw [hnone, List.take_nil, hstop]
    rfl
  · have hempty : ¬ ((delivered deadline arrivals).take space).isEmpty = true := by
      rw [List.isEmpty_iff, List.take_eq_nil_iff, not_or]
      exact ⟨Nat.ne_of_gt hspace, hnone⟩
    rw [if_neg hempty, if_neg hnone]

/-- Once a request has been written and flushed, the deadline for the reply is fixed.  The reply is
what is delivered by then, before the stream ends or fails, as far as there is space for it.  When
nothing at all is delivered the exchange is late, or fails as the stream does, or is answered by
nothing when the stream ends first.  The bytes of its reads are those of the reply, none of them
lost, repeated or beyond the space, and the exchange is over at the deadline. -/
theorem exchange_reply (s : Stream) (data : Bytes) (writeTime readTime buffer : Nat)
    (hbuffer : 0 < buffer) (hwritten : (s.write data writeTime).failure = none) :
    let start := (s.write data writeTime).time
    let arrivals := course start s.reads
    let all := delivered (start + readTime) arrivals
    let result := s.exchange data writeTime readTime buffer
    result.reply =
      (if all = [] then
        match firstStop (start + readTime) arrivals with
        | .late => .error (.reported .timeout "read timed out")
        | .failed e => .error e
        | _ => .ok []
      else .ok (all.take buffer)) ∧
    result.chunks.flatten = all.take buffer ∧ result.time ≤ start + readTime := by
  intro start arrivals all result
  have hresult : result = _ := exchange_of_written s data writeTime readTime buffer hwritten
  have hreads : Reads (start + readTime) buffer arrivals
      (readInto (start + readTime) start buffer s.reads) :=
    reads_readInto (Nat.le_add_right start readTime) buffer s.reads
  rw [hresult]
  exact ⟨hreads.reply_eq hbuffer, hreads.bytes, hreads.time⟩

/-- A stream that is slow, delivers more than there is space for, and fails after the deadline. -/
def slowStream : Stream where
  writes := [.give 2, .wait 3]
  reads := [.wait 5, .give (Utf8.encode "220 "), .wait 10, .give (Utf8.encode "ready"), .wait 90,
    .fail .other "reset"]

/-- The part that has arrived is the reply, however little is missing at the deadline. -/
theorem exchange_reply_of_slowStream :
    0 < 6 ∧ (slowStream.write (Utf8.encode "PING") 10).failure = none ∧
      (slowStream.write (Utf8.encode "PING") 10).time = 3 ∧
      (slowStream.exchange (Utf8.encode "PING") 10 100 6).reply = .ok (Utf8.encode "220 re") ∧
      (slowStream.exchange (Utf8.encode "PING") 10 14 6).reply = .ok (Utf8.encode "220 ") ∧
      (slowStream.exchange (Utf8.encode "PING") 10 4 6).reply =
        .error (.reported .timeout "read timed out") := by
  have hspace : 0 < 6 := by decide
  have hwritten : (slowStream.write (Utf8.encode "PING") 10).failure = none := by decide +kernel
  have hreply (readTime : Nat) :=
    (exchange_reply slowStream (Utf8.encode "PING") 10 readTime 6 hspace hwritten).1
  refine ⟨hspace, hwritten, by decide +kernel, ?_, ?_, ?_⟩
  · rw [hreply]
    decide +kernel
  · rw [hreply]
    decide +kernel
  · rw [hreply]
    decide +kernel

end Fingerprinting
