/-
# Bodies in chunks that are cut short

A capture may end before a response does.  When it ends inside the data of a chunk, what has arrived
of the data is put together.  When it ends right after the data of a chunk, no line follows that
could be read, and so the body stays as it was written.

* `HttpResponse.Received.cut_short` says that the end of a body has no influence on the header;
* `unchunk?_cut_short` puts together what has arrived;
* `HttpResponse.parse_cut_short` is the main result.
-/
import Fingerprinting.Proofs.Response.Chunks

namespace Fingerprinting

/-! ## Captures -/

theorem splitContent_cut_short {b rest head body : Bytes}
    (h : splitContent (b ++ rest) = some (head, body ++ rest)) :
    splitContent b = some (head, body) :=
  Bytes.cut?_of_append (by decide) h

/-- Where a header ends does not depend on the end of the body. -/
theorem splitLoosely_cut_short {b rest head body : Bytes}
    (h : splitLoosely (b ++ rest) = (head, body ++ rest)) : splitLoosely b = (head, body) := by
  unfold splitLoosely at h ⊢
  cases hwhole : splitContent (b ++ rest) with
  | some parts =>
      rw [hwhole] at h
      have hparts : parts = (head, body ++ rest) := h
      rw [splitContent_cut_short (hparts ▸ hwhole)]
  | none =>
      rw [hwhole] at h
      -- There is no blank line in the whole, and so none in a part.
      have hnone : splitContent b = none := by
        rw [splitContent, Bytes.cut?_eq_none_iff (by decide)] at hwhole ⊢
        exact fun hoccurs => hwhole (hoccurs.trans (List.prefix_append b rest).isInfix)
      rw [hnone]
      dsimp only at h ⊢
      cases hfeeds : Bytes.cut? [0x0A, 0x0A] (b ++ rest) with
      | some parts =>
          rw [hfeeds] at h
          have hparts : parts = (head, body ++ rest) := h
          rw [Bytes.cut?_of_append (by decide) (hparts ▸ hfeeds)]
          rfl
      | none =>
          rw [hfeeds] at h
          obtain ⟨hhead, hbody⟩ := Prod.mk.inj h
          obtain ⟨rfl, rfl⟩ := List.append_eq_nil_iff.mp hbody.symm
          rw [List.append_nil] at hfeeds hhead
          rw [hfeeds, ← hhead]
          rfl

/-- The body of a response ends with it. -/
theorem HttpResponse.Received.body_suffix {b : Bytes} {r : HttpResponse} (h : Received b r) :
    r.body <:+ b := by
  obtain ⟨-, -, -, -, -, hbody⟩ := h
  rw [hbody, splitLoosely]
  cases hsplit : splitContent b with
  | some parts =>
      obtain ⟨hb, -⟩ := (Bytes.cut?_eq_some_iff (by decide) _ parts.1 parts.2).mp hsplit
      exact ⟨_, hb.symm⟩
  | none =>
      dsimp only
      cases hfeeds : Bytes.cut? [0x0A, 0x0A] b with
      | some parts =>
          obtain ⟨hb, -⟩ := (Bytes.cut?_eq_some_iff (by decide) _ parts.1 parts.2).mp hfeeds
          exact ⟨_, hb.symm⟩
      | none => exact List.nil_suffix

/-- A response whose body is cut short is received with what has arrived of the body. -/
theorem HttpResponse.Received.cut_short {b rest arrived : Bytes} {r : HttpResponse}
    (h : Received (b ++ rest) r) (hbody : r.body = arrived ++ rest) :
    Received b { r with body := arrived } := by
  obtain ⟨line, lines, hlines, hstatus, hheaders, hbody'⟩ := h
  have hsplit : splitLoosely b = ((splitLoosely (b ++ rest)).1, arrived) := by
    apply splitLoosely_cut_short
    rw [← hbody, hbody']
  exact ⟨line, lines, by rw [hsplit]; exact hlines, hstatus, hheaders, by rw [hsplit]⟩

/-! ## Putting together -/

/-- What has arrived of a body that is cut short in the data of a chunk: the chunks before it, its
line, and the data up to some length. -/
def arrived (before : List Chunk) (c : Chunk) (length : Nat) : Bytes :=
  before.flatMap Chunk.bytes ++ (c.line.bytes ++ lineEnd ++ c.data.take length)

/-- The data that have arrived. -/
def arrivedData (before : List Chunk) (c : Chunk) (length : Nat) : Bytes :=
  before.flatMap Chunk.data ++ c.data.take length

/-- Putting together what has arrived gives the data that have arrived, unless all data of the last
chunk have: then the next line is missing. -/
theorem unchunk?_arrived (before : List Chunk) (c : Chunk) (length : Nat)
    (h : length ≤ c.data.length) :
    unchunk? (arrived before c length) =
      if length < c.data.length then some (arrivedData before c length) else none := by
  have hpos : c.data.length ≠ 0 := fun h => c.data_ne_nil (List.length_eq_zero_iff.mp h)
  have htake : (c.data.take length).length = length := by
    rw [List.length_take]
    omega
  rw [arrived, unchunk?_chunks, unchunk?_line _ c.length_le, afterLine, if_neg hpos, htake]
  by_cases hmissing : length < c.data.length
  · rw [if_pos hmissing, if_pos hmissing]
    rfl
  · have hdrop : (c.data.take length).drop (c.data.length + 2) = [] := by
      rw [List.drop_eq_nil_iff]
      omega
    rw [if_neg hmissing, if_neg hmissing, hdrop]
    rfl

/-- Lines take space, so more has arrived than the data. -/
theorem length_arrivedData_lt (before : List Chunk) (c : Chunk) (length : Nat) :
    (arrivedData before c length).length < (arrived before c length).length := by
  have hbefore : (before.flatMap Chunk.data).length ≤ (before.flatMap Chunk.bytes).length := by
    induction before with
    | nil => exact Nat.le_refl _
    | cons d before ih =>
        rw [List.flatMap_cons, List.flatMap_cons, List.length_append, List.length_append]
        have hchunk : d.data.length ≤ d.bytes.length := by
          simp only [Chunk.bytes, List.length_append]
          omega
        omega
  have hline : lineEnd.length = 2 := rfl
  simp only [arrivedData, arrived, List.length_append, hline]
  omega

/-- A body in chunks begins with what has arrived when it is cut short. -/
theorem ChunkedBody.arrived_prefix (body : ChunkedBody) {before after : List Chunk} {c : Chunk}
    (h : body.chunks = before ++ c :: after) (length : Nat) :
    arrived before c length <+: body.bytes := by
  have hshape : body.bytes =
      arrived before c length ++ (c.data.drop length ++ (lineEnd ++
        (after.flatMap Chunk.bytes ++ (body.last.bytes ++ lineEnd ++ body.trailer)))) := by
    have hdata (tail : Bytes) : c.data.take length ++ (c.data.drop length ++ tail) =
        c.data ++ tail := by
      rw [← List.append_assoc, List.take_append_drop]
    rw [ChunkedBody.bytes, h, List.flatMap_append, List.flatMap_cons]
    simp only [arrived, Chunk.bytes, List.append_assoc, hdata]
  rw [hshape]
  exact List.prefix_append _ _

namespace HttpResponse

/-- A response that is captured up to some of the data of a chunk is read with the data that have
arrived, unless all of the chunk have. -/
theorem parse_arrived {captured missing : Bytes} {r : HttpResponse}
    (hreceived : Received (captured ++ missing) r) (hchunked : r.isChunked = true)
    (before : List Chunk) (c : Chunk) {length : Nat} (hlength : length ≤ c.data.length)
    (hmissing : r.body = arrived before c length ++ missing) :
    parse captured =
      .ok { r with
        body :=
          if length < c.data.length then arrivedData before c length
          else arrived before c length } := by
  have hparse := parse_of_received (hreceived.cut_short hmissing)
  have hcut : ({ r with body := arrived before c length } : HttpResponse).isChunked = true :=
    hchunked
  rw [hparse, dechunk, if_pos hcut, unchunk?_arrived before c length hlength]
  split
  · rfl
  · rfl

/-- A response in chunks is captured up to some of the data of a chunk, and the end of its body is
missing.  It is read with the data that have arrived exactly when some data of the chunk are missing
too.  When they have all arrived, the body has all the lines that have. -/
theorem parse_cut_short {b : Bytes} {r : HttpResponse} (hreceived : Received b r)
    (hchunked : r.isChunked = true) (body : ChunkedBody) (hbody : r.body = body.bytes)
    {before after : List Chunk} {c : Chunk} (hchunks : body.chunks = before ++ c :: after)
    {length : Nat} (hlength : length ≤ c.data.length) :
    ∃ captured missing, b = captured ++ missing ∧ r.body = arrived before c length ++ missing ∧
      parse captured =
        .ok { r with
          body :=
            if length < c.data.length then arrivedData before c length
            else arrived before c length } ∧
      arrived before c length ≠ arrivedData before c length := by
  obtain ⟨missing, hmissing⟩ := body.arrived_prefix hchunks length
  rw [← hmissing] at hbody
  obtain ⟨captured, rfl⟩ : missing <:+ b := by
    have hsuffix : missing <:+ r.body := hbody ▸ List.suffix_append _ _
    exact hsuffix.trans hreceived.body_suffix
  refine ⟨captured, missing, rfl, hbody, parse_arrived hreceived hchunked before c hlength hbody,
    fun heq => ?_⟩
  have hlonger := length_arrivedData_lt before c length
  rw [heq] at hlonger
  exact Nat.lt_irrefl _ hlonger

/-- A capture that ends inside a chunk, and one that ends right after its data. -/
theorem parse_cut_short_of_whole_chunk :
    let head := Utf8.encode "HTTP/1.1 200 OK\r\nTransfer-Encoding: chunked" ++ blankLine
    let r (body : String) : HttpResponse :=
      ⟨"HTTP/1.1", 200, "OK", [("Transfer-Encoding", "chunked")], Utf8.encode body⟩
    let whole := "1\r\nz\r\n5\r\nhello\r\n0\r\n\r\n"
    Received (head ++ Utf8.encode whole) (r whole) ∧
      parse (head ++ Utf8.encode "1\r\nz\r\n5\r\nhe") = .ok (r "zhe") ∧
      parse (head ++ Utf8.encode "1\r\nz\r\n5\r\nhello") = .ok (r "1\r\nz\r\n5\r\nhello") := by
  intro head r whole
  let first : Chunk :=
    { data := Utf8.encode "z"
      data_ne_nil := by decide
      length_le := by decide
      line := ⟨"1".toList, ⟨0, by decide⟩, none, nofun⟩ }
  let second : Chunk :=
    { data := Utf8.encode "hello"
      data_ne_nil := by decide
      length_le := by decide
      line := ⟨"5".toList, ⟨0, by decide⟩, none, nofun⟩ }
  let body : ChunkedBody :=
    { chunks := [first, second]
      last := ⟨"0".toList, ⟨0, by decide⟩, none, nofun⟩
      trailer := Utf8.encode "\r\n" }
  have hreceived : Received (head ++ Utf8.encode whole) (r whole) :=
    ⟨"HTTP/1.1 200 OK", ["Transfer-Encoding: chunked"], by decide +kernel, by decide +kernel,
      by decide +kernel, by decide +kernel⟩
  have hchunked : (r whole).isChunked = true := by decide +kernel
  have hbody : (r whole).body = body.bytes := by decide +kernel
  have hchunks : body.chunks = [first] ++ second :: [] := rfl
  have hcut (length : Nat) (hlength : length ≤ second.data.length) :
      parse (head ++ arrived [first] second length) =
        .ok { r whole with
          body :=
            if length < second.data.length then arrivedData [first] second length
            else arrived [first] second length } := by
    obtain ⟨captured, missing, hb, hmissing, hparse, -⟩ :=
      parse_cut_short hreceived hchunked body hbody hchunks hlength
    have hwhole : Utf8.encode whole = arrived [first] second length ++ missing := hmissing
    rw [hwhole, ← List.append_assoc, List.append_left_inj] at hb
    rw [hb, hparse]
  refine ⟨hreceived, ?_, ?_⟩
  · have harrived : arrived [first] second 2 = Utf8.encode "1\r\nz\r\n5\r\nhe" := by decide +kernel
    have hdata : arrivedData [first] second 2 = Utf8.encode "zhe" := by decide +kernel
    have hinside := hcut 2 (by decide)
    rwa [if_pos (by decide), harrived, hdata] at hinside
  · have harrived : arrived [first] second 5 = Utf8.encode "1\r\nz\r\n5\r\nhello" := by
      decide +kernel
    have hend := hcut 5 (by decide)
    rwa [if_neg (by decide), harrived] at hend

end HttpResponse

end Fingerprinting
