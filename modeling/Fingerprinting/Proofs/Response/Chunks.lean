/-
# Bodies in chunks

A body in chunks is made of chunks, each with a line before its data that announces how many bytes
they are, and ends with a line that announces none.  The lines are free in many ways, and the data
may look like anything, also like lines; put together again the body is the data of its chunks.

* `SizeLine`, `Chunk` and `ChunkedBody` say how a body in chunks is written;
* `unchunk?_line` is what one line leads to, and `unchunk?_chunks` what a run of chunks does;
* `HttpResponse.parse_of_received` separates the header of a response from its body;
* `HttpResponse.parse_chunked` is the main result.
-/
import Fingerprinting.Proofs.Response.NormalForm
import Fingerprinting.Proofs.Text.Pieces
import Fingerprinting.Proofs.Text.Search

namespace Fingerprinting

/-! ## Lines -/

/-- The end of a line. -/
def lineEnd : Bytes := [0x0D, 0x0A]

/-- Bytes without a carriage return do not begin a line end. -/
theorem not_lineEnd_infix_append {before after : Bytes} (hbefore : 0x0D ∉ before)
    (hafter : ¬ lineEnd <:+: after) : ¬ lineEnd <:+: before ++ after := by
  intro hoccurs
  exact hafter ((Lists.cons_infix_append_iff hbefore after).mp hoccurs)

/-- The carriage return of a line end does not make one with what stands before it. -/
theorem not_lineEnd_infix_concat {b : Bytes} (h : ¬ lineEnd <:+: b) :
    ¬ lineEnd <:+: b ++ lineEnd.dropLast := by
  show ¬ lineEnd <:+: b ++ [0x0D]
  rw [List.infix_concat_iff]
  rintro (⟨rest, hsuffix⟩ | hoccurs)
  · have hlast := congrArg List.getLast? hsuffix
    simp [lineEnd] at hlast
  · exact h hoccurs

/-- The line that announces some number of bytes, without its end. -/
structure SizeLine (size : Nat) where
  digits : List Char
  isHexadecimal : Text.IsHexadecimal size digits
  extension : Option String := none
  unbroken : ∀ e, extension = some e → ¬ lineEnd <:+: Utf8.encode e

namespace SizeLine

variable {size : Nat} (l : SizeLine size)

/-- The text of a line: the number, and the extension after a semicolon. -/
def text : String :=
  String.ofList (l.digits ++ l.extension.elim [] fun e => ';' :: e.toList)

/-- The bytes of a line. -/
def bytes : Bytes := Utf8.encode l.text

/-- The number is read, whatever the extension says. -/
theorem chunkSize?_bytes (h : size ≤ Text.max64) : chunkSize? l.bytes = some size := by
  have hdigits := l.isHexadecimal.toNat_of_mem
  have hplain : ∀ c ∈ l.digits, (c != ';') = true := by
    intro c hc
    rw [bne_iff_ne]
    rintro rfl
    have hmark := hdigits ';' hc
    have hcode : ';'.toNat = 0x3B := rfl
    omega
  have hnumber : l.text.toList.takeWhile (· != ';') = l.digits := by
    rw [text, String.toList_ofList, List.takeWhile_append_of_pos hplain]
    cases l.extension with
    | none => simp
    | some e => simp
  have htrimmed : Text.trim (String.ofList l.digits) = String.ofList l.digits := by
    apply Text.trim_of_isTrimmed
    rw [String.toList_ofList]
    refine Text.isTrimmed_of_forall _ fun c hc => ?_
    have hrange := hdigits c hc
    simp [Text.isBlank]
    omega
  rw [chunkSize?, bytes, Utf8.decode?_encode, Option.bind_eq_bind, Option.bind_some]
  dsimp only
  rw [hnumber, htrimmed, l.isHexadecimal.hexadecimal? h]

/-- There is no line end inside a line. -/
theorem not_infix_bytes : ¬ lineEnd <:+: l.bytes := by
  have hbytes : l.bytes =
      Utf8.encode (String.ofList l.digits) ++
        l.extension.elim [] fun e => 0x3B :: Utf8.encode e := by
    rw [bytes, text]
    cases l.extension with
    | none => simp [Utf8.encode]
    | some e =>
        have hmark : String.utf8EncodeChar ';' = [0x3B] := rfl
        simp [Utf8.encode, hmark]
  have hdigits : 0x0D ∉ Utf8.encode (String.ofList l.digits) := by
    rw [Utf8.encode, String.toList_ofList]
    intro hmem
    obtain ⟨c, hc, hbyte⟩ := List.mem_flatMap.mp hmem
    have hcode : c.toNat = 0x0D := Utf8.eq_of_mem_encodeChar c 0x0D hbyte (by decide)
    have hrange := l.isHexadecimal.toNat_of_mem c hc
    omega
  rw [hbytes]
  refine not_lineEnd_infix_append hdigits ?_
  cases hextension : l.extension with
  | none => simp [lineEnd]
  | some e =>
      have hmark : (0x0D : UInt8) ∉ ([0x3B] : Bytes) := by decide
      exact not_lineEnd_infix_append hmark (l.unbroken e hextension)

/-- A body is cut at the end of its first line. -/
theorem cut?_bytes (rest : Bytes) :
    Bytes.cut? lineEnd (l.bytes ++ lineEnd ++ rest) = some (l.bytes, rest) :=
  Bytes.cut?_append (by decide) _ _ (not_lineEnd_infix_concat l.not_infix_bytes)

end SizeLine

/-! ## Chunks -/

/-- Some data with the line that announces how many bytes they are; their number has to fit into 64
bits. -/
structure Chunk where
  data : Bytes
  data_ne_nil : data ≠ []
  length_le : data.length ≤ Text.max64
  line : SizeLine data.length

/-- A chunk as it is written: its line and its data, each with a line end after it. -/
def Chunk.bytes (c : Chunk) : Bytes := c.line.bytes ++ lineEnd ++ c.data ++ lineEnd

/-- Chunks, the line that ends them, and what follows it. -/
structure ChunkedBody where
  chunks : List Chunk
  last : SizeLine 0
  trailer : Bytes

/-- A body as it is written. -/
def ChunkedBody.bytes (b : ChunkedBody) : Bytes :=
  b.chunks.flatMap Chunk.bytes ++ (b.last.bytes ++ lineEnd ++ b.trailer)

/-- The data of all chunks. -/
def ChunkedBody.data (b : ChunkedBody) : Bytes := b.chunks.flatMap Chunk.data

/-! ## Putting together -/

/-- What a line and the bytes after it lead to, when later chunks are put together by `more`. -/
def afterLine (more : Bytes → Option Bytes) (rest : Bytes) (size : Nat) : Option Bytes :=
  if size = 0 then some []
  else if rest.length < size then some rest
  else (more (rest.drop (size + 2))).map (rest.take size ++ ·)

theorem decodeChunks_succ (bound : Nat) (b : Bytes) :
    decodeChunks (bound + 1) b =
      (Bytes.cut? lineEnd b).bind fun (line, rest) =>
        (chunkSize? line).bind (afterLine (decodeChunks bound) rest) := by
  rw [decodeChunks]
  show (Bytes.cut? lineEnd b).bind _ = _
  congr 1
  funext ⟨line, rest⟩
  show (chunkSize? line).bind _ = _
  congr 1
  funext size
  unfold afterLine
  split
  · rfl
  · split
    · rfl
    · cases decodeChunks bound (rest.drop (size + 2)) with
      | none => rfl
      | some more => rfl

/-- The bound does not matter when it exceeds the number of bytes. -/
theorem decodeChunks_eq (bound bound' : Nat) (b : Bytes) (h : b.length < bound)
    (h' : b.length < bound') : decodeChunks bound b = decodeChunks bound' b := by
  induction bound generalizing bound' b with
  | zero => exact absurd h (Nat.not_lt_zero _)
  | succ bound ih =>
      cases bound' with
      | zero => exact absurd h' (Nat.not_lt_zero _)
      | succ bound' =>
          rw [decodeChunks_succ, decodeChunks_succ]
          cases hcut : Bytes.cut? lineEnd b with
          | none => rfl
          | some parts =>
              obtain ⟨line, rest⟩ := parts
              obtain ⟨rfl, -⟩ := (Bytes.cut?_eq_some_iff (by decide) _ _ _).mp hcut
              rw [List.length_append, List.length_append] at h h'
              -- A line end takes two bytes, so what is left is shorter than both bounds allow.
              have hline : lineEnd.length = 2 := rfl
              have hmore (size : Nat) : decodeChunks bound (rest.drop (size + 2)) =
                  decodeChunks bound' (rest.drop (size + 2)) := by
                apply ih
                · rw [List.length_drop]
                  omega
                · rw [List.length_drop]
                  omega
              have hafter : afterLine (decodeChunks bound) rest =
                  afterLine (decodeChunks bound') rest := by
                funext size
                rw [afterLine, afterLine, hmore]
              rw [Option.bind_some, Option.bind_some]
              dsimp only
              rw [hafter]

/-- Putting together goes on after a line. -/
theorem unchunk?_line {size : Nat} (l : SizeLine size) (hsize : size ≤ Text.max64) (rest : Bytes) :
    unchunk? (l.bytes ++ lineEnd ++ rest) = afterLine unchunk? rest size := by
  have hmore : decodeChunks (l.bytes ++ lineEnd ++ rest).length (rest.drop (size + 2)) =
      unchunk? (rest.drop (size + 2)) := by
    apply decodeChunks_eq
    · have hline : lineEnd.length = 2 := rfl
      rw [List.length_append, List.length_append, List.length_drop]
      omega
    · exact Nat.lt_succ_self _
  rw [unchunk?, decodeChunks_succ, l.cut?_bytes, Option.bind_some]
  dsimp only
  rw [l.chunkSize?_bytes hsize, Option.bind_some, afterLine, afterLine, hmore]

/-- A chunk adds its data. -/
theorem unchunk?_chunk (c : Chunk) (rest : Bytes) :
    unchunk? (c.bytes ++ rest) = (unchunk? rest).map (c.data ++ ·) := by
  have hshape : c.bytes ++ rest = c.line.bytes ++ lineEnd ++ (c.data ++ (lineEnd ++ rest)) := by
    simp only [Chunk.bytes, List.append_assoc]
  have hpos : c.data.length ≠ 0 := fun h => c.data_ne_nil (List.length_eq_zero_iff.mp h)
  have henough : ¬ (c.data ++ (lineEnd ++ rest)).length < c.data.length := by
    rw [List.length_append]
    omega
  have htake : (c.data ++ (lineEnd ++ rest)).take c.data.length = c.data := List.take_left
  have hdrop : (c.data ++ (lineEnd ++ rest)).drop (c.data.length + 2) = rest := by
    rw [← List.drop_drop, List.drop_left]
    rfl
  rw [hshape, unchunk?_line _ c.length_le, afterLine, if_neg hpos, if_neg henough, htake, hdrop]

/-- A run of chunks adds the data of all of them. -/
theorem unchunk?_chunks (chunks : List Chunk) (rest : Bytes) :
    unchunk? (chunks.flatMap Chunk.bytes ++ rest) =
      (unchunk? rest).map (chunks.flatMap Chunk.data ++ ·) := by
  induction chunks with
  | nil => simp
  | cons c chunks ih =>
      rw [List.flatMap_cons, List.append_assoc, unchunk?_chunk, ih, Option.map_map]
      congr 1
      funext more
      simp

/-- A body in chunks has the data of its chunks. -/
theorem unchunk?_body (b : ChunkedBody) : unchunk? b.bytes = some b.data := by
  rw [ChunkedBody.bytes, unchunk?_chunks, unchunk?_line _ (Nat.zero_le _), afterLine, if_pos rfl]
  simp [ChunkedBody.data]

/-! ## Responses -/

namespace HttpResponse

/-- Bytes are a response whose body has not been put together: the lines of the header say what it
is, and the body is what follows the header. -/
def Received (b : Bytes) (r : HttpResponse) : Prop :=
  ∃ line lines, Text.lines (Utf8.lossy (splitLoosely b).1) = line :: lines ∧
    statusLine line = .ok (r.proto, r.status, r.reason) ∧
    r.headers = lines.filterMap headerLine? ∧ r.body = (splitLoosely b).2

/-- A response that has been received is read, and its body put together if it is in chunks. -/
theorem parse_of_received {b : Bytes} {r : HttpResponse} (h : Received b r) :
    parse b = .ok r.dechunk := by
  obtain ⟨line, lines, hlines, hstatus, hheaders, hbody⟩ := h
  refine (parse_eq_ok_iff b _).mpr ⟨line, lines, _, _, _, hlines, hstatus, ?_⟩
  rw [← hheaders, ← hbody]

/-- Whatever the data of its chunks and the free parts of their lines are, a response that is
received with a body in chunks is read as itself with the data of all chunks for a body. -/
theorem parse_chunked {b : Bytes} {r : HttpResponse} (hreceived : Received b r)
    (hchunked : r.isChunked = true) (body : ChunkedBody) (hbody : r.body = body.bytes) :
    parse b = .ok { r with body := body.data } := by
  rw [parse_of_received hreceived, dechunk, if_pos hchunked, hbody, unchunk?_body]
  rfl

/-- A chunk whose data look like lines of chunks, with zeros before its size and an extension. -/
theorem parse_chunked_of_lookalike :
    let head := "HTTP/1.1 200 OK\r\nServer: x\r\ntransfer-encoding: Chunked"
    let r : HttpResponse :=
      ⟨"HTTP/1.1", 200, "OK", [("Server", "x"), ("transfer-encoding", "Chunked")],
        Utf8.encode "00A;n=é\r\n0\r\n\r\n5\r\na;\r\n1\r\nz\r\n000;end\r\nTrailer: y\r\n\r\n"⟩
    let b := Utf8.encode head ++ blankLine ++ r.body
    Received b r ∧ r.isChunked = true ∧
      parse b = .ok { r with body := Utf8.encode "0\r\n\r\n5\r\na;z" } := by
  intro head r b
  let first : Chunk :=
    { data := Utf8.encode "0\r\n\r\n5\r\na;"
      data_ne_nil := by decide
      length_le := by decide
      line := ⟨"00A".toList, ⟨2, by decide⟩, some "n=é", by
        rintro e ⟨⟩
        decide⟩ }
  let second : Chunk :=
    { data := Utf8.encode "z"
      data_ne_nil := by decide
      length_le := by decide
      line := ⟨"1".toList, ⟨0, by decide⟩, none, nofun⟩ }
  let body : ChunkedBody :=
    { chunks := [first, second]
      last := ⟨"000".toList, ⟨2, by decide⟩, some "end", by
        rintro e ⟨⟩
        decide⟩
      trailer := Utf8.encode "Trailer: y\r\n\r\n" }
  have hreceived : Received b r :=
    ⟨"HTTP/1.1 200 OK", ["Server: x", "transfer-encoding: Chunked"], by decide +kernel,
      by decide +kernel, by decide +kernel, by decide +kernel⟩
  have hchunked : r.isChunked = true := by decide +kernel
  have hbody : r.body = body.bytes := by decide +kernel
  have hdata : body.data = Utf8.encode "0\r\n\r\n5\r\na;z" := by decide +kernel
  have hparse := parse_chunked hreceived hchunked body hbody
  rw [hdata] at hparse
  exact ⟨hreceived, hchunked, hparse⟩

end HttpResponse

end Fingerprinting
