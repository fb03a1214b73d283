/-
# HTTP responses

A response is read from captured bytes: a status line, header lines, and a body.  A body in chunks
is put together again; when the capture ends inside a chunk, what has arrived of it counts.

`HttpResponse.write` gives a response a header block of one form, without the transfer coding that
reading has undone.
-/
import Fingerprinting.Error
import Fingerprinting.Text.Blank
import Fingerprinting.Text.Search

namespace Fingerprinting

/-! ## Header and body -/

/-- The blank line between header and body. -/
def blankLine : Bytes := [0x0D, 0x0A, 0x0D, 0x0A]

/-- Header and body of a response, cut at the first blank line. -/
def splitContent (b : Bytes) : Option (Bytes × Bytes) := Bytes.cut? blankLine b

/-- Header and body, where line feeds alone may end the lines; without a blank line all is header.
-/
def splitLoosely (b : Bytes) : Bytes × Bytes :=
  match splitContent b with
  | some parts => parts
  | none => (Bytes.cut? [0x0A, 0x0A] b).getD (b, [])

/-! ## Chunks -/

/-- The size that a chunk's first line announces, whatever extension follows it. -/
def chunkSize? (line : Bytes) : Option Nat := do
  let text ← Utf8.decode? line
  let size := String.ofList (text.toList.takeWhile (· != ';'))
  Text.hexadecimal? Text.max64 (Text.trim size)

/-- The data of a body in chunks, or nothing when a chunk's first line is malformed. -/
def decodeChunks (bound : Nat) (b : Bytes) : Option Bytes :=
  match bound with
  | 0 => none
  | bound + 1 => do
      let (line, rest) ← Bytes.cut? [0x0D, 0x0A] b
      let size ← chunkSize? line
      if size = 0 then some []
      else if rest.length < size then some rest
      else do
        let more ← decodeChunks bound (rest.drop (size + 2))
        some (rest.take size ++ more)

/-- The data of a body in chunks.  Every chunk takes a byte, so the length bounds their number. -/
def unchunk? (b : Bytes) : Option Bytes := decodeChunks (b.length + 1) b

/-! ## Responses -/

/-- A parsed response. -/
structure HttpResponse where
  proto : String
  status : Nat
  reason : String
  headers : List (String × String)
  body : Bytes
deriving DecidableEq, Repr

namespace HttpResponse

/-- The value of the first header with some name in any ASCII case. -/
def header? (r : HttpResponse) (name : String) : Option String :=
  (r.headers.find? fun h => Text.sameIgnoringAsciiCase h.1 name).map Prod.snd

/-- The first field of a line, and what follows the space after it. -/
def field (cs : List Char) : List Char × Option (List Char) :=
  match Text.cutWhere (· == ' ') cs with
  | some (a, b) => (a, some b)
  | none => (cs, none)

/-- Protocol, status and reason of a status line. -/
def statusLine (line : String) : Except Error (String × Nat × String) := do
  let (proto, rest) := field (Text.trim line).toList
  if !"HTTP/".toList.isPrefixOf proto then .error (.parse (.statusLine line))
  let (status, reason) := field (rest.getD [])
  match Text.decimal? Text.max16 (String.ofList status) with
  | some n =>
      .ok (String.ofList proto, n, Text.trim (String.ofList (reason.getD [])))
  | none => .error (.parse (.statusCode line))

/-- Name and value of a header line. -/
def headerLine? (line : String) : Option (String × String) :=
  (Text.cut ':' line).map fun (name, value) => (Text.trim name, Text.trim value)

/-- Whether the headers announce a body in chunks. -/
def isChunked (r : HttpResponse) : Bool :=
  match r.header? "transfer-encoding" with
  | some v => Text.sameIgnoringAsciiCase v "chunked"
  | none => false

/-- The response with its body put together; a body that is not in chunks after all stays as it is.
-/
def dechunk (r : HttpResponse) : HttpResponse :=
  if r.isChunked then { r with body := (unchunk? r.body).getD r.body } else r

/-- Read a response. -/
def parse (b : Bytes) : Except Error HttpResponse :=
  let (head, body) := splitLoosely b
  match Text.lines (Utf8.lossy head) with
  | [] => .error (.parse .emptyResponse)
  | line :: lines => do
      let (proto, status, reason) ← statusLine line
      let r : HttpResponse :=
        { proto, status, reason, headers := lines.filterMap headerLine?, body }
      .ok r.dechunk

/-- A header line. -/
def writeHeader (h : String × String) : String := h.1 ++ ": " ++ h.2 ++ "\r\n"

/-- The headers without the transfer coding. -/
def plainHeaders (r : HttpResponse) : List (String × String) :=
  r.headers.filter fun h => !Text.sameIgnoringAsciiCase h.1 "transfer-encoding"

/-- Write a response with a normal header block. -/
def write (r : HttpResponse) : Bytes :=
  let first := r.proto ++ " " ++ Text.decimal r.status ++ " " ++ r.reason ++ "\r\n"
  Utf8.encode (first ++ Text.join "" (r.plainHeaders.map writeHeader) ++ "\r\n") ++ r.body

end HttpResponse

end Fingerprinting
