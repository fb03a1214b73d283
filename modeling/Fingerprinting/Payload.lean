/-
# Payloads

The language in which rules write the bytes they send.  A payload is text with backslash escapes,
and between its texts may stand segments `hex|…|` of hexadecimal digits and `b64de|…|` of Base64.
The marker `\x7b\x7bHostname\x7d\x7d` stands for the host that a payload is sent to.
-/
import Fingerprinting.Error
import Fingerprinting.Text.Base64
import Fingerprinting.Text.Blank
import Fingerprinting.Text.Search

namespace Fingerprinting.Payload

/-! ## Escapes -/

/-- The value of a hexadecimal digit. -/
def digit? (b : UInt8) : Option UInt8 :=
  (Text.hexDigitValue? (Char.ofNat b.toNat)).map Nat.toUInt8

/-- The byte that two hexadecimal digits write. -/
def pair? (hi lo : UInt8) : Option UInt8 := do some ((← digit? hi) * 16 + (← digit? lo))

/-- The byte that a letter after a backslash stands for. -/
def letter? (b : UInt8) : Option UInt8 :=
  if b = 0x72 then some 0x0D
  else if b = 0x6E then some 0x0A
  else if b = 0x74 then some 0x09
  else if b = 0x30 then some 0x00
  else if b = 0x5C then some 0x5C
  else none

/-- Undo the escapes; a backslash that begins no escape stands for itself. -/
def unescapeBytes : Bytes → Bytes
  | [] => []
  | 0x5C :: 0x78 :: hi :: lo :: rest =>
      match pair? hi lo with
      | some b => b :: unescapeBytes rest
      | none => 0x5C :: 0x78 :: unescapeBytes (hi :: lo :: rest)
  | 0x5C :: b :: rest =>
      match letter? b with
      | some c => c :: unescapeBytes rest
      | none => 0x5C :: b :: unescapeBytes rest
  | b :: rest => b :: unescapeBytes rest

/-- The bytes of a text with escapes. -/
def unescape (s : String) : Bytes := unescapeBytes (Utf8.encode s)

/-! ## Segments -/

/-- The bytes of pairs of hexadecimal digits. -/
def pairs? : Bytes → Option Bytes
  | [] => some []
  | hi :: lo :: rest => do some ((← pair? hi lo) :: (← pairs? rest))
  | [_] => none

/-- The bytes of a hexadecimal segment, in which ASCII blanks do not count. -/
def hexSegment (cs : List Char) : Except RuleError Bytes :=
  let text := Text.trim (String.ofList cs)
  let digits := Utf8.encode (String.ofList (text.toList.filter fun c => !Text.isAsciiBlank c))
  if digits.length % 2 ≠ 0 then .error (.oddHex text)
  else
    match pairs? digits with
    | some b => .ok b
    | none => .error (.invalidHex text)

/-- The bytes of a Base64 segment. -/
def base64Segment (cs : List Char) : Except RuleError Bytes :=
  match Base64.decode? (Utf8.encode (Text.trim (String.ofList cs))) with
  | some b => .ok b
  | none => .error .base64Segment

/-- The kinds of segments. -/
inductive Segment where
  | base64
  | hex
deriving DecidableEq, Repr

/-- The name of a kind of segment. -/
def Segment.name : Segment → String
  | .base64 => "b64de"
  | .hex => "hex"

/-- What begins a segment. -/
def Segment.mark (kind : Segment) : List Char := kind.name.toList ++ ['|']

/-- The bytes of a segment. -/
def Segment.decode : Segment → List Char → Except RuleError Bytes
  | .base64 => base64Segment
  | .hex => hexSegment

/-- The kind of the segment that begins here, and what follows its mark. -/
def segment? (cs : List Char) : Option (Segment × List Char) :=
  [Segment.base64, Segment.hex].findSome? fun kind =>
    (Text.stripStart kind.mark cs).map fun rest => (kind, rest)

/-! ## Reading -/

/-- Read the rest of a payload; `text` are the characters since the last segment, in reverse, and
`skip` characters still belong to the last segment. -/
def parseFrom (text : List Char) : Nat → List Char → Except RuleError Bytes
  | _, [] => .ok (unescape (String.ofList text.reverse))
  | skip + 1, _ :: rest => parseFrom text skip rest
  | 0, c :: rest =>
      match segment? (c :: rest) with
      | none => parseFrom (c :: text) 0 rest
      | some (kind, body) =>
          match Text.cutWhere (· == '|') body with
          | none => .error (.unterminatedSegment kind.name)
          | some (inner, _) => do
              let bytes ← kind.decode inner
              let more ← parseFrom [] (kind.mark.length + inner.length) rest
              .ok (unescape (String.ofList text.reverse) ++ bytes ++ more)

/-- The bytes of a payload. -/
def parse (s : String) : Except RuleError Bytes := parseFrom [] 0 s.toList

/-! ## Hosts -/

/-- What stands for the host in a payload. -/
def hostMark : Bytes := Utf8.encode "\x7b\x7bHostname\x7d\x7d"

/-- The payload to send to a host; one without a mark is sent as it is. -/
def render (payload : Bytes) (host : String) : Bytes :=
  if Bytes.contains hostMark payload then Bytes.replace hostMark (Utf8.encode host) payload
  else payload

end Fingerprinting.Payload
