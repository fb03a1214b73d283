/-
# Written forms of platform names

A platform name has three written forms:

* the URI `cpe:/a:vendor:product`, where bytes are written in percent notation, five attributes are
  packed into one component and empty components at the end are left out;
* the formatted string `cpe:2.3:a:vendor:product:…`, where a backslash quotes punctuation;
* the well-formed name `wfn:[part="a",…]`, which is written only.

`Cpe.parse` reads the first two.
-/
import Fingerprinting.Cpe.Basic
import Fingerprinting.Error
import Fingerprinting.Text.Blank

namespace Fingerprinting.Cpe

/-! ## Percent notation -/

/-- A byte that stands for itself in a URI. -/
def isPlainByte (b : UInt8) : Bool :=
  (0x30 ≤ b && b ≤ 0x39) || (0x41 ≤ b && b ≤ 0x5A) || (0x61 ≤ b && b ≤ 0x7A) ||
    b == 0x2E || b == 0x2D || b == 0x5F

/-- A byte in percent notation. -/
def percent (b : UInt8) : List Char :=
  if isPlainByte b then [Char.ofNat b.toNat] else '%' :: Text.hexByte b

/-- A component of a URI. -/
def bindUri (s : String) : String :=
  if s = notApplicable then s else String.ofList ((Utf8.encode s).flatMap percent)

/-- The byte of a two-character hexadecimal numeral. -/
def pairValue? (a b : UInt8) : Option UInt8 :=
  if a < 0x80 ∧ b < 0x80 then
    (Text.hexadecimal? Text.max8 (String.ofList [Char.ofNat a.toNat, Char.ofNat b.toNat])).map
      Nat.toUInt8
  else none

/-- The bytes of a component; a percent sign without a numeral stands for itself. -/
def unpercent : Bytes → Bytes
  | 0x25 :: a :: b :: rest =>
      match pairValue? a b with
      | some x => x :: unpercent rest
      | none => 0x25 :: unpercent (a :: b :: rest)
  | x :: rest => x :: unpercent rest
  | [] => []

/-- The value of a component of a URI. -/
def unbindUri (s : String) : String := Utf8.lossy (unpercent (Utf8.encode s))

/-! ## Quoting by backslash -/

/-- A character that stands for itself in a formatted string. -/
def isPlainChar (c : Char) : Bool :=
  Text.isAsciiAlphanumeric c || c == '.' || c == '-' || c == '_' || 0x80 ≤ c.toNat

/-- A component of a formatted string: a star for any value, and a backslash before punctuation. -/
def bindFormatted (s : String) : String :=
  if s = "" then "*"
  else if s = notApplicable then s
  else String.ofList (s.toList.flatMap fun c => if isPlainChar c then [c] else ['\\', c])

/-- Characters without the backslashes that quote them. -/
def unquote : List Char → List Char
  | '\\' :: c :: rest => c :: unquote rest
  | ['\\'] => []
  | c :: rest => c :: unquote rest
  | [] => []

/-- The value of a component of a formatted string. -/
def unbindFormatted (s : String) : String :=
  if s = "*" then ""
  else if s = notApplicable then s
  else String.ofList (unquote s.toList)

/-- The components between colons that no backslash quotes. -/
def splitQuoted : List Char → List (List Char)
  | [] => [[]]
  | '\\' :: c :: rest =>
      match splitQuoted rest with
      | [] => [['\\', c]]
      | piece :: pieces => ('\\' :: c :: piece) :: pieces
  | ':' :: rest => [] :: splitQuoted rest
  | c :: rest =>
      match splitQuoted rest with
      | [] => [[c]]
      | piece :: pieces => (c :: piece) :: pieces

/-! ## Writing -/

/-- The components of a URI: the attributes in order, five of them packed into one when one of the
four newer ones has a value. -/
def uriComponents (a : Cpe) : List String :=
  let edition :=
    if a.swEdition = "" ∧ a.targetSw = "" ∧ a.targetHw = "" ∧ a.other = "" then bindUri a.edition
    else
      "~" ++ bindUri a.edition ++ "~" ++ bindUri a.swEdition ++ "~" ++ bindUri a.targetSw ++ "~" ++
        bindUri a.targetHw ++ "~" ++ bindUri a.other
  [bindUri a.part, bindUri a.vendor, bindUri a.product, bindUri a.version, bindUri a.update,
    edition, bindUri a.language]

/-- Without the empty components at the end. -/
def dropEmptyEnd (parts : List String) : List String :=
  (parts.reverse.dropWhile (· == "")).reverse

/-- The URI of a name. -/
def uri (a : Cpe) : String := "cpe:/" ++ Text.join ":" (dropEmptyEnd a.uriComponents)

/-- The attributes in the order of the formatted string. -/
def formattedValues (a : Cpe) : List String :=
  [a.part, a.vendor, a.product, a.version, a.update, a.edition, a.language, a.swEdition,
    a.targetSw, a.targetHw, a.other]

/-- The formatted string of a name. -/
def formatted (a : Cpe) : String :=
  "cpe:2.3:" ++ Text.join ":" (a.formattedValues.map bindFormatted)

/-- One attribute of a well-formed name. -/
def wfnAttribute (name value : String) : String :=
  if value = notApplicable then name ++ "=NA" else name ++ "=\"" ++ value ++ "\""

/-- The well-formed name. -/
def wfn (a : Cpe) : String :=
  let attributes := (a.named.filter fun f => f.2 != "").map fun f => wfnAttribute f.1 f.2
  "wfn:[" ++ Text.join "," attributes ++ "]"

/-! ## Reading -/

/-- The name, if its part is one that names may have. -/
def validated (a : Cpe) : Except Error Cpe :=
  if isPart a.part then .ok a else .error (.parse (.invalidPart a.part))

/-- Read a formatted string after its lead; missing components have no value. -/
def parseFormatted (rest : String) : Except Error Cpe :=
  let values := (splitQuoted rest.toList).map fun f => unbindFormatted (String.ofList f)
  if 11 < values.length then .error (.parse (.tooManyComponents rest))
  else
    match values ++ List.replicate (11 - values.length) "" with
    | [part, vendor, product, version, update, edition, language, swEdition, targetSw, targetHw,
        other] =>
        validated
          { part, vendor, product, version, update, edition, language, swEdition, targetSw,
            targetHw, other }
    | _ => .error (.parse (.tooManyComponents rest))

/-- The value of the component with some number, empty when there is none. -/
def component (parts : List String) (i : Nat) : String :=
  match parts[i]? with
  | some s => unbindUri s
  | none => ""

/-- Read a URI after its lead, up to a slash or a blank. -/
def parseUri (rest : String) : Except Error Cpe :=
  let rest := String.ofList (rest.toList.takeWhile fun c => !(c == '/' || Text.isBlank c))
  let parts := Text.splitOn ':' rest
  if 7 < parts.length then .error (.parse (.tooManyComponents rest))
  else
    let base : Cpe :=
      { part := component parts 0, vendor := component parts 1, product := component parts 2,
        version := component parts 3, update := component parts 4, language := component parts 6 }
    let edition := parts[5]?.getD ""
    match Text.after "~" edition with
    | some packed =>
        let packed := Text.splitOn '~' packed
        validated
          { base with
            edition := component packed 0, swEdition := component packed 1,
            targetSw := component packed 2, targetHw := component packed 3,
            other := component packed 4 }
    | none => validated { base with edition := unbindUri edition }

/-- Read a name in either form. -/
def parse (s : String) : Except Error Cpe :=
  let s := Text.trim s
  match Text.after "cpe:2.3:" s with
  | some rest => parseFormatted rest
  | none =>
      match Text.after "cpe:/" s with
      | some rest => parseUri rest
      | none => .error (.parse (.notACpe s))

end Fingerprinting.Cpe
