/-
# Contents

A content is a captured response prepared for matching: its bytes, their ASCII lower case, the cut
between header and body, the parsed headers, and the certificate of the connection if there was one.
Contents that are no HTTP are kept whole.
-/
import Fingerprinting.Response.Http

namespace Fingerprinting

/-- A response prepared for matching. -/
structure Content where
  raw : Bytes := []
  /-- The length of the header, when there is a blank line after it. -/
  split : Option Nat := none
  /-- Headers with names in lower case. -/
  headers : List (String × String) := []
  status : Option Nat := none
  cert : Option String := none
deriving DecidableEq, Repr, Inhabited

namespace Content

/-- Prepare an HTTP response; headers are parsed as far as possible. -/
def ofHttp (raw : Bytes) : Content :=
  let split := (splitContent raw).map fun p => p.1.length
  match HttpResponse.parse raw with
  | .ok r =>
      { raw, split
        headers := r.headers.map fun h => (Text.lower h.1, h.2)
        status := some r.status }
  | .error _ => { raw, split }

/-- Prepare bytes that are no HTTP response. -/
def ofRaw (raw : Bytes) : Content := { raw }

/-- The content with a certificate; an empty one counts as none. -/
def withCert (c : Content) (cert : String) : Content :=
  { c with cert := if cert = "" then none else some cert }

/-- The bytes in ASCII lower case. -/
def lower (c : Content) : Bytes := Text.asciiLowerBytes c.raw

/-- The header. -/
def header? (c : Content) : Option Bytes := c.split.map fun i => c.raw.take i

/-- The header in ASCII lower case. -/
def headerLower? (c : Content) : Option Bytes := c.split.map fun i => c.lower.take i

/-- The body. -/
def body? (c : Content) : Option Bytes := c.split.map fun i => c.raw.drop (i + blankLine.length)

/-- The body in ASCII lower case. -/
def bodyLower? (c : Content) : Option Bytes :=
  c.split.map fun i => c.lower.drop (i + blankLine.length)

/-- The body, or everything when there is no blank line. -/
def bodyOrRaw (c : Content) : Bytes := c.body?.getD c.raw

/-- The body, or everything, in ASCII lower case. -/
def bodyOrRawLower (c : Content) : Bytes := c.bodyLower?.getD c.lower

/-- The value of the first header with some name. -/
def headerValue? (c : Content) (name : String) : Option String :=
  let name := Text.lower name
  (c.headers.find? fun h => h.1 == name).map Prod.snd

/-- The values of the headers with some name in any ASCII case. -/
def headerValues (c : Content) (name : String) : List String :=
  (c.headers.filter fun h => Text.sameIgnoringAsciiCase h.1 name).map Prod.snd

/-- Whether there are no bytes. -/
def isEmpty (c : Content) : Bool := c.raw.isEmpty

end Content

end Fingerprinting
