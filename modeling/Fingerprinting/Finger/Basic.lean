/-
# Fingers

A finger describes one product by rules, together with the attributes of the product.  It belongs to
HTTP responses, or to a TCP or UDP service at some ports.
-/
import Fingerprinting.Cpe.Basic
import Fingerprinting.Rule.Compiled
import Fingerprinting.Service.Result

namespace Fingerprinting

/-! ## Records -/

/-- A finger as it is written. -/
structure Finger where
  name : String
  protocol : String := ""
  link : String := ""
  ports : List String := []
  focus : Bool := false
  rules : List Rule := []
  tags : List String := []
  opsec : Bool := false
  cpe : Cpe := {}
deriving DecidableEq, Repr, Inhabited

namespace Finger

/-- Read a finger.  The attributes of the product stand among its own fields. -/
def ofDocument? (d : Document) : Option Finger := do
  match ← d.sharedSlots? ["name", "protocol", "link", "default_port", "focus", "rule", "tag",
    "opsec"] with
  | ([name, protocol, link, ports, focus, rules, tags, opsec], others) =>
      some
        { name := ← Document.required? Document.string? name
          protocol := ← Document.text? protocol
          link := ← Document.text? link
          ports := ← Document.strings? ports
          focus := ← Document.flag? focus
          rules := ← Document.orElse? [] (Document.listOf? Rule.ofDocument?) rules
          tags := ← Document.strings? tags
          opsec := ← Document.flag? opsec
          cpe := ← Cpe.ofEntries? others }
  | _ => none

/-- A finger as a JSON object. -/
def json (f : Finger) : Json :=
  .object ([("name", Json.string f.name), ("protocol", .string f.protocol)] ++
    Json.textField "link" f.link ++ Json.stringsField "default_port" f.ports ++
    [("focus", .bool f.focus), ("rule", .array (f.rules.map Rule.json))] ++
    Json.stringsField "tag" f.tags ++ [("opsec", .bool f.opsec)] ++ f.cpe.fields)

end Finger

/-! ## Compiling -/

/-- A compiled finger. -/
structure CompiledFinger where
  finger : Finger
  protocol : String
  ports : List String
  rules : List CompiledRule

namespace Finger

/-- The protocol of fingers that name none. -/
def httpProtocol : String := "http"

/-- Compile a finger.  Fingers for HTTP belong to port 80 unless they say otherwise. -/
def compile (f : Finger) (caseSensitive : Bool) : Except RuleError CompiledFinger := do
  let protocol := if f.protocol = "" then httpProtocol else f.protocol
  let ports := if f.ports.isEmpty && protocol == httpProtocol then ["80"] else f.ports
  let rules ← f.rules.mapM (Rule.compile f.name caseSensitive)
  .ok { finger := f, protocol, ports, rules }

end Finger

namespace CompiledFinger

/-- Whether the finger is for HTTP responses. -/
def isHttp (f : CompiledFinger) : Bool := f.protocol == Finger.httpProtocol

/-- Whether some rule sends something. -/
def isActive (f : CompiledFinger) : Bool := f.rules.any CompiledRule.isActive

end CompiledFinger

end Fingerprinting
