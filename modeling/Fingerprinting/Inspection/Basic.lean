/-
# Inspection

Complete JSON views of values, for tools that look into a library at work.  Unlike the JSON in which
results are reported, a view leaves nothing out.
-/
import Fingerprinting.Favicon
import Fingerprinting.Finger.Store

namespace Fingerprinting

/-! ## Bytes and names -/

/-- Bytes as a text when they are one, else in hexadecimal. -/
def Bytes.view (b : Bytes) : Json :=
  match Utf8.decode? b with
  | some s => .string s
  | none => .object [("hex", .string (String.ofList (b.flatMap Text.hexByte)))]

/-- The attributes that have a value. -/
def Cpe.view (a : Cpe) : Json := .sorted a.fields

/-- The attributes and their three written forms. -/
def Cpe.fullView (a : Cpe) : Json :=
  .sorted [("attrs", a.view), ("uri", .string a.uri), ("fmt", .string a.formatted),
    ("wfn", .string a.wfn)]

/-! ## Responses -/

/-- Headers as pairs. -/
def headersView (headers : List (String × String)) : Json :=
  .array (headers.map fun (name, value) => .strings [name, value])

/-- A parsed response, with the headers of some names. -/
def HttpResponse.view (r : HttpResponse) (names : List String) : Json :=
  .sorted [
    ("proto", .string r.proto),
    ("status", .nat r.status),
    ("reason", .string r.reason),
    ("headers", headersView r.headers),
    ("body", r.body.view),
    ("raw", r.write.view),
    ("lookup", .array (names.map fun n => .orNull Json.string (r.header? n)))]

/-- All that can be seen of a captured response, with the headers of some names. -/
def Content.view (c : Content) (names : List String) : Json :=
  let part : Option Bytes → Json := .orNull Bytes.view
  .sorted [
    ("raw", c.raw.view),
    ("raw_lower", c.lower.view),
    ("header", part c.header?),
    ("header_lower", part c.headerLower?),
    ("body", part c.body?),
    ("body_lower", part c.bodyLower?),
    ("body_or_raw", c.bodyOrRaw.view),
    ("body_or_raw_lower", c.bodyOrRawLower.view),
    ("headers", headersView c.headers),
    ("status", .orNull .nat c.status),
    ("cert", .orNull .string c.cert),
    ("empty", .bool c.isEmpty),
    ("lookup", .array (names.map fun n =>
      .array [.orNull .string (c.headerValue? n), .strings (c.headerValues n)]))]

/-! ## Frames and vulnerabilities -/

/-- A frame with its attributes and written forms. -/
def Frame.view (f : Frame) : Json :=
  .sorted [
    ("name", .string f.name),
    ("vendor", .string f.vendor),
    ("product", .string f.product),
    ("version", .string f.version),
    ("attrs", f.cpe.view),
    ("tags", .strings f.tags),
    ("from", .string f.origin.name),
    ("froms", .strings f.froms.names),
    ("focus", .bool f.focus),
    ("detail", .orNull MatchDetail.json f.detail),
    ("show", .string f.line),
    ("cpe", .string f.cpe.formatted)]

/-- A frame after an edit that answers something, with its written forms and its JSON. -/
def Frame.editedView (f : Frame) (answer : Json) : Json :=
  .sorted [("r", answer), ("frame", f.view), ("uri", .string f.cpe.uri),
    ("wfn", .string f.cpe.wfn), ("guess", .bool f.isGuess), ("json", f.json)]

/-- A list of frames. -/
def Frames.view (s : Frames) : Json := .array (s.toList.map Frame.view)

/-- A list of frames with all that is said of it as a whole. -/
def Frames.fullView (s : Frames) : Json :=
  let texts (write : Frame → String) : Json := .strings (s.toList.map write)
  .sorted [
    ("len", .nat s.size),
    ("empty", .bool s.isEmpty),
    ("one", .orNull (fun f => .string f.name) s.first?),
    ("names", .strings s.names),
    ("focus", .bool s.focus),
    ("cpes", texts fun f => f.cpe.formatted),
    ("uris", texts fun f => f.cpe.uri),
    ("wfns", texts fun f => f.cpe.wfn),
    ("show", .string s.line),
    ("no_guess", .string (s.lineWith true)),
    ("frames", s.view),
    ("json", s.json),
    ("moved", texts Frame.name)]

/-- A vulnerability with the line of its frame. -/
def Vuln.view (v : Vuln) : Json :=
  .sorted [
    ("name", .string v.name),
    ("severity", .string v.severity.name),
    ("tags", .strings v.tags),
    ("payload", .object v.payload),
    ("detail", .object (v.detail.map fun (k, values) => (k, .strings values))),
    ("framework", .orNull (fun f => .string f.line) v.frame),
    ("show", .string v.line)]

/-- A list of vulnerabilities. -/
def Vulns.view (s : Vulns) : Json := .array (s.toList.map Vuln.view)

/-- A list of vulnerabilities with all that is said of it as a whole. -/
def Vulns.fullView (s : Vulns) : Json :=
  .sorted [("len", .nat s.size), ("empty", .bool s.isEmpty), ("one", .orNull Vuln.view s.first?),
    ("all", s.view), ("json", s.json)]

/-- A hit. -/
def Hit.view (h : Hit) : Json :=
  .sorted [("frame", h.frame.view), ("vuln", .orNull Vuln.view h.vuln)]

/-- What was found at a port of a host. -/
def ServiceResult.view (r : ServiceResult) : Json :=
  .sorted [("host", .string r.host), ("port", .string r.port),
    ("frame", .orNull Frame.view r.frame), ("vuln", .orNull Vuln.view r.vuln)]

/-- What an engine can do. -/
def Capability.view (c : Capability) : Json :=
  .sorted [("web", .bool c.web), ("service", .bool c.service)]

/-! ## Icons and fingers -/

/-- An index of icons. -/
def Favicons.view (s : Favicons) : Json :=
  let names (d : Dictionary String) : Json := .object (d.entries.map fun (k, v) => (k, .string v))
  .sorted [("len", .nat s.size), ("empty", .bool s.isEmpty), ("md5", names s.md5),
    ("mmh3", names s.mmh3)]

/-- The outcome of a match. -/
def RuleMatch.view (m : RuleMatch) : Json :=
  .sorted [("is_vuln", .bool m.isVuln), ("version", .string m.version),
    ("detail", .orNull MatchDetail.json m.detail)]

/-- A compiled rule. -/
def CompiledRule.view (r : CompiledRule) : Json :=
  .sorted [
    ("version", .string r.version),
    ("level", .whole r.level),
    ("active", .bool r.isActive),
    ("send_data", .orNull Bytes.view r.payload),
    ("info", .string r.rule.info),
    ("vuln", .string r.rule.vuln),
    ("certs", .strings r.certs),
    ("version_regexps", .nat r.versionRegexes.length),
    ("patterns", .strings (r.tests.map RuleTest.kind))]

/-- A compiled finger. -/
def CompiledFinger.view (f : CompiledFinger) : Json :=
  .sorted [
    ("name", .string f.finger.name),
    ("protocol", .string f.protocol),
    ("link", .string f.finger.link),
    ("ports", .strings f.ports),
    ("focus", .bool f.finger.focus),
    ("tags", .strings f.finger.tags),
    ("opsec", .bool f.finger.opsec),
    ("attrs", f.finger.cpe.view),
    ("active", .bool f.isActive),
    ("http", .bool f.isHttp),
    ("rules", .array (f.rules.map CompiledRule.view))]

/-- A collection of fingers. -/
def Fingers.view (s : Fingers) : Json :=
  .sorted [
    ("len", .nat s.size),
    ("empty", .bool (s.size == 0)),
    ("http", .array (s.http.map CompiledFinger.view)),
    ("socket", .array (s.socket.map CompiledFinger.view)),
    ("favicons", s.favicons.view),
    ("opsec", .bool s.options.opsec),
    ("match_detail", .bool s.options.matchDetail),
    ("capability", Fingers.capability.view)]

end Fingerprinting
