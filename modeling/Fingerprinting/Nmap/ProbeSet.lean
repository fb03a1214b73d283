/-
# Sets of probes

Probes are read from two kinds of files.  A text of directives has one directive a line: `Probe`
begins a probe, and the directives after it say more about it.  A corpus of records in JSON holds
the same, with a table of services.
-/
import Fingerprinting.Corpus
import Fingerprinting.Dictionary
import Fingerprinting.Nmap.Probe

namespace Fingerprinting.Nmap

/-- Probes, the ports that are not to be probed, and names of services by port. -/
structure ProbeSet where
  probes : List Probe := []
  excluded : PortList := {}
  services : Dictionary String := .empty

/-! ## Directives -/

/-- What follows `Probe`: a protocol, a name and a payload between bars. -/
def probeParts? (args : String) : Option (String × String × String) := do
  let (protocol, rest) ← Text.cut ' ' args
  guard (protocol == "UDP" || protocol == "TCP")
  let (name, rest) ← Text.cut ' ' rest
  guard (name != "" && name.toList.all MatchRule.isNameChar)
  match rest.toList with
  | 'q' :: '|' :: rest => do
      let (payload, rest) ← Text.cutWhere (· == '|') rest
      guard (rest.head?.all Text.isBlank)
      some (protocol, name, String.ofList payload)
  | _ => none

/-- Begin a probe. -/
def probeOf (args : String) : Except RuleError Probe :=
  match probeParts? args with
  | some (protocol, name, payload) => do
      .ok (.new (← Protocol.parse protocol) name (← unescapePayload payload))
  | none => .error (.probeDirective args)

/-- A whole number of at most `bound`. -/
def numberOf (bound : Nat) (args : String) : Except RuleError Nat :=
  match Text.decimal? bound (Text.trim args) with
  | some n => .ok n
  | none => .error (.numberExpected args)

/-- The name of a fallback, which is the first of a list. -/
def fallbackOf (args : String) : Except RuleError String :=
  let first := Text.trim ((Text.splitOn ',' args).headD "")
  if first != "" && first.toList.all MatchRule.isNameChar then .ok first
  else .error (.fallbackDirective args)

/-- A probe after one more directive.  Directives of other kinds say nothing. -/
def Probe.after (p : Probe) (command args : String) : Except RuleError Probe :=
  match command with
  | "match" => do .ok { p with rules := p.rules ++ (← MatchRule.parse args false).toList }
  | "softmatch" => do .ok { p with rules := p.rules ++ (← MatchRule.parse args true).toList }
  | "ports" => do .ok { p with ports := ← PortList.parse args }
  | "sslports" => do .ok { p with sslPorts := ← PortList.parse args }
  | "rarity" => do .ok { p with rarity := ← numberOf Text.max8 args }
  | "totalwaitms" => do
      let _ ← numberOf Text.max64 args
      .ok p
  | "tcpwrappedms" => do
      let _ ← numberOf Text.max64 args
      .ok p
  | "fallback" => do .ok { p with fallback := ← fallbackOf args }
  | _ => .ok p

/-! ## Files of directives -/

/-- What has been read so far: the set, and the probe that is being described. -/
structure ProbeSet.Reading where
  set : ProbeSet := {}
  current : Option Probe := none

namespace ProbeSet

/-- The set with the probe that is being described. -/
def Reading.finish (r : Reading) : ProbeSet :=
  { r.set with probes := r.set.probes ++ r.current.toList }

/-- Whether a line has no directive: it is a comment, or too short for one. -/
def isIdle (line : String) : Bool := line.utf8ByteSize < 2 || line.toList.head? == some '#'

/-- Read one directive. -/
def Reading.next (r : Reading) (line : String) : Except RuleError Reading :=
  let (command, args) := (Text.cut ' ' line).getD (line, "")
  if command = "Exclude" then do
    .ok { r with set := { r.set with excluded := ← PortList.parse args } }
  else if command = "Probe" then do
    .ok ⟨r.finish, ← probeOf args⟩
  else
    match r.current with
    | none => .error (.beforeProbe command)
    | some p => do .ok { r with current := ← p.after command args }

/-- Read the lines of a file from the one with some number on. -/
def Reading.lines (r : Reading) : Nat → List String → Except RuleError Reading
  | _, [] => .ok r
  | number, line :: rest =>
      let line := Text.trimEnd line
      if isIdle line then r.lines (number + 1) rest
      else
        match r.next line with
        | .ok r => r.lines (number + 1) rest
        | .error e => .error (.inside ("line " ++ Text.decimal number) e)

/-- Read a file of directives. -/
def parse (s : String) : Except RuleError ProbeSet := do
  .ok (← Reading.lines {} 1 (Text.lines s)).finish

/-! ## Corpora of records -/

/-- A probe as a corpus of records holds it, and its rules, which have yet to be compiled. -/
def recordOf? (d : Document) : Option (Probe × List MatchRecord) := do
  match ← d.slots? [["name"], ["protocol"], ["rarity"], ["ports"], ["ssl_ports"], ["matches"],
    ["fallback"], ["probe_string"]] with
  | [name, protocol, rarity, ports, sslPorts, rules, fallback, payload] =>
      let portsOf := Document.orElse? [] (Document.listOf? (Document.natural? Text.max16))
      let fallback ← Document.text? fallback
      some (
        { name := ← Document.required? Document.string? name
          protocol := ← Document.orElse? .tcp (Document.oneOf? Protocol.spellings) protocol
          rarity := ← Document.count? Text.max8 rarity
          ports := .ofList (← portsOf ports)
          sslPorts := .ofList (← portsOf sslPorts)
          fallback := if fallback = "" then none else some fallback
          payload := Utf8.encode (← Document.text? payload) },
        ← Document.orElse? [] (Document.listOf? MatchRecord.ofDocument?) rules)
  | _ => none

/-- The records of a corpus and its table of services. -/
def recordsOf? (d : Document) :
    Option (List (Probe × List MatchRecord) × Dictionary String) := do
  match ← d.slots? [["probes"], ["services"]] with
  | [probes, services] =>
      some (← Document.orElse? [] (Document.listOf? recordOf?) probes,
        .ofList (← Document.orElse? [] (Document.mapOf? Document.string?) services))
  | _ => none

/-- Compile the rules of a record. -/
def compileRecord (r : Probe × List MatchRecord) : Except RuleError Probe := do
  let rules ← r.2.mapM MatchRecord.compile
  .ok { r.1 with rules := rules.filterMap id }

/-- Read a corpus of records. -/
def load (data : Bytes) : Except Error ProbeSet := do
  let (records, services) ← Corpus.ofJson recordsOf? (← Corpus.unpack data)
  match records.mapM compileRecord with
  | .ok probes => .ok { probes, services }
  | .error e => .error (.rule e)

end ProbeSet

end Fingerprinting.Nmap
