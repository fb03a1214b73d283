/-
# Collections of corpora

The corpora that engines are built from.  A folder of corpora has each in a file of its own, which
may be packed; `Corpora.ofFolder` takes the files that there are.
-/
import Fingerprinting.Dictionary
import Fingerprinting.Error
import Fingerprinting.Text.Utf8

namespace Fingerprinting

/-- The kinds of corpora. -/
inductive CorpusKind where
  | aliases
  | fingersHttp
  | fingersSocket
  | fingerprintHub
  | eHole
  | goby
  | wappalyzer
  | probeRecords
  | probes
  | services
deriving DecidableEq, Repr

/-- All kinds of corpora. -/
def CorpusKind.all : List CorpusKind :=
  [.aliases, .fingersHttp, .fingersSocket, .fingerprintHub, .eHole, .goby, .wappalyzer,
    .probeRecords, .probes, .services]

/-- The file of each kind of corpus. -/
def CorpusKind.file : CorpusKind → String
  | .aliases => "aliases.yaml"
  | .fingersHttp => "fingers_http.json"
  | .fingersSocket => "fingers_socket.json"
  | .fingerprintHub => "fingerprinthub_v3.json"
  | .eHole => "ehole.json"
  | .goby => "goby.json"
  | .wappalyzer => "wappalyzer.json"
  | .probeRecords => "nmap-service-probes.json"
  | .probes => "nmap-service-probes"
  | .services => "nmap-services.json"

/-- Corpora as they are written, each of which may be absent. -/
structure Corpora where
  aliases : Option Bytes := none
  fingersHttp : Option Bytes := none
  fingersSocket : Option Bytes := none
  fingerprintHub : Option Bytes := none
  eHole : Option Bytes := none
  goby : Option Bytes := none
  wappalyzer : Option Bytes := none
  probeRecords : Option Bytes := none
  probes : Option String := none
  services : Option Bytes := none
deriving DecidableEq, Repr, Inhabited

namespace Corpora

/-- The number of corpora. -/
def count (c : Corpora) : Nat :=
  ([c.aliases, c.fingersHttp, c.fingersSocket, c.fingerprintHub, c.eHole, c.goby, c.wappalyzer,
    c.probeRecords, c.services].filterMap id).length + c.probes.toList.length

/-! ## Folders -/

/-- Files by name. -/
abbrev Folder := Dictionary Bytes

/-- The names under which a file is looked for: its own, and the one that it has when packed. -/
def fileNames (kind : CorpusKind) : List String := [kind.file, kind.file ++ ".gz"]

/-- The bytes of a corpus in a folder. -/
def bytes? (folder : Folder) (kind : CorpusKind) : Option Bytes :=
  (fileNames kind).findSome? folder.get?

/-- The text of a corpus in a folder. -/
def text? (folder : Folder) (kind : CorpusKind) : Except Error (Option String) :=
  match bytes? folder kind with
  | none => .ok none
  | some b =>
      match Utf8.decode? b with
      | some s => .ok (some s)
      | none => .error (.corpus (.textFile kind.file))

/-- The corpora in a folder. -/
def ofFolder (folder : Folder) : Except Error Corpora := do
  let probes ← text? folder .probes
  .ok
    { aliases := bytes? folder .aliases
      fingersHttp := bytes? folder .fingersHttp
      fingersSocket := bytes? folder .fingersSocket
      fingerprintHub := bytes? folder .fingerprintHub
      eHole := bytes? folder .eHole
      goby := bytes? folder .goby
      wappalyzer := bytes? folder .wappalyzer
      probeRecords := bytes? folder .probeRecords
      probes
      services := bytes? folder .services }

end Corpora

end Fingerprinting
