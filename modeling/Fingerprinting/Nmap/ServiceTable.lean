/-
# Tables of services

Which service a port usually has.  There is a table of well-known ports, and tables are read from
corpora.
-/
import Fingerprinting.Corpus
import Fingerprinting.Dictionary
import Fingerprinting.Nmap.Name

namespace Fingerprinting.Nmap

/-! ## Tables -/

/-- The services of TCP and of UDP ports; a port stands in each at most once. -/
structure ServiceTable where
  tcp : List (Nat × String) := []
  udp : List (Nat × String) := []
deriving DecidableEq, Repr, Inhabited

namespace ServiceTable

/-- Give a port a name, in the place of the one it has. -/
def put (port : Nat) (name : String) : List (Nat × String) → List (Nat × String)
  | [] => [(port, name)]
  | (p, n) :: rest => if p = port then (port, name) :: rest else (p, n) :: put port name rest

/-- Give a port a service. -/
def insert (t : ServiceTable) (port : Nat) (name : String) (udp : Bool) : ServiceTable :=
  if udp then { t with udp := put port (tableName name) t.udp }
  else { t with tcp := put port (tableName name) t.tcp }

/-- The number of ports. -/
def size (t : ServiceTable) : Nat := t.tcp.length + t.udp.length

/-- Add TCP ports written as text, those that the table has excepted. -/
def extend (t : ServiceTable) (services : Dictionary String) : ServiceTable :=
  services.entries.foldl
    (fun t (port, name) =>
      match Text.decimal? Text.max16 (Text.trim port) with
      | some port => if (t.tcp.lookup port).isSome then t else t.insert port name false
      | none => t) t

/-- The service that a port usually has.  A UDP port that is not known may have the service of the
TCP port. -/
def guess? (t : ServiceTable) (port : Nat) (udp : Bool) : Option String :=
  let name := if udp then (t.udp.lookup port).or (t.tcp.lookup port) else t.tcp.lookup port
  name.filter (· != "unknown")

/-! ## Well-known ports -/

/-- Well-known TCP ports by kind of service. -/
def wellKnown : List (Nat × String) := [
  -- files
  (20, "ftp-data"), (21, "ftp"), (69, "tftp"), (873, "rsync"), (989, "ftps-data"), (990, "ftps"),
  (2049, "nfs"),
  -- remote access
  (22, "ssh"), (23, "telnet"), (512, "exec"), (513, "login"), (3389, "ms-wbt-server"),
  (5900, "vnc"), (5901, "vnc-1"), (5902, "vnc-2"), (5985, "wsman"), (5986, "wsmans"),
  -- mail
  (25, "smtp"), (109, "pop2"), (110, "pop3"), (143, "imap"), (465, "smtps"), (587, "submission"),
  (993, "imaps"), (995, "pop3s"),
  -- names and directories
  (53, "domain"), (88, "kerberos-sec"), (389, "ldap"), (636, "ldapssl"), (3268, "globalcatLDAP"),
  -- web
  (80, "http"), (443, "https"), (591, "http-alt"), (3000, "ppp"), (8000, "http-alt"),
  (8008, "http"), (8080, "http-proxy"), (8081, "blackice-icecap"), (8443, "https-alt"),
  (8888, "sun-answerbook"), (9443, "tungsten-https"),
  -- remote procedure calls
  (111, "rpcbind"), (135, "msrpc"), (137, "netbios-ns"), (139, "netbios-ssn"),
  (445, "microsoft-ds"),
  -- management
  (161, "snmp"), (162, "snmptrap"), (623, "oob-ws-http"), (2375, "docker"), (2376, "docker-s"),
  (6443, "sun-sr-https"), (10250, "kubelet"),
  -- databases and caches
  (1433, "ms-sql-s"), (1521, "oracle-tns"), (3306, "mysql"), (5432, "postgresql"),
  (5984, "couchdb"), (6379, "redis"), (7474, "neo4j"), (9042, "cassandra"),
  (9200, "elasticsearch"), (11211, "memcache"), (27017, "mongod"), (50000, "ibm-db2"),
  -- messages
  (1883, "mqtt"), (5672, "amqp"), (6667, "irc"), (9092, "kafka"), (15672, "rabbitmq"),
  -- proxies and tunnels
  (1080, "socks"), (1194, "openvpn"), (1723, "pptp"), (3128, "squid-http"),
  -- others
  (79, "finger"), (119, "nntp"), (123, "ntp"), (179, "bgp"), (514, "shell"), (548, "afp"),
  (631, "ipp"), (3690, "svnserve"), (5060, "sip"), (9418, "git")]

/-- The table of well-known ports. -/
def builtin : ServiceTable :=
  wellKnown.foldl (fun t (port, name) => t.insert port name false) {}

/-! ## Reading -/

/-- An entry of a written table. -/
structure Entry where
  name : String
  port : Nat
  protocol : String
  probability : Float

/-- Read an entry. -/
def Entry.ofDocument? (d : Document) : Option Entry := do
  match ← d.slots? [["name"], ["port"], ["protocol"], ["probability"]] with
  | [name, port, protocol, probability] =>
      some
        { name := ← Document.required? Document.string? name
          port := ← Document.required? (Document.natural? Text.max32) port
          protocol := ← Document.text? protocol
          probability := ← Document.orElse? 0 Document.double? probability }
  | _ => none

/-- Read the entries of a table. -/
def entriesOf? (d : Document) : Option (List Entry) := do
  match ← d.slots? [["services"]] with
  | [services] => Document.orElse? [] (Document.listOf? Entry.ofDocument?) services
  | _ => none

/-- The least double. -/
def leastDouble : Float := Float.ofBits 0xFFEFFFFFFFFFFFFF

/-- Names of ports with the probability of each. -/
abbrev Candidates := List ((Nat × Bool) × (Float × String))

/-- Consider an entry for its port: the most probable one counts, and the first of several. -/
def consider (e : Entry) : Candidates → Candidates
  | [] =>
      let best := if leastDouble < e.probability then (e.probability, e.name) else (leastDouble, "")
      [((e.port, isUdp e), best)]
  | (key, best) :: rest =>
      if key = (e.port, isUdp e) then
        (key, if best.1 < e.probability then (e.probability, e.name) else best) :: rest
      else (key, best) :: consider e rest
where
  /-- Whether an entry is for a UDP port. -/
  isUdp (e : Entry) : Bool := Text.sameIgnoringAsciiCase e.protocol "udp"

/-- The table of some entries; there are no ports beyond 65535. -/
def ofEntries (entries : List Entry) : ServiceTable :=
  let entries := entries.filter fun e => e.port ≤ Text.max16
  let best := entries.foldl (fun best e => consider e best) []
  best.foldl (fun t ((port, udp), (_, name)) => t.insert port name udp) {}

/-- Read a table from a corpus. -/
def load (data : Bytes) : Except Error ServiceTable := do
  let entries ← Corpus.ofJson entriesOf? (← Corpus.unpack data)
  .ok (ofEntries entries)

end ServiceTable

end Fingerprinting.Nmap
