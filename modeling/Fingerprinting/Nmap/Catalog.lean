/-
# Catalogs of probes

A catalog is what a set of probes has been built into: tables that select the probes worth sending
to a port and that follow their fallbacks.  It carries with it that every place in its tables is
that of a probe, so whoever has a catalog need not look.
-/
import Fingerprinting.Nmap.Bundled
import Fingerprinting.Proofs.Nmap.Tables

namespace Fingerprinting.Nmap

/-- Tables in which names lead to the probes that have them and every place is that of a probe. -/
structure Catalog extends Tables where
  sound : toTables.IsSound

namespace Catalog

/-- The catalog of a set of probes. -/
def new (set : ProbeSet) (services : ServiceTable) : Catalog :=
  ⟨.build set services, Tables.isSound_build set services⟩

/-- The catalog of a file of directives. -/
def parse (s : String) (services : ServiceTable) : Except Error Catalog :=
  match ProbeSet.parse s with
  | .ok set => .ok (new set services)
  | .error e => .error (.rule e)

/-- The catalog of a corpus of records. -/
def load (data : Bytes) (services : ServiceTable) : Except Error Catalog := do
  .ok (new (← ProbeSet.load data) services)

/-- The catalog of the bundled probes. -/
def bundled (services : ServiceTable) : Except Error Catalog := parse bundledProbes services

end Catalog

end Fingerprinting.Nmap
