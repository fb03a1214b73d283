/-
# Names of services

The same service is spelled in several ways.  `serviceName` gives the one spelling that is reported,
and `tableName` the one that a table of ports keeps.
-/
import Fingerprinting.Text.Blank
import Fingerprinting.Text.Case

namespace Fingerprinting.Nmap

/-- Spellings of services, and what they are reported as. -/
def reportedNames : List (String × String) := [
  ("ssl/http", "https"),
  ("http-proxy", "http"),
  ("ms-wbt-server", "rdp"),
  ("microsoft-ds", "smb"),
  ("netbios-ssn", "netbios"),
  ("oracle-tns", "oracle"),
  ("msrpc", "rpc"),
  ("ms-sql-s", "mssql"),
  ("domain", "dns"),
  ("svnserve", "svn"),
  ("ibm-db2", "db2"),
  ("socks-proxy", "socks5")]

/-- Text with hyphens for underscores. -/
def hyphenate (cs : List Char) : List Char := cs.map fun c => if c = '_' then '-' else c

/-- The reported spelling of a service without underscores.  Services inside SSL are named after
what is inside, and a name does not begin with a digit. -/
def serviceChars (cs : List Char) : List Char :=
  match reportedNames.lookup (String.ofList cs) with
  | some name => name.toList
  | none =>
      match cs with
      | 's' :: 's' :: 'l' :: '/' :: c :: rest => serviceChars (c :: rest) ++ "-ssl".toList
      | c :: rest => if '0' ≤ c ∧ c ≤ '9' then 'S' :: c :: rest else c :: rest
      | [] => []
termination_by cs.length

/-- The reported spelling of a service. -/
def serviceName (name : String) : String := String.ofList (serviceChars (hyphenate name.toList))

/-- The spelling that a table of ports keeps. -/
def tableName (name : String) : String :=
  let name := Text.lower name
  if name = "" then "unknown"
  else if ["www", "www-http"].contains name then "http"
  else if ["https", "http-ssl"].contains name then "https"
  else if ["domain", "nameserver"].contains name then "dns"
  else String.ofList (hyphenate name.toList)

end Fingerprinting.Nmap
