/-
# Tuning

What is known beyond a file of probes: more rules for common banners, probes that are worth sending
first or last to some ports, and the rules to fall back on.  Probes are given by name, and what is
said about a probe that a file does not have is left out.
-/

namespace Fingerprinting.Nmap.Tuning

/-! ## Rules -/

/-- Rules for replies to a request for a web page. -/
def webRules : List String := [
  "echo m|^GET / HTTP/1.0\\r\\n\\r\\n$|s",
  "mongodb m|.*It looks like you are trying to access MongoDB.*|s p/MongoDB/",
  "http m|^HTTP/1\\.[01] \\d\\d\\d (?:[^\\r\\n]+\\r\\n)*?Server: ([^\\r\\n]+)| p/$1/",
  "http m|^HTTP/1\\.[01] \\d\\d\\d|"]

/-- Rules for banners, which come without being asked for. -/
def bannerRules : List String := [
  "mysql m|.\\x00\\x00..j\\x04Host '.*' is not allowed to connect to this MariaDB " ++
    "server| p/MariaDB/",
  "mysql m|.\\x00\\x00..j\\x04Host '.*' is not allowed to connect to this MySQL " ++
    "server| p/MySQL/",
  "mysql m|.\\x00\\x00\\x00\\x0a(\\d+\\.\\d+\\.\\d+)\\x00.*caching_sha2_password\\x00| " ++
    "p/MariaDB/ v/$1/",
  "mysql m|.\\x00\\x00\\x00\\x0a([\\d.-]+)-MariaDB\\x00.*mysql_native_password\\x00| " ++
    "p/MariaDB/ v/$1/",
  "redis m|-DENIED Redis is running in.*| p/Redis/ i/Protected mode/",
  "telnet m|^.*Welcome to visit (.*) series router!.*|s p/$1 Router/",
  "telnet m|^Username: ??|",
  "telnet m|^.*Telnet service is disabled or Your telnet session has expired due to " ++
    "inactivity.*|s i/Disabled/",
  "telnet m|^.*Telnet connection from (.*) refused.*|s i/Refused/",
  "telnet m|^.*Command line is locked now, please retry later.*\\x0d\\x0a\\x0d\\x0a|s " ++
    "i/Locked/",
  "telnet m|^.*Warning: Telnet is not a secure protocol, and it is recommended to use " ++
    "Stelnet.*|s",
  "telnet m|^telnetd:|s",
  "telnet m|^.*Quopin CLI for (.*)\\x0d\\x0a\\x0d\\x0a|s p/$1/",
  "telnet m|^\\x0d\\x0aHello, this is FRRouting \\(version ([\\d.]+)\\).*|s " ++
    "p/FRRouting/ v/$1/",
  "telnet m|^.*User Access Verification.*Username:|s",
  "telnet m|^Connection failed.  Windows CE Telnet Service cannot accept anymore " ++
    "concurrent users.|s o/Windows/",
  "telnet m|^\\x0d\\x0a\\x0d\\x0aWelcome to the host.\\x0d\\x0a.*|s o/Windows/",
  "telnet m|^.*Welcome Visiting Huawei Home Gateway\\x0d\\x0aCopyright by Huawei " ++
    "Technologies Co., Ltd.*Login:|s p/Huawei/",
  "telnet m|^..\\x01..\\x03..\\x18..\\x1f|s p/Huawei/",
  "smtp m|^220 ([a-z0-1.-]+).*| h/$1/",
  "ftp m|^220 H3C Small-FTP Server Version ([\\d.]+).* | p/H3C Small-FTP/ v/$1/",
  "ftp m|^421[- ]Service not available..*|",
  "ftp m|^220[- ].*filezilla.*|i p/FileZilla/"]

/-- Rules for replies to the opening of a remote desktop. -/
def desktopRules : List String := [
  "ms-wbt-server m|^\\x03\\0\\0\\x13\\x0e\\xd0\\0\\0\\x124\\0\\x02.*\\0\\x02\\0\\0\\0| " ++
    "p/Microsoft Terminal Services/ o/Windows/ cpe:/o:microsoft:windows/a"]

/-- Rules for replies to a request for information about a cache. -/
def cacheRules : List String := [
  "redis m|^.*redis_version:([.\\d]+)\\n|s p/Redis key-value store/ v/$1/ " ++
    "cpe:/a:redislabs:redis:$1/",
  "redis m|^-NOAUTH Authentication required.|s p/Redis key-value store/"]

/-- Names of probes, each with more rules for the replies to it. -/
def rules : List (String × List String) := [
  ("TCP_GetRequest", webRules),
  ("TCP_NULL", bannerRules),
  ("TCP_TerminalServerCookie", desktopRules),
  ("TCP_redis-server", cacheRules)]

/-! ## Ports -/

/-- The ports of mail inside TLS. -/
def tlsMailPorts : List Nat := [993, 994, 995, 465]

/-- The other ports of remote desktops. -/
def desktopPorts : List Nat := [3390, 33890, 33900]

/-- The ports of proxies. -/
def proxyPorts : List Nat := [7890, 7891, 4000, 2022, 6000, 7000]

/-- The ports of the web. -/
def webPorts : List Nat := [80, 443, 8080, 8443, 8000, 8888, 9090]

/-- The ports that open with TLS. -/
def tlsPorts : List Nat := [443, 8443, 3389]

/-- The probes that open TLS. -/
def tlsProbes : List String := ["TCP_TLSSessionReq", "TCP_SSLSessionReq", "TCP_SSLv23SessionReq"]

/-- The probes that are sent once TLS has been found. -/
def insideProbes : List String := ["TCP_TerminalServerCookie", "TCP_TerminalServer"]

/-- The probe that asks for a web page. -/
def webProbe : String := "TCP_GetRequest"

/-- The probe that sends line ends only. -/
def lineProbe : String := "TCP_GenericLines"

/-- Ports, each group with the probes to send before all others that are meant for it. -/
def first : List (List Nat × List String) := [
  (tlsPorts, tlsProbes),
  (webPorts, [webProbe]),
  (tlsMailPorts, [lineProbe])]

/-- Ports, each group with the probes to send after all others that are meant for it. -/
def last : List (List Nat × List String) := [
  (desktopPorts, ["TCP_TerminalServer", "TCP_TerminalServerCookie"]),
  (proxyPorts, ["TCP_Socks5"])]

/-! ## Fallbacks -/

/-- Probes, each with the probe whose rules to fall back on. -/
def fallbacks : List (String × String) := [
  (lineProbe, "TCP_NULL"),
  (webProbe, "TCP_NULL"),
  ("TCP_TerminalServerCookie", webProbe),
  ("TCP_TerminalServer", webProbe)]

end Fingerprinting.Nmap.Tuning
