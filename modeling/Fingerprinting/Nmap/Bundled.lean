/-
# The bundled probes

A small set of probes for common services, in the form of a file of directives.
-/
import Fingerprinting.Nmap.ProbeSet

namespace Fingerprinting.Nmap

/-- The directives of the bundled probes. -/
def bundledDirectives : List String := [
  "Exclude T:9100-9107",
  "Probe TCP NULL q||",
  "totalwaitms 6000",
  "tcpwrappedms 3000",
  "match ssh m|^SSH-([\\d.]+)-OpenSSH_([\\w._-]+)[ -]\x7b1,2\x7dUbuntu[ " ++
    "-_]([^\\r\\n]+)\\r?\\n| p/OpenSSH/ v/$2 Ubuntu $3/ i/Ubuntu Linux; protocol $1/ " ++
    "o/Linux/ cpe:/a:openbsd:openssh:$2/ cpe:/o:canonical:ubuntu_linux/ " ++
    "cpe:/o:linux:linux_kernel/a",
  "match ssh m|^SSH-([\\d.]+)-OpenSSH_([\\w._-]+)\\r?\\n| p/OpenSSH/ v/$2/ i/protocol $1/ " ++
    "cpe:/a:openbsd:openssh:$2/",
  "match ssh m|^SSH-([\\d.]+)-dropbear_([-\\w.]+)\\r?\\n| p/Dropbear sshd/ v/$2/ " ++
    "i/protocol $1/ cpe:/a:matt_johnston:dropbear_ssh_server:$2/",
  "match ftp m|^220 ProFTPD (\\d\\S+) Server| p/ProFTPD/ v/$1/ cpe:/a:proftpd:proftpd:$1/",
  "match ftp m|^220 \\(vsFTPd (\\d[^)]+)\\)\\r\\n| p/vsftpd/ v/$1/ cpe:/a:beasts:vsftpd:$1/",
  "match ftp m|^220-FileZilla Server version (\\d[-.\\w ]+)\\r\\n| p/FileZilla ftpd/ v/$1/ " ++
    "o/Windows/ cpe:/a:filezilla-project:filezilla_server:$1/ cpe:/o:microsoft:windows/a",
  "match mysql m|^.\\0\\0\\0\\n(5\\.[-_~.+\\w]+)\\0|s p/MySQL/ v/$1/ cpe:/a:mysql:mysql:$1/",
  "match mysql m|^.\\0\\0\\0\\n(8\\.[-_~.+\\w]+)\\0|s p/MySQL/ v/$1/ cpe:/a:mysql:mysql:$1/",
  "match mysql m|^.\\0\\0\\0\\xffj\\x04Host '[^']+' is not allowed to connect to this " ++
    "MySQL server$| p/MySQL/ i/unauthorized/ cpe:/a:mysql:mysql/",
  "match vnc m|^RFB 00(\\d)\\.00(\\d)\\n$| p/VNC/ i/protocol $1.$2/",
  "match smtp m|^220 ([-\\w.]+) ESMTP Postfix| p/Postfix smtpd/ h/$1/ " ++
    "cpe:/a:postfix:postfix/a",
  "match pop3 m|^\\+OK Dovecot ready\\.\\r\\n| p/Dovecot pop3d/ cpe:/a:dovecot:dovecot/",
  "match imap m|^\\* OK \\[CAPABILITY IMAP4rev1[^\\]]*\\] Dovecot ready\\.\\r\\n| " ++
    "p/Dovecot imapd/ cpe:/a:dovecot:dovecot/",
  "match mongodb m|^.*version.....([.\\d]+)|s p/MongoDB/ v/$1/ cpe:/a:mongodb:mongodb:$1/",
  "softmatch ssh m|^SSH-([\\d.]+)-|",
  "softmatch ftp m|^220[- ].*ftp|i",
  "softmatch smtp m|^220[- ].*smtp|i",
  "softmatch pop3 m|^\\+OK |",
  "Probe TCP GenericLines q|\\r\\n\\r\\n|",
  "rarity 1",
  "ports 21,23,35,43,79,98,110,113,119,199,214,264,449,505,510,540,587,616,628,666,731,771," ++
    "782,1000,1010,1040-1043,1080,1212,1220,1248,1302,1400,1432,1467,1501,1505,1666," ++
    "1687-1688,2000,2010,2024,2600,3000,3005,3128,3310,3333,3940,4155,5000,5432,5555,5666," ++
    "6000-6009,6112,6667,7000,7100,7777,8000,8010,8021,8080,8081,8443,8888,9100-9107,12000," ++
    "12174,13720,13783,26000,27374,27665,31337,32768,32772,38000,40193,50000,55555",
  "sslports 989-995",
  "match ftp m|^220 ([-.\\w]+) FTP server \\(Version ([\\w.]+)\\)| p/BSD ftpd/ v/$2/ h/$1/",
  "match telnet m|^\\xff\\xfb\\x01\\xff\\xfb\\x03\\xff\\xfd\\x18| p/Linux telnetd/ " ++
    "o/Linux/ cpe:/o:linux:linux_kernel/a",
  "match postgresql m|^E\\0\\0\\0.S[^\\0]+\\0C0A000\\0Munsupported frontend protocol| " ++
    "p/PostgreSQL DB/ cpe:/a:postgresql:postgresql/",
  "match pop3 m|^-ERR Invalid command\\.\\r\\n| p/generic pop3/",
  "Probe TCP GetRequest q|GET / HTTP/1.0\\r\\nHost: \x7bHost\x7d\\r\\n\\r\\n|",
  "rarity 1",
  "ports 1,70,79,80-85,88,113,139,143,280,497,505,514,515,540,554,591,620,631,783,888,898," ++
    "900,901,1026,1080,1042,1214,1220,1234,1314,1344,1503,1610,1611,1830,1900,2001,2002,2030," ++
    "2064,2160,2306,2396,2525,2715,2869,3000,3002,3052,3128,3280,3372,3531,3689,3872,4000," ++
    "4444,4567,4660,4711,5000,5427,5060,5222,5269,5280,5432,5800-5803,5900,5985,6103,6346," ++
    "6544,6600,6699,6969,7002,7007,7070,7100,7402,7776,8000-8010,8080-8085,8088,8118,8181," ++
    "8443,8530,8880-8888,9000,9001,9030,9050,9080,9090,9999,10000,10001,10005,11371,13013," ++
    "13666,13722,14534,15000,17988,18264,31337,40193,50000,55555",
  "sslports 443,4443,8443",
  "match ssl m|^\\x15\\x03[\\x00-\\x04]\\0\\x02\\x02[\\x0a\\x28\\x46\\x50]| p/TLS alert on " ++
    "plaintext request/",
  "match http m|^HTTP/1\\.[01] \\d\\d\\d .*\\r\\nServer: nginx/([\\d.]+)|s p/nginx/ v/$1/ " ++
    "cpe:/a:igor_sysoev:nginx:$1/",
  "match http m|^HTTP/1\\.[01] \\d\\d\\d .*\\r\\nServer: nginx\\r\\n|s p/nginx/ " ++
    "cpe:/a:igor_sysoev:nginx/",
  "match http m|^HTTP/1\\.[01] \\d\\d\\d .*\\r\\nServer: Apache/([\\d.]+) \\(([^)]+)\\)|s " ++
    "p/Apache httpd/ v/$1/ i/($2)/ cpe:/a:apache:http_server:$1/",
  "match http m|^HTTP/1\\.[01] \\d\\d\\d .*\\r\\nServer: Apache/([\\d.]+)|s p/Apache " ++
    "httpd/ v/$1/ cpe:/a:apache:http_server:$1/",
  "match http m|^HTTP/1\\.[01] \\d\\d\\d .*\\r\\nServer: Microsoft-IIS/([\\d.]+)|s " ++
    "p/Microsoft IIS httpd/ v/$1/ o/Windows/ " ++
    "cpe:/a:microsoft:internet_information_services:$1/ cpe:/o:microsoft:windows/a",
  "match http m|^HTTP/1\\.[01] \\d\\d\\d .*\\r\\nServer: Jetty\\(([\\w._-]+)\\)|s p/Jetty/ " ++
    "v/$1/ cpe:/a:eclipse:jetty:$1/",
  "match http m|^HTTP/1\\.[01] \\d\\d\\d .*\\r\\nServer: openresty/([\\d.]+)|s p/OpenResty " ++
    "web app server/ v/$1/ cpe:/a:openresty:ngx_openresty:$1/",
  "match http-proxy m|^HTTP/1\\.[01] 407 .*\\r\\nProxy-Authenticate: Basic " ++
    "realm=\"([^\"]*)\"|s p/HTTP proxy/ i/realm: $1/",
  "match elasticsearch m|^HTTP/1\\.[01] 200 OK\\r\\n.*\"cluster_name\" : " ++
    "\"([^\"]+)\".*\"number\" : \"([\\d.]+)\"|s p/Elasticsearch REST API/ v/$2/ i/cluster: " ++
    "$1/ cpe:/a:elasticsearch:elasticsearch:$2/",
  "softmatch http m|^HTTP/1\\.[01] \\d\\d\\d|",
  "Probe TCP HTTPOptions q|OPTIONS / HTTP/1.0\\r\\n\\r\\n|",
  "rarity 4",
  "ports 80-85,88,631,1220,2301,3000,3128,5000,5432,7070,8000-8010,8080-8085,8443,8888," ++
    "9090,10000",
  "sslports 443,4443,8443",
  "fallback GetRequest",
  "match rtsp m|^RTSP/1\\.0 \\d\\d\\d| p/generic RTSP server/",
  "Probe TCP TLSSessionReq q|\\x16\\x03\\0\\0\\x69\\x01\\0\\0\\x65\\x03\\x03U\\x1c\\xa7\\xe" ++
    "4random1random2random3random4\\0\\0\\x0c\\0/\\0\\x0a\\0\\x13\\x009\\0\\x04\\0\\xff\\x01" ++
    "\\0\\0\\x30\\0\\x0d\\0,\\0*\\0\\x01\\0\\x03\\0\\x02\\x06\\x01\\x06\\x03\\x06\\x02\\x02\\" ++
    "x01\\x02\\x03\\x02\\x02\\x03\\x01\\x03\\x03\\x03\\x02\\x04\\x01\\x04\\x03\\x04\\x02\\x01" ++
    "\\x01\\x01\\x03\\x01\\x02\\x05\\x01\\x05\\x03\\x05\\x02|",
  "rarity 1",
  "ports 443,444,465,636,989,990,992,993,994,995,1241,1311,2252,3388,3389,4433,4444,5061," ++
    "5986,6679,6697,8443,8883,9001",
  "fallback GetRequest",
  "match ssl m|^\\x16\\x03[\\x00-\\x03]..\\x02\\0\\0.\\x03[\\x00-\\x03]|s p/TLS/",
  "match ssl m|^\\x15\\x03[\\x00-\\x03]\\0\\x02\\x02[\\x28\\x46\\x50]|s p/TLS alert/",
  "Probe TCP SSLSessionReq q|\\x16\\x03\\0\\0S\\x01\\0\\0O\\x03\\0?G\\xd7\\xf7\\xba," ++
    "\\xee\\xea\\xb2`~\\xf3\\0\\xfd\\x82\x7b\\xb9\\xd5\\x96\\xc8w\\x9b\\xe6\\xc4\\xdb<=\\xdbo" ++
    "\\xef\\x10n\\0\\0(\\0\\x16\\0\\x13\\0\\x0a\\0f\\0\\x05\\0\\x04\\0e\\0d\\0c\\0b\\0a\\0`\\" ++
    "0\\x15\\0\\x12\\0\\x09\\0\\x14\\0\\x11\\0\\x08\\0\\x06\\0\\x03\\x01\\0|",
  "rarity 1",
  "ports 443,444,465,636,989,990,992,993,994,995,1241,1311,2252,3389,4433,4444,5061,6679," ++
    "6697,8443,8883,9001",
  "fallback GetRequest",
  "match ssl m|^\\x16\\x03[\\x00-\\x03]..\\x02\\0\\0.\\x03[\\x00-\\x03]|s p/SSL/",
  "match ssl m|^\\x15\\x03[\\x00-\\x03]\\0\\x02\\x02[\\x28\\x46\\x50]|s p/SSL alert/",
  "Probe TCP TerminalServerCookie q|\\x03\\0\\0*%\\xe0\\0\\0\\0\\0\\0Cookie: " ++
    "mstshash=nmap\\r\\n\\x01\\0\\x08\\0\\x03\\0\\0\\0|",
  "rarity 7",
  "ports 3388,3389",
  "fallback GetRequest",
  "match ms-wbt-server m|^\\x03\\0\\0\\x13\\x0e\\xd0\\0\\0\\x124\\0\\x02[\\x00-\\x1f]\\x08" ++
    "\\0[\\x00-\\x0b]\\0\\0\\0| p/Microsoft Terminal Services/ o/Windows/ " ++
    "cpe:/o:microsoft:windows/a",
  "Probe TCP TerminalServer q|\\x03\\0\\0\\x0b\\x06\\xe0\\0\\0\\0\\0\\0|",
  "rarity 6",
  "ports 515,1028,1068,1503,1720,1935,2040,3388,3389",
  "fallback GetRequest",
  "match ms-wbt-server m|^\\x03\\0\\0\\x0b\\x06\\xd0\\0\\0\\x12.\\0$|s p/Microsoft " ++
    "Terminal Service/ o/Windows/ cpe:/o:microsoft:windows/a",
  "Probe TCP redis-server q|*1\\r\\n$4\\r\\ninfo\\r\\n|",
  "rarity 8",
  "ports 6379",
  "Probe TCP Socks5 q|\\x05\\x04\\x00\\x01\\x02\\x80\\x05\\x01\\x00\\x03\\x0dwww.google.com" ++
    "\\x00\\x50GET / HTTP/1.0\\r\\n\\r\\n|",
  "rarity 8",
  "ports 199,1080,1090,1095,1100,1105,1109,3128,6588,8000,8008,8080,8088,11371",
  "match socks5 m|^\\x05\\0\\x05\\0\\0\\x01.\x7b6\x7dHTTP|s i/No authentication; " ++
    "connection ok/",
  "match socks5 m|^\\x05\\x02$| i/Username and password authentication required/",
  "match socks5 m|^\\x05\\xff$| i/No acceptable authentication method/",
  "Probe UDP DNSStatusRequest q|\\0\\0\\x10\\0\\0\\0\\0\\0\\0\\0\\0\\0|",
  "rarity 1",
  "ports 53,135,1194,5353",
  "match domain m|^\\0\\0\\x90\\x04\\0\\0\\0\\0\\0\\0\\0\\0| p/generic dns response: " ++
    "NOTIMP/",
  "match domain m|^\\0\\0\\x90\\x05\\0\\0\\0\\0\\0\\0\\0\\0| p/generic dns response: " ++
    "REFUSED/",
  "match domain m|^\\0\\0\\x90\\x01\\0\\0\\0\\0\\0\\0\\0\\0| p/generic dns response: " ++
    "FORMERR/",
  "Probe UDP NBTStat q|\\x80\\xf0\\0\\x10\\0\\x01\\0\\0\\0\\0\\0\\0\\x20CKAAAAAAAAAAAAAAAAA" ++
    "AAAAAAAAAAAAA\\0\\0\\x21\\0\\x01|",
  "rarity 4",
  "ports 137",
  "match netbios-ns m|^\\x80\\xf0\\x84\\0\\0\\0\\0\\x01\\0\\0\\0\\0\\x20CKAAAAAAAAAAAAAAAAA" ++
    "AAAAAAAAAAAAA\\0\\0\\x21\\0\\x01\\0\\0\\0\\0.\x7b2\x7d\\x01([\\w\\-]\x7b1," ++
    "15\x7d)\\s*\\0|s p/Microsoft Windows netbios-ns/ h/$1/ o/Windows/ " ++
    "cpe:/o:microsoft:windows/a"]

/-- The bundled probes as a text. -/
def bundledProbes : String := Text.join "\n" bundledDirectives

end Fingerprinting.Nmap
