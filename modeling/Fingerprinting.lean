import Fingerprinting.Inspection.Detector
import Fingerprinting.Inspection.Engines
import Fingerprinting.Inspection.Nmap
import Fingerprinting.Main
import Fingerprinting.Proofs.Detector.Aliases
import Fingerprinting.Proofs.Detector.Frames
import Fingerprinting.Proofs.Nmap.ScanCourse
import Fingerprinting.Proofs.Nmap.TcpScan
import Fingerprinting.Proofs.Nmap.UdpScan
import Fingerprinting.Proofs.Nmap.Exclusion
import Fingerprinting.Proofs.Corpus.Folder
import Fingerprinting.Proofs.Text.Lower
import Fingerprinting.Proofs.Text.Utf8
import Fingerprinting.Proofs.Transcript
import Fingerprinting.Proofs.Results
import Fingerprinting.Proofs.Detector.Building
import Fingerprinting.Proofs.Detector.Dispatch
import Fingerprinting.Proofs.Response.BlankLine
import Fingerprinting.Proofs.Text.Numeral
import Fingerprinting.Proofs.Response.NormalForm
import Fingerprinting.Proofs.Text.Pieces
import Fingerprinting.Proofs.Cpe.Uri
import Fingerprinting.Proofs.Cpe.Formatted
import Fingerprinting.Proofs.Finger.Building
import Fingerprinting.Proofs.Finger.Sending
import Fingerprinting.Proofs.Batch.Accounts
import Fingerprinting.Proofs.Batch.Settling
import Fingerprinting.Proofs.Dictionary
import Fingerprinting.Proofs.Alias.History
import Fingerprinting.Proofs.Goby.Tokens
import Fingerprinting.Proofs.Goby.Grammar
import Fingerprinting.Proofs.Goby.Parsing
import Fingerprinting.Proofs.Nmap.Names
import Fingerprinting.Proofs.Nmap.Lookups
import Fingerprinting.Proofs.Nmap.Printing
import Fingerprinting.Proofs.Nmap.ProbeFile
import Fingerprinting.Proofs.Detector.Coherence
import Fingerprinting.Proofs.Frame.Merging
import Fingerprinting.Proofs.Batch.Successive
import Fingerprinting.Proofs.Nmap.ReportedNames
import Fingerprinting.Proofs.Nmap.SoftRules
import Fingerprinting.Proofs.Nmap.Fallbacks
import Fingerprinting.Proofs.Nmap.Selection
import Fingerprinting.Proofs.Nmap.OpenReply
import Fingerprinting.Proofs.Nmap.PatternText
import Fingerprinting.Proofs.Escapes
import Fingerprinting.Proofs.Nmap.PrintedRules
import Fingerprinting.Proofs.Nmap.MovedAnchors
import Fingerprinting.Proofs.Finger.Agreement
import Fingerprinting.Proofs.Response.Chunks
import Fingerprinting.Proofs.Response.CutShort
import Fingerprinting.Proofs.Text.Search
import Fingerprinting.Proofs.Wappalyzer.Implications
import Fingerprinting.Proofs.Finger.Marking
import Fingerprinting.Proofs.Finger.Trials
import Fingerprinting.Proofs.FieldOrder
import Fingerprinting.Proofs.Rule.Tests
import Fingerprinting.Proofs.Rule.Matching
import Fingerprinting.Proofs.Finger.Icons
import Fingerprinting.Proofs.Text.AsciiCase
import Fingerprinting.Proofs.Literals
import Fingerprinting.Proofs.Text.Base64
import Fingerprinting.Proofs.Payload
import Fingerprinting.Proofs.Hosts
import Fingerprinting.Proofs.Sender.Replies
import Fingerprinting.Proofs.Target.Lines
import Fingerprinting.Proofs.Alias.Replacement
import Fingerprinting.Proofs.Vulnerabilities
import Fingerprinting.Proofs.Detector.Ports
import Fingerprinting.Proofs.Nmap.TableNames
import Fingerprinting.Proofs.Response.HeaderNames
import Fingerprinting.Proofs.Nmap.Templates
import Fingerprinting.Proofs.Wappalyzer.Templates
