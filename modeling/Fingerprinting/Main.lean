/-
# The program

The outer layer: it fetches what an invocation is about, has the invocation carried out, and prints
what it leaves. It has no transport, so every request to a service fails.
-/
import Fingerprinting.CommandLine.Run

namespace Fingerprinting.CommandLine

/-! ## Surroundings -/

/-- The bytes of a file; what is absent or no file has none. -/
def readFile? (path : String) : IO (Option Bytes) := do
  try
    let b ← IO.FS.readBinFile path
    return some b.toList
  catch
    | .noFileOrDirectory .. => return none
    | .inappropriateType .. => return none
    | e => throw e

/-- Whether a path leads to a folder. -/
def isFolder (path : String) : IO Bool := do
  try
    discard (IO.FS.realPath (path ++ "/."))
    return true
  catch _ => return false

/-- The files of a folder that may hold corpora. -/
def readFolder (path : String) : IO (Except Error Corpora.Folder) := do
  if !(← isFolder path) then return .error (.noDirectory path)
  let mut folder : Corpora.Folder := .empty
  for kind in CorpusKind.all do
    for name in Corpora.fileNames kind do
      let file := path ++ "/" ++ name
      try
        if let some b ← readFile? file then folder := folder.insert name b
      catch _ => return .error (.corpus (.file file))
  return .ok folder

/-- Everything that can be read from standard input. -/
def readInput : IO (Option Bytes) := do
  try
    let b ← (← IO.getStdin).readBinToEnd
    return some b.toList
  catch _ => return none

/-- What an invocation finds. -/
def Invocation.surroundings (i : Invocation) : IO Surroundings := do
  let folder ←
    match i.resources with
    | some path => readFolder path
    | none => pure (.ok .empty)
  let input ←
    match i.command.source? with
    | some .standardInput => readInput
    | some (.file path) => try readFile? path catch _ => pure none
    | none => pure none
  return ⟨folder, input⟩

/-! ## Running -/

/-- The peer of a program without a transport. -/
def silentPeer : Dialog.Peer ServiceRequest ServiceReply Unit where
  answer s _ := (.error (.reported .network "no transport"), s)

/-- Carry out what the arguments ask for. -/
def outcome (args : List String) : IO Outcome := do
  match Invocation.ofArguments args with
  | .error d => return d.outcome
  | .ok i =>
      let surroundings ← i.surroundings
      let start ← IO.monoNanosNow
      let result ← IO.lazyPure fun _ => ((i.run surroundings).run silentPeer ()).result
      let stop ← IO.monoNanosNow
      return i.outcome (stop - start) result

end Fingerprinting.CommandLine

open Fingerprinting.CommandLine in
/-- Print what is left by the arguments, and answer the exit code. -/
def main (args : List String) : IO UInt32 := do
  let o ← outcome args
  for line in o.lines do IO.println line
  if let some words := o.failure then IO.eprintln ("Error: " ++ words)
  return o.code.toUInt32
