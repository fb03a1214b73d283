/-
# Matching fingers

A finger is matched against a response that has been captured, or in a dialog in which its rules
send their payloads first.  A dialog with a peer asks payloads and is answered replies, or nothing
when sending fails.

* `CompiledFinger.passive?` tries the rules on one response;
* `CompiledFinger.matchWith` lets rules send when they may, and goes on with the reply;
* `CompiledFinger.active` sends the payload of every rule, and gives up where one may not be sent.
-/
import Fingerprinting.Dialog
import Fingerprinting.Finger.Basic

namespace Fingerprinting

/-! ## Options -/

/-- How fingers are matched. -/
structure FingerOptions where
  /-- Send nothing for fingers that are marked as conspicuous. -/
  opsec : Bool := false
  /-- Keep which test decided a match. -/
  matchDetail : Bool := false
deriving DecidableEq, Repr, Inhabited

/-- A dialog in which payloads are sent. -/
abbrev PayloadDialog (α : Type) := Dialog Bytes (Option Bytes) α

/-! ## Hits -/

/-- A hit on the reply to a payload. -/
def Hit.markActive (h : Hit) : Hit :=
  { h with
    frame :=
      { h.frame with
        origin := .fingers
        froms := (Provenances.singleton .fingers).insert .active } }

namespace CompiledFinger

/-- Whether a finger must not send anything. -/
def isSilenced (f : CompiledFinger) (options : FingerOptions) : Bool :=
  options.opsec && f.finger.opsec

/-- The frame for a match by a rule. -/
def frame (f : CompiledFinger) (r : CompiledRule) (m : RuleMatch) (options : FingerOptions) :
    Frame :=
  let frame := Frame.new f.finger.name .fingers
  let frame :=
    if m.version ≠ "" then frame.setVersion m.version
    else if r.version ≠ noVersion then frame.setVersion r.version
    else frame
  let frame := frame.update f.finger.cpe
  let frame := { frame with focus := f.finger.focus }
  let frame := f.finger.tags.foldl Frame.addTag frame
  if options.matchDetail then { frame with detail := m.detail } else frame

/-- The vulnerability that a match by a rule reveals: the rule's own one, its information, or the
finger. -/
def vuln? (f : CompiledFinger) (r : CompiledRule) (m : RuleMatch) (frame : Frame) :
    Option Vuln :=
  let detail := if f.isActive then [("path", [r.rule.payload])] else []
  if r.rule.vuln ≠ "" then
    some { name := r.rule.vuln, severity := .high, detail, frame := some frame }
  else if r.rule.info ≠ "" then
    some { name := r.rule.info, severity := .info, detail, frame := some frame }
  else if m.isVuln then some { name := f.finger.name, severity := .info, detail }
  else none

/-- The hit for a match by a rule. -/
def hit (f : CompiledFinger) (r : CompiledRule) (m : RuleMatch) (options : FingerOptions) : Hit :=
  let frame := f.frame r m options
  { frame, vuln := f.vuln? r m frame }

/-- A reply prepared for matching. -/
def content (f : CompiledFinger) (reply : Bytes) : Content :=
  if f.isHttp then .ofHttp reply else .ofRaw reply

/-! ## Captured responses -/

/-- The hit by the first rule that a response matches. -/
def passive? (f : CompiledFinger) (c : Content) (options : FingerOptions) : Option Hit :=
  f.rules.findSome? fun r => (r.match? c f.isHttp).map fun m => f.hit r m options

/-! ## Dialogs -/

/-- The payload that a rule may send at a level. -/
def payload? (f : CompiledFinger) (r : CompiledRule) (level : Int) (options : FingerOptions) :
    Option Bytes :=
  if r.level ≤ level ∧ !f.isSilenced options then r.payload else none

/-- Try some rules on a response or on the reply to their payloads; a reply takes the place of the
response for the rules that follow. -/
def tryRules (f : CompiledFinger) (level : Int) (canSend : Bool) (options : FingerOptions) :
    Content → List CompiledRule → PayloadDialog (Option Hit)
  | _, [] => .done none
  | c, r :: rest => do
      let reply ←
        match if canSend then f.payload? r level options else none with
        | some payload => Dialog.send payload
        | none => pure none
      let c := (reply.map f.content).getD c
      match r.match? c f.isHttp with
      | some m =>
          let h := f.hit r m options
          pure (some (if reply.isSome then h.markActive else h))
      | none => f.tryRules level canSend options c rest

/-- The hit by the first rule that matches a response or the reply to its payload. -/
def matchWith (f : CompiledFinger) (c : Content) (level : Int) (canSend : Bool)
    (options : FingerOptions) : PayloadDialog (Option Hit) :=
  f.tryRules level canSend options c f.rules

/-- Send the payloads of some rules until a reply matches. -/
def probeRules (f : CompiledFinger) (level : Int) (options : FingerOptions) :
    List CompiledRule → PayloadDialog (Option Hit)
  | [] => .done none
  | r :: rest => do
      match f.payload? r level options with
      | none => pure none
      | some payload =>
          match ← Dialog.send payload with
          | none => pure none
          | some reply =>
              match r.match? (f.content reply) f.isHttp with
              | some m => pure (some (f.hit r m options).markActive)
              | none => f.probeRules level options rest

/-- The hit by the first rule that matches the reply to its payload. -/
def active (f : CompiledFinger) (level : Int) (options : FingerOptions) :
    PayloadDialog (Option Hit) :=
  f.probeRules level options f.rules

end CompiledFinger

end Fingerprinting
