/-
# Frames of engines

An engine makes the frames that it finds out of what its rules say: it constructs them, sets a
version, takes attributes over and adds tags.  So whatever is known of all frames that come about in
this way is known of the frames of every engine.

* `Engine.made_of_mem_matchWeb` says so of the frames for a response;
* `Engine.made_of_plays_matchService` says so of the frames for a service, whatever it replies.
-/
import Fingerprinting.Engine
import Fingerprinting.Proofs.Finger.Sending
import Fingerprinting.Proofs.Frame.Coherence

namespace Fingerprinting

open Dialog

/-! ## Fingers -/

/-- The frames of a hit: the one of the product, and the one of the vulnerability. -/
def Hit.frames (h : Hit) : List Frame := h.frame :: (h.vuln.bind Vuln.frame).toList

/-- The frames of a result: the one of the product, and the one of the vulnerability. -/
def ServiceResult.frames (r : ServiceResult) : List Frame :=
  r.frame.toList ++ (r.vuln.bind Vuln.frame).toList

namespace CompiledFinger

variable (f : CompiledFinger) (r : CompiledRule) (m : RuleMatch) (options : FingerOptions)

/-- The frame for a match before what the finger says is added. -/
def versioned : Frame :=
  let frame := Frame.new f.finger.name .fingers
  if m.version ≠ "" then frame.setVersion m.version
  else if r.version ≠ noVersion then frame.setVersion r.version
  else frame

theorem made_versioned : (f.versioned r m).Made := by
  have hnew : (Frame.new f.finger.name .fingers).Made := .new _ _
  unfold versioned
  dsimp only
  split
  · exact hnew.setVersion _
  · split
    · exact hnew.setVersion _
    · exact hnew

theorem origin_versioned : (f.versioned r m).origin = .fingers := by
  have hnew : (Frame.new f.finger.name .fingers).origin = .fingers := Frame.origin_new _ _
  unfold versioned
  dsimp only
  split
  · exact hnew
  · split
    · exact hnew
    · exact hnew

/-- What the finger says is added to a frame with a version. -/
theorem frame_eq : f.frame r m options =
    let tagged :=
      f.finger.tags.foldl Frame.addTag
        { (f.versioned r m).update f.finger.cpe with focus := f.finger.focus }
    if options.matchDetail then { tagged with detail := m.detail } else tagged := rfl

theorem made_frame : (f.frame r m options).Made := by
  have hupdated := (f.made_versioned r m).update f.finger.cpe
  have htagged := (hupdated.withFocus f.finger.focus).foldl_addTag f.finger.tags
  rw [frame_eq]
  dsimp only
  split
  · exact htagged.withDetail m.detail
  · exact htagged

theorem origin_frame : (f.frame r m options).origin = .fingers := by
  have horigin := f.origin_versioned r m
  rw [frame_eq]
  dsimp only
  rw [Frame.foldl_addTag]
  split
  · exact horigin
  · exact horigin

/-- The vulnerability shows the frame of the hit before it is marked. -/
theorem made_of_mem_frames_hit : ∀ g ∈ (f.hit r m options).frames, g.Made := by
  have hframe := f.made_frame r m options
  intro g hg
  rcases List.mem_cons.mp hg with rfl | hg
  · exact hframe
  · rw [Option.mem_toList, Option.bind_eq_some_iff] at hg
    obtain ⟨v, hv, hshown⟩ := hg
    have hv : f.vuln? r m (f.frame r m options) = some v := hv
    unfold vuln? at hv
    dsimp only at hv
    split at hv
    · cases hv
      cases hshown
      exact hframe
    · split at hv
      · cases hv
        cases hshown
        exact hframe
      · split at hv
        · cases hv
          cases hshown
        · cases hv

theorem made_of_mem_frames_markActive : ∀ g ∈ (f.hit r m options).markActive.frames, g.Made := by
  intro g hg
  rcases List.mem_cons.mp hg with rfl | hg
  · exact .markActive (f.made_frame r m options) (f.origin_frame r m options)
  · exact f.made_of_mem_frames_hit r m options g (List.mem_cons_of_mem _ hg)

variable {f options}

theorem made_of_passive {c : Content} {h : Hit} (hh : f.passive? c options = some h) :
    ∀ g ∈ h.frames, g.Made := by
  obtain ⟨r, -, hr⟩ := List.exists_of_findSome?_eq_some hh
  obtain ⟨m, -, rfl⟩ := Option.map_eq_some_iff.mp hr
  exact f.made_of_mem_frames_hit r m options

/-- Whatever the replies are, the hit is that of a rule. -/
theorem made_of_plays_tryRules {level : Int} {canSend : Bool} {c : Content}
    {rules : List CompiledRule} {log : List (Bytes × Option Bytes)} {h : Hit}
    (hplays : (f.tryRules level canSend options c rules).Plays log (some h)) :
    ∀ g ∈ h.frames, g.Made := by
  induction rules generalizing c log with
  | nil =>
      obtain ⟨-, hnone⟩ := (plays_done_iff _ _ log).mp hplays
      cases hnone
  | cons r rest ih =>
      have hafter (reply : Option Bytes) (log : List (Bytes × Option Bytes))
          (hplays : (f.afterReply level options canSend c r rest reply).Plays log (some h)) :
          ∀ g ∈ h.frames, g.Made := by
        unfold afterReply at hplays
        dsimp only at hplays
        split at hplays
        · obtain ⟨-, hhit⟩ := (plays_pure_iff _ _ log).mp hplays
          rw [Option.some.inj hhit]
          split
          · exact f.made_of_mem_frames_markActive r _ options
          · exact f.made_of_mem_frames_hit r _ options
        · exact ih hplays
      rw [tryRules_cons] at hplays
      split at hplays
      · obtain ⟨first, more, reply, -, -, hmore⟩ := (plays_bind_iff _ _ _ _).mp hplays
        exact hafter reply more hmore
      · exact hafter none log hplays

end CompiledFinger

namespace Fingers

theorem made_of_mem_matchHttp (s : Fingers) (c : Content) :
    ∀ f ∈ (s.matchHttp c).1.toList, f.Made := by
  apply Frames.made_of_mem_ofList
  intro f hf
  obtain ⟨h, hh, rfl⟩ := List.mem_map.mp hf
  obtain ⟨finger, -, hpassive⟩ := List.mem_filterMap.mp hh
  exact CompiledFinger.made_of_passive hpassive h.frame List.mem_cons_self

theorem made_of_plays_firstHit {c : Content} {level : Int} {canSend : Bool}
    {options : FingerOptions} {fingers : List CompiledFinger}
    {log : List (Bytes × Option Bytes)} {h : Hit}
    (hplays : (firstHit c level canSend options fingers).Plays log (some h)) :
    ∀ g ∈ h.frames, g.Made := by
  induction fingers generalizing log with
  | nil =>
      obtain ⟨-, hnone⟩ := (plays_done_iff _ _ log).mp hplays
      cases hnone
  | cons f rest ih =>
      rw [firstHit] at hplays
      obtain ⟨first, more, hit, -, hfirst, hmore⟩ := (plays_bind_iff _ _ _ _).mp hplays
      cases hit with
      | none => exact ih hmore
      | some hit =>
          obtain ⟨-, hhit⟩ := (plays_pure_iff _ _ more).mp hmore
          rw [Option.some.inj hhit]
          exact CompiledFinger.made_of_plays_tryRules hfirst

theorem made_of_plays_matchService (s : Fingers) {host port : String} {level : Int}
    {log : List (ServiceRequest × ServiceReply)} {result : ServiceResult}
    (hplays : (s.matchService host port level).Plays log (some result)) :
    ∀ f ∈ result.frames, f.Made := by
  unfold matchService at hplays
  obtain ⟨first, more, hit, -, hfirst, hmore⟩ := (plays_bind_iff _ _ _ _).mp hplays
  obtain ⟨-, hresult⟩ := (plays_pure_iff _ _ more).mp hmore
  obtain ⟨h, rfl, rfl⟩ := Option.map_eq_some_iff.mp hresult.symm
  obtain ⟨inner, hinner, -⟩ := plays_of_via _ _ _ first (some h) hfirst
  exact made_of_plays_firstHit hinner

end Fingers

/-! ## Wappalyzer -/

theorem Wappalyzer.App.made_frame (a : App) (version : String) : (a.frame version).Made := by
  have hnew : (Frame.new a.name .wappalyzer).Made := .new _ _
  unfold App.frame
  refine List.foldlRecOn a.categories _ ?_ fun _ hf _ _ => hf.addTag _
  cases a.cpe with
  | none =>
      split
      · exact hnew
      · exact hnew.setVersion version
  | some cpe =>
      split
      · exact hnew.update cpe
      · exact (hnew.update cpe).setVersion version

theorem Wappalyzer.made_frame (s : Wappalyzer) (name version : String) :
    (s.frame name version).Made := by
  unfold Wappalyzer.frame
  split
  · exact App.made_frame _ version
  · exact .setVersion (.new name .wappalyzer) version

/-! ## Icons -/

theorem Favicons.made_of_ofIcon {s : Favicons} {b : Bytes} {f : Frame}
    (h : s.ofIcon? b = some f) : f.Made := by
  unfold Favicons.ofIcon? at h
  split at h
  · cases h
  · obtain ⟨name, -, rfl⟩ := Option.map_eq_some_iff.mp h
    exact .new name .ico

/-! ## The scanner -/

namespace Nmap

theorem Fingerprint.made_tagged {frame : Frame} (h : frame.Made) (lead value : String) :
    (tagged lead value frame).Made := by
  unfold tagged
  split
  · exact h
  · exact h.addTag _

theorem Fingerprint.made_decorate (f : Fingerprint) {frame : Frame} (h : frame.Made) :
    (f.decorate frame).Made := by
  have htagged := made_tagged (made_tagged (made_tagged h "" f.info) "hostname:" f.hostname)
    "device:" f.device
  have hnamed := List.foldlRecOn f.applications
    (fun frame c => frame.addTag ("cpe:" ++ c.1)) htagged fun _ hf _ _ => hf.addTag _
  exact hnamed.addFrom .active

theorem Fingerprint.made_applicationFrame (service : String) (a : Cpe) :
    (applicationFrame service a).Made := by
  have hupdated : ((Frame.new service .nmap).update a).Made := .update (.new _ _) a
  unfold applicationFrame
  dsimp only
  apply made_tagged
  split
  · split
    · exact hupdated
    · exact hupdated.withProduct _
  · apply Frame.Made.setVersion
    split
    · exact hupdated
    · exact hupdated.withProduct _

theorem Fingerprint.made_plainFrame (f : Fingerprint) (service : String) :
    (f.plainFrame service).Made := by
  have hnew : (Frame.new service .nmap).Made := .new _ _
  unfold plainFrame
  dsimp only
  split
  · split
    · exact hnew
    · exact hnew.withProduct _
  · apply Frame.Made.setVersion
    split
    · exact hnew
    · exact hnew.withProduct _

theorem Fingerprint.made_of_mem_frames (f : Fingerprint) : ∀ g ∈ f.frames, g.Made := by
  intro g hg
  unfold frames at hg
  split at hg
  · dsimp only at hg
    split at hg
    · rw [List.mem_singleton.mp hg]
      exact f.made_decorate (f.made_plainFrame _)
    · obtain ⟨c, -, rfl⟩ := List.mem_map.mp hg
      exact f.made_decorate (made_applicationFrame _ c.2)
  · cases hg

/-- Whatever the outcome of a scan is, its frame is made from a fingerprint or from the name of a
service. -/
theorem Scanner.made_of_frame {s : Scanner} {port : Nat} {udp : Bool} {outcome : ScanOutcome}
    {f : Frame} (h : s.frame? port udp outcome = some f) : f.Made := by
  cases outcome with
  | matched reading => exact reading.fingerprint.made_of_mem_frames f (List.mem_of_mem_head? h)
  | opened reading =>
      unfold frame? at h
      dsimp only at h
      split at h
      · cases h
      · obtain ⟨name, -, rfl⟩ := Option.map_eq_some_iff.mp h
        exact .addTag (.new _ _) _
  | closed => cases h
  | notMatched => cases h

theorem Scanner.made_of_plays_matchService (s : Scanner) {host port : String} {level : Int}
    {log : List (ServiceRequest × ServiceReply)} {result : ServiceResult}
    (hplays : (s.matchService host port level).Plays log (some result)) :
    ∀ f ∈ result.frames, f.Made := by
  unfold matchService at hplays
  split at hplays
  · obtain ⟨-, hnone⟩ := (plays_done_iff _ _ log).mp hplays
    cases hnone
  · split at hplays
    · obtain ⟨-, hnone⟩ := (plays_done_iff _ _ log).mp hplays
      cases hnone
    · obtain ⟨first, more, outcome, -, -, hmore⟩ := (plays_bind_iff _ _ _ _).mp hplays
      obtain ⟨-, hresult⟩ := (plays_pure_iff _ _ more).mp hmore
      obtain ⟨g, hg, rfl⟩ := Option.map_eq_some_iff.mp hresult.symm
      intro f hf
      rw [List.mem_singleton.mp hf]
      exact made_of_frame hg

end Nmap

/-! ## All engines -/

namespace Engine

/-- Every frame that an engine finds in a response is made from its rules. -/
theorem made_of_mem_matchWeb (e : Engine) (c : Content) : ∀ f ∈ (e.matchWeb c).toList, f.Made := by
  cases e with
  | fingers s => exact s.made_of_mem_matchHttp c
  | fingerprintHub s =>
      apply Frames.made_of_mem_ofList
      intro f hf
      obtain ⟨r, -, rfl⟩ := List.mem_map.mp hf
      exact .addTag (.new _ _) _
  | wappalyzer s =>
      apply Frames.made_of_mem_ofList
      intro f hf
      obtain ⟨⟨name, version⟩, -, rfl⟩ := List.mem_map.mp hf
      exact s.made_frame name version
  | eHole s =>
      apply Frames.made_of_mem_ofList
      intro f hf
      obtain ⟨r, -, rfl⟩ := List.mem_map.mp hf
      exact .new _ _
  | goby s =>
      apply Frames.made_of_mem_ofList
      intro f hf
      obtain ⟨r, -, rfl⟩ := List.mem_map.mp hf
      exact .new _ _
  | nmap s =>
      intro f hf
      cases hf
  | favicon s =>
      apply Frames.made_of_mem_ofList
      intro f hf
      exact Favicons.made_of_ofIcon (Option.mem_toList.mp hf)

/-- Every frame of what an engine finds at a service is made from its rules. -/
theorem made_of_plays_matchService (e : Engine) {host port : String} {level : Int}
    {log : List (ServiceRequest × ServiceReply)} {result : ServiceResult}
    (hplays : (e.matchService host port level).Plays log (some result)) :
    ∀ f ∈ result.frames, f.Made := by
  have hnone : ¬ (done none : ServiceDialog (Option ServiceResult)).Plays log (some result) := by
    rw [plays_done_iff]
    rintro ⟨-, h⟩
    cases h
  cases e with
  | fingers s => exact s.made_of_plays_matchService hplays
  | nmap s =>
      have hplays : (s.matchService host port level).Plays log (some result) := hplays
      exact s.made_of_plays_matchService hplays
  | _ => exact absurd hplays hnone

end Engine

end Fingerprinting
