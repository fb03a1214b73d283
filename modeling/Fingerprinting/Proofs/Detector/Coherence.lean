/-
# Coherence of what is reported

Whatever a detector reports, for a response, an icon or a service, is coherent: the version and the
vendor of a frame are those of its attributes, it has the provenance that it comes from, no tag
twice, and the tag of its engine.

* `made_of_plays_probeAll` says that the results for a service are those of single engines;
* `reported_coherent` is the main result.
-/
import Fingerprinting.Proofs.Detector.Dispatch

namespace Fingerprinting.Detector

open Dialog

/-- The results of engines that are probed one after the other are made from their rules. -/
theorem made_of_plays_probeAll {host port : String} {level : Int} {es : List Engine}
    {log : List (ServiceRequest × ServiceReply)} {results : List ServiceResult}
    (hplays : (probeAll host port level es).Plays log results) :
    ∀ r ∈ results, ∀ f ∈ r.frames, f.Made := by
  induction es generalizing log results with
  | nil =>
      obtain ⟨-, rfl⟩ := (plays_done_iff _ _ log).mp hplays
      intro r hr
      cases hr
  | cons e rest ih =>
      rw [probeAll] at hplays
      obtain ⟨first, more, result, -, hfirst, hmore⟩ := (plays_bind_iff _ _ _ _).mp hplays
      obtain ⟨others, last, found, -, hothers, hlast⟩ := (plays_bind_iff _ _ _ _).mp hmore
      obtain ⟨-, rfl⟩ := (plays_pure_iff _ _ last).mp hlast
      intro r hr
      rcases List.mem_append.mp hr with hr | hr
      · rw [Option.mem_toList.mp hr] at hfirst
        exact e.made_of_plays_matchService hfirst
      · exact ih hothers r hr

/-- A set of what is reported for engines is made from their rules. -/
theorem made_of_mem_dispatch (d : Detector) (c : Content) (es : List Engine) :
    ∀ f ∈ (Frames.ofList (es.flatMap (d.reports c))).toList, f.Made :=
  Frames.made_of_mem_ofList _ (d.made_of_mem_reports c es)

/-- However construction, changes, aliases, active hits and folding are combined, frames stay
coherent.  So are all frames that an engine finds in a response, and all that a detector reports:
for a response, from its enabled engines or from those of a listing, as it is or in normal form; for
an icon; and for a service, whatever it replies, with those of the vulnerabilities. -/
theorem reported_coherent (d : Detector) :
    (∀ f : Frame, f.Made → f.IsCoherent) ∧
    (∀ (e : Engine) (c : Content), ∀ f ∈ (e.matchWeb c).toList, f.IsCoherent) ∧
    (∀ c, ∀ f ∈ (d.matchWeb c).toList, f.IsCoherent) ∧
    (∀ names c, ∀ f ∈ (d.matchWebWith names c).toList, f.IsCoherent) ∧
    (∀ raw found, d.detect raw = .ok found → ∀ f ∈ found.toList, f.IsCoherent) ∧
    (∀ icon f, d.favicons.ofIcon? icon = some f → f.IsCoherent) ∧
    (∀ host port level log results, (d.matchService host port level).Plays log results →
      ∀ r ∈ results, ∀ f ∈ r.frames, f.IsCoherent) := by
  have hweb (c : Content) : ∀ f ∈ (d.matchWeb c).toList, f.Made := by
    rw [matchWeb_eq]
    exact d.made_of_mem_dispatch c _
  refine ⟨fun f hf => hf.isCoherent, fun e c f hf => (e.made_of_mem_matchWeb c f hf).isCoherent,
    fun c f hf => (hweb c f hf).isCoherent, fun names c f hf => ?_, fun raw found h f hf => ?_,
    fun icon f h => (Favicons.made_of_ofIcon h).isCoherent,
    fun host port level log results h r hr f hf =>
      (made_of_plays_probeAll h r hr f hf).isCoherent⟩
  · rw [matchWebWith_eq] at hf
    exact (d.made_of_mem_dispatch c _ f hf).isCoherent
  · obtain ⟨response, -, hfound⟩ := (Results.bind_eq_ok_iff _ _ found).mp h
    cases hfound
    exact (hweb _ f hf).isCoherent

/-- A finger that sends and knows an older version, and two engines that spell a product in two
ways, one of which has an alias: the service shows its version in the frame and in that of the
vulnerability, and the response one product with the attributes of the alias. -/
theorem reported_coherent_of_three_engines :
    let finger : Finger :=
      { name := "OpenSSH", protocol := "tcp", ports := ["22"], tags := ["ssh", "ssh"]
        cpe := { vendor := "openbsd", version := "0" }
        rules := [{ version := "8.9", payload := "x", vuln := "weak"
                    patterns := some { body := ["SSH-"] } }] }
    let goby : Goby :=
      ⟨[⟨⟨"Apache-Tomcat", "a", [⟨"a", "tomcat", true⟩]⟩, some (.label "a")⟩]⟩
    let hub : Hub :=
      ⟨[{ record := { name := "TOMCAT" }, keywords := [Utf8.encode "tomcat"] }], .empty⟩
    let aliases : Aliases :=
      ⟨.ofList [("tomcat", { name := "tomcat", cpe := { vendor := "apache", version := "9" } })],
        .ofList [("goby", .ofList [("apachetomcat", "tomcat")])]⟩
    let lab : Dialog.Peer ServiceRequest ServiceReply Unit :=
      ⟨fun _ _ => (.ok (Utf8.encode "SSH-2.0"), ())⟩
    let page : Content := .ofRaw (Utf8.encode "Tomcat")
    let shown (f : Frame) : List String := [f.name, f.version, f.vendor] ++ f.tags
    ∃ s, Fingers.new [] [finger] {} = .ok s ∧
      let d : Detector :=
        ⟨[.fingers s, .goby goby, .fingerprintHub hub], [.fingers, .goby, .fingerprintHub], aliases⟩
      let results := ((d.matchService "10.0.0.2" "22" 1).run lab ()).result
      ((results.flatMap ServiceResult.frames).map shown =
          [["OpenSSH", "8.9", "openbsd", "fingers", "ssh"],
            ["OpenSSH", "8.9", "openbsd", "fingers", "ssh"]] ∧
        ∀ r ∈ results, ∀ f ∈ r.frames, f.IsCoherent) ∧
      (d.matchWeb page).toList.map shown =
          [["tomcat", "9", "apache", "goby", "fingerprinthub"]] ∧
        ∀ f ∈ (d.matchWeb page).toList, f.IsCoherent := by
  intro finger goby hub aliases lab page shown
  have hshown : ((Fingers.new [] [finger] {}).toOption.map fun s =>
      let d : Detector :=
        ⟨[.fingers s, .goby goby, .fingerprintHub hub], [.fingers, .goby, .fingerprintHub], aliases⟩
      let results := ((d.matchService "10.0.0.2" "22" 1).run lab ()).result
      ((results.flatMap ServiceResult.frames).map shown, (d.matchWeb page).toList.map shown)) =
      some ([["OpenSSH", "8.9", "openbsd", "fingers", "ssh"],
          ["OpenSSH", "8.9", "openbsd", "fingers", "ssh"]],
        [["tomcat", "9", "apache", "goby", "fingerprinthub"]]) := by
    decide +kernel
  obtain ⟨s, hs, hshown⟩ := Results.exists_of_map_toOption _ _ _ hshown
  refine ⟨s, hs, ?_⟩
  intro d results
  obtain ⟨hservice, hpage⟩ := Prod.mk.inj hshown
  obtain ⟨-, -, hweb, -, -, -, hresults⟩ := reported_coherent d
  exact ⟨⟨hservice, hresults _ _ _ _ results (plays_run lab () _)⟩, hpage, hweb page⟩

end Fingerprinting.Detector
