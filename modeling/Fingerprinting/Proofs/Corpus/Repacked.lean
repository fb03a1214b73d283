/-
# Engines of packed corpora

When some corpora are packed, the engines that are built from them stay the same, except for that of
the fingers: it cannot be built when one of its corpora is packed that does not look like JSON.

* `Engine.load_of_repacked` says which engines are the same whatever is packed;
* `Engine.load_fingers_of_misread` says when the engine of the fingers cannot be built;
* `Detector.new_of_repacked` says what that comes to for all engines together.
-/
import Fingerprinting.Proofs.Corpus.Packed
import Fingerprinting.Proofs.Detector.Building

namespace Fingerprinting

namespace Corpora

/-! ## Repacked corpora -/

/-- A corpus that is the same, or the same packed. -/
def IsRepacked (x x' : Option Bytes) : Prop :=
  x' = x ∨ ∃ d z, x = some d ∧ x' = some z ∧ Corpus.IsPacked z d

theorem IsRepacked.isSome_eq {x x' : Option Bytes} (h : IsRepacked x x') :
    x'.isSome = x.isSome := by
  rcases h with rfl | ⟨d, z, rfl, rfl, -⟩
  · rfl
  · rfl

/-- Whether a corpus is there. -/
def has (c : Corpora) : CorpusKind → Bool
  | .aliases => c.aliases.isSome
  | .fingersHttp => c.fingersHttp.isSome
  | .fingersSocket => c.fingersSocket.isSome
  | .fingerprintHub => c.fingerprintHub.isSome
  | .eHole => c.eHole.isSome
  | .goby => c.goby.isSome
  | .wappalyzer => c.wappalyzer.isSome
  | .probeRecords => c.probeRecords.isSome
  | .probes => c.probes.isSome
  | .services => c.services.isSome

/-- Corpora of which some have been packed.  A text of directives never is. -/
structure Repacked (c c' : Corpora) : Prop where
  aliases : IsRepacked c.aliases c'.aliases
  fingersHttp : IsRepacked c.fingersHttp c'.fingersHttp
  fingersSocket : IsRepacked c.fingersSocket c'.fingersSocket
  fingerprintHub : IsRepacked c.fingerprintHub c'.fingerprintHub
  eHole : IsRepacked c.eHole c'.eHole
  goby : IsRepacked c.goby c'.goby
  wappalyzer : IsRepacked c.wappalyzer c'.wappalyzer
  probeRecords : IsRepacked c.probeRecords c'.probeRecords
  probes : c'.probes = c.probes
  services : IsRepacked c.services c'.services

/-- The same corpora are there. -/
theorem Repacked.has_eq {c c' : Corpora} (h : c.Repacked c') (kind : CorpusKind) :
    c'.has kind = c.has kind := by
  cases kind with
  | aliases => exact h.aliases.isSome_eq
  | fingersHttp => exact h.fingersHttp.isSome_eq
  | fingersSocket => exact h.fingersSocket.isSome_eq
  | fingerprintHub => exact h.fingerprintHub.isSome_eq
  | eHole => exact h.eHole.isSome_eq
  | goby => exact h.goby.isSome_eq
  | wappalyzer => exact h.wappalyzer.isSome_eq
  | probeRecords => exact h.probeRecords.isSome_eq
  | probes => exact congrArg Option.isSome h.probes
  | services => exact h.services.isSome_eq

/-- A corpus that is packed and does not look like JSON. -/
def Misread (x x' : Option Bytes) : Prop :=
  ∃ d z, x = some d ∧ x' = some z ∧ Corpus.IsPacked z d ∧ ¬ Corpus.LooksJson d

/-- One of the corpora of fingers is packed and does not look like JSON. -/
def MisreadFingers (c c' : Corpora) : Prop :=
  Misread c.fingersHttp c'.fingersHttp ∨ Misread c.fingersSocket c'.fingersSocket

end Corpora

namespace Engine

/-! ## Engines -/

/-- An engine of one corpus, which its reader finds the same packed and plain. -/
theorem loadOr_of_isRepacked {α : Type} (default : α) {load : Bytes → Except Error α}
    (hload : ∀ z d, Corpus.IsPacked z d → load z = load d) {x x' : Option Bytes}
    (h : Corpora.IsRepacked x x') (engine : α → Engine) :
    (loadOr default load x' >>= fun s => Except.ok (engine s)) =
      loadOr default load x >>= fun s => Except.ok (engine s) := by
  rcases h with rfl | ⟨d, z, rfl, rfl, h⟩
  · rfl
  · rw [loadOr, loadOr, hload z d h]

variable {c c' : Corpora}

/-- The table of services is the same packed and plain. -/
theorem servicesOf_of_isRepacked {x x' : Option Bytes} (h : Corpora.IsRepacked x x') :
    Nmap.Scanner.servicesOf x' = Nmap.Scanner.servicesOf x := by
  rcases h with rfl | ⟨d, z, rfl, rfl, h⟩
  · rfl
  · exact Nmap.ServiceTable.load_of_isPacked h

/-- The scanner is the same packed and plain. -/
theorem loadScanner_of_repacked (h : c.Repacked c') (noGuess : Bool) :
    loadScanner c' noGuess = loadScanner c noGuess := by
  unfold loadScanner Nmap.Scanner.load Nmap.Scanner.parse
  rw [h.probes, servicesOf_of_isRepacked h.services]
  rcases h.probeRecords with heq | ⟨d, z, hd, hz, hpacked⟩
  · rw [heq]
  · rw [hd, hz]
    dsimp only
    unfold Nmap.Catalog.load
    rw [Nmap.ProbeSet.load_of_isPacked hpacked]

/-- An engine other than that of the fingers is the same when its corpora have been packed. -/
theorem load_of_repacked (o : EngineOptions) (h : o.corpora.Repacked c') (name : EngineName)
    (hname : name ≠ .fingers) : load { o with corpora := c' } name = load o name := by
  cases name with
  | fingers => exact absurd rfl hname
  | fingerprintHub =>
      exact loadOr_of_isRepacked _ (fun _ _ => Hub.load_of_isPacked) h.fingerprintHub
        .fingerprintHub
  | wappalyzer =>
      exact loadOr_of_isRepacked _ (fun _ _ => Wappalyzer.load_of_isPacked) h.wappalyzer
        .wappalyzer
  | eHole =>
      exact loadOr_of_isRepacked _ (fun _ _ => EHole.load_of_isPacked) h.eHole .eHole
  | goby =>
      exact loadOr_of_isRepacked _ (fun _ _ => Goby.load_of_isPacked) h.goby .goby
  | nmap =>
      unfold load
      dsimp only
      rw [loadScanner_of_repacked h]
  | favicon => rfl

/-! ## Fingers -/

/-- The engine of the fingers comes from two corpora, read one after the other. -/
theorem load_fingers (o : EngineOptions) :
    load o .fingers =
      loadOr [] Fingers.load o.corpora.fingersHttp >>= fun http =>
        loadOr [] Fingers.load o.corpora.fingersSocket >>= fun socket =>
          Fingers.new http socket ⟨o.opsec, o.matchDetail⟩ >>= fun s => .ok (.fingers s) := by
  unfold load Fingers.ofCorpora
  dsimp only
  rw [bind_assoc]
  have hhttp : Fingers.load (o.corpora.fingersHttp.getD []) =
      loadOr [] Fingers.load o.corpora.fingersHttp := by
    cases o.corpora.fingersHttp <;> rfl
  rw [hhttp]
  cases o.corpora.fingersSocket with
  | none => rfl
  | some data => simp only [loadOr, bind_assoc]

/-- A corpus of fingers that is not misread. -/
theorem load_of_not_misread {x x' : Option Bytes} (h : Corpora.IsRepacked x x')
    (hread : ¬ Corpora.Misread x x') : loadOr [] Fingers.load x' = loadOr [] Fingers.load x := by
  rcases h with rfl | ⟨d, z, rfl, rfl, h⟩
  · rfl
  · have hjson : Corpus.LooksJson d := by
      by_contra hjson
      exact hread ⟨d, z, rfl, rfl, h, hjson⟩
    rw [loadOr, loadOr, Fingers.load_of_isPacked h, Fingers.load_of_looksJson hjson]

/-- A corpus of fingers that is misread. -/
theorem load_of_misread {x x' : Option Bytes} (h : Corpora.Misread x x') :
    loadOr [] Fingers.load x' = .error (.corpus .json) := by
  obtain ⟨d, z, -, rfl, hpacked, hjson⟩ := h
  rw [loadOr, Fingers.load_of_isPacked hpacked,
    Fingers.ofJson_of_not_looksJson hpacked.plain hjson]

/-- The engine of the fingers is the same when none of its corpora is misread. -/
theorem load_fingers_of_not_misread (o : EngineOptions) (h : o.corpora.Repacked c')
    (hread : ¬ o.corpora.MisreadFingers c') :
    load { o with corpora := c' } .fingers = load o .fingers := by
  obtain ⟨hhttp, hsocket⟩ := not_or.mp hread
  rw [load_fingers, load_fingers]
  dsimp only
  rw [load_of_not_misread h.fingersHttp hhttp, load_of_not_misread h.fingersSocket hsocket]

/-- The engine of the fingers cannot be built when one of its corpora is misread. -/
theorem load_fingers_of_misread (o : EngineOptions) (h : o.corpora.MisreadFingers c')
    (e : Engine) : load { o with corpora := c' } .fingers ≠ .ok e := by
  intro hload
  rw [load_fingers] at hload
  obtain ⟨http, hhttp, hload⟩ := (Results.bind_eq_ok_iff _ _ _).mp hload
  obtain ⟨socket, hsocket, -⟩ := (Results.bind_eq_ok_iff _ _ _).mp hload
  rcases h with h | h
  · cases (load_of_misread h).symm.trans hhttp
  · cases (load_of_misread h).symm.trans hsocket

end Engine

/-! ## Detectors -/

namespace Detector

variable {c' : Corpora}

/-- The aliases are the same packed and plain. -/
theorem aliases_of_isRepacked {x x' : Option Bytes} (h : Corpora.IsRepacked x x')
    (seed : List Alias) : Aliases.load seed x' = Aliases.load seed x := by
  rcases h with rfl | ⟨d, z, rfl, rfl, h⟩
  · rfl
  · exact Aliases.load_of_isPacked h seed

/-- A detector of packed corpora is that of the plain ones; there is none when fingers are wanted
that are misread. -/
theorem new_of_repacked (o : EngineOptions) (h : o.corpora.Repacked c') (d : Detector) :
    new { o with corpora := c' } = .ok d ↔
      new o = .ok d ∧ ¬ (EngineName.fingers.name ∈ o.names ∧ o.corpora.MisreadFingers c') := by
  have hnames : ({ o with corpora := c' } : EngineOptions).names = o.names := rfl
  by_cases hmisread : EngineName.fingers.name ∈ o.names ∧ o.corpora.MisreadFingers c'
  · refine ⟨fun hnew => ?_, fun hnew => absurd hmisread hnew.2⟩
    obtain ⟨loaded, t, hloaded, -⟩ := (new_eq_ok_iff _ d).mp hnew
    obtain ⟨e, he⟩ := Results.exists_of_mem_inputs _ hloaded _ hmisread.1
    rw [Engine.loadNamed, EngineName.ofName?_name] at he
    exact absurd he (Engine.load_fingers_of_misread o hmisread.2 e)
  · have hengines : o.names.mapM (Engine.loadNamed { o with corpora := c' }) =
        o.names.mapM (Engine.loadNamed o) := by
      refine Results.mapM_congr fun name hname => ?_
      unfold Engine.loadNamed
      cases hfound : EngineName.ofName? name with
      | none => rfl
      | some e =>
          dsimp only
          by_cases hfingers : e = .fingers
          · subst hfingers
            rw [← EngineName.name_of_ofName hfound] at hname
            exact Engine.load_fingers_of_not_misread o h fun hm => hmisread ⟨hname, hm⟩
          · exact Engine.load_of_repacked o h e hfingers
    have hnew : new { o with corpora := c' } = new o := by
      unfold new
      rw [hnames, hengines]
      dsimp only
      simp only [aliases_of_isRepacked h.aliases]
    rw [hnew]
    exact ⟨fun hd => ⟨hd, hmisread⟩, fun hd => hd.1⟩

end Detector

end Fingerprinting
