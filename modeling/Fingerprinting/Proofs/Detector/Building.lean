/-
# How a detector is built

A detector holds an engine for every name among its options, each name once, and the engine for
icons.  Enabling and disabling change neither the engines nor the aliases.

* `names_of_new` says that no two engines of a detector have the same name;
* `new_of_perm` says that the order of the options matters for nothing but the order of the engines.
-/
import Mathlib.Data.List.Nodup
import Fingerprinting.Detector
import Fingerprinting.Proofs.Detector.Aliases
import Fingerprinting.Proofs.Results

namespace Fingerprinting

/-! ## Names -/

theorem EngineName.name_of_ofName {s : String} {name : EngineName} (h : ofName? s = some name) :
    name.name = s := by
  have hfound := List.find?_some h
  exact beq_iff_eq.mp hfound

/-- An engine has the name under which it is loaded. -/
theorem Engine.name_of_load (o : EngineOptions) (name : EngineName) (e : Engine)
    (h : Engine.load o name = .ok e) : e.name = name := by
  cases name <;> unfold Engine.load at h
  case favicon =>
    cases h
    rfl
  all_goals
    dsimp only at h
    obtain ⟨engine, -, hengine⟩ := (Results.bind_eq_ok_iff _ _ _).mp h
    cases hengine
    rfl

theorem Engine.name_of_loadNamed (o : EngineOptions) (s : String) (e : Engine)
    (h : Engine.loadNamed o s = .ok e) : e.name.name = s := by
  unfold Engine.loadNamed at h
  cases hname : EngineName.ofName? s with
  | none =>
      rw [hname] at h
      cases h
  | some name =>
      rw [hname] at h
      rw [Engine.name_of_load o name e h]
      exact EngineName.name_of_ofName hname

/-- No engine is named twice among the options. -/
theorem EngineOptions.nodup_names (o : EngineOptions) : o.names.Nodup := by
  unfold EngineOptions.names
  split
  · decide
  · exact Lists.nodup_eraseDups _

/-- The order of the options matters for the order of the names only. -/
theorem EngineOptions.names_perm (o : EngineOptions) (engines : List String)
    (h : engines.Perm o.engines) : ({ o with engines } : EngineOptions).names.Perm o.names := by
  refine (List.perm_ext_iff_of_nodup (nodup_names _) (nodup_names _)).mpr fun name => ?_
  unfold EngineOptions.names
  rw [List.Perm.isEmpty_eq h]
  split
  · exact Iff.rfl
  · rw [List.mem_eraseDups, List.mem_eraseDups]
    exact ((h.map _).filter _).mem_iff

namespace Detector

/-! ## Building -/

/-- What a detector is made of. -/
theorem new_eq_ok_iff (o : EngineOptions) (d : Detector) :
    new o = .ok d ↔ ∃ loaded t, o.names.mapM (Engine.loadNamed o) = .ok loaded ∧
      Aliases.load (loaded.flatMap seedOf) o.corpora.aliases = .ok t ∧
      d = { engines := (withFavicon loaded).map (fillIcons (iconsOf loaded))
            enabled := (loaded.map Engine.name).filter (· != .favicon)
            aliases := t } := by
  unfold new
  rw [Results.bind_eq_ok_iff]
  constructor
  · rintro ⟨loaded, hloaded, h⟩
    obtain ⟨t, ht, h⟩ := (Results.bind_eq_ok_iff _ _ _).mp h
    cases h
    exact ⟨loaded, t, hloaded, ht, rfl⟩
  · rintro ⟨loaded, t, hloaded, ht, rfl⟩
    exact ⟨loaded, hloaded, (Results.bind_eq_ok_iff _ _ _).mpr ⟨t, ht, rfl⟩⟩

/-- Filling in icons changes no name. -/
@[simp] theorem name_fillIcons (icons : Favicons) (e : Engine) :
    (fillIcons icons e).name = e.name := by
  cases e <;> rfl

/-- Filling in icons changes the engine for icons only. -/
theorem fillIcons_of_ne (icons : Favicons) (e : Engine) (h : e.name ≠ .favicon) :
    fillIcons icons e = e := by
  cases e <;> first | rfl | exact absurd rfl h

/-- The loaded engines have the names among the options, so no two of them have the same name. -/
theorem nodup_names_of_mapM (o : EngineOptions) (loaded : List Engine)
    (h : o.names.mapM (Engine.loadNamed o) = .ok loaded) : (loaded.map Engine.name).Nodup := by
  have hnames : (loaded.map Engine.name).map EngineName.name = o.names := by
    rw [List.map_map]
    exact Results.map_of_mapM _ _ (Engine.name_of_loadNamed o) h
  have hnodup := o.nodup_names
  rw [← hnames] at hnodup
  exact hnodup.of_map _

/-- The engine for icons is added when it is not there. -/
theorem nodup_names_withFavicon (engines : List Engine) (h : (engines.map Engine.name).Nodup) :
    ((withFavicon engines).map Engine.name).Nodup := by
  unfold withFavicon
  split
  · exact h
  · rename_i hnone
    rw [List.map_append, List.map_singleton, List.nodup_append]
    refine ⟨h, List.nodup_singleton _, ?_⟩
    rintro name hname _ hfavicon rfl
    obtain ⟨e, he, rfl⟩ := List.mem_map.mp hname
    exact hnone (List.any_eq_true.mpr ⟨e, he, beq_iff_eq.mpr (List.mem_singleton.mp hfavicon)⟩)

/-- No two engines of a detector have the same name. -/
theorem names_of_new (o : EngineOptions) (d : Detector) (h : new o = .ok d) :
    (d.engines.map Engine.name).Nodup := by
  obtain ⟨loaded, t, hloaded, -, rfl⟩ := (new_eq_ok_iff o d).mp h
  have hnames := nodup_names_withFavicon loaded (nodup_names_of_mapM o loaded hloaded)
  rw [List.map_map]
  simpa [Function.comp_def] using hnames

/-- The aliases of a detector give out names in lower case. -/
theorem isLowered_of_new (o : EngineOptions) (d : Detector) (h : new o = .ok d) :
    d.aliases.IsLowered := by
  obtain ⟨loaded, t, -, ht, rfl⟩ := (new_eq_ok_iff o d).mp h
  exact Aliases.isLowered_load _ _ t ht

/-! ## The order of the options -/

/-- Apart from the one for icons, the engines are those that have been loaded. -/
theorem mem_engines_iff (icons : Favicons) (loaded : List Engine) (e : Engine)
    (h : e.name ≠ .favicon) : e ∈ (withFavicon loaded).map (fillIcons icons) ↔ e ∈ loaded := by
  have hadded : e ∈ withFavicon loaded ↔ e ∈ loaded := by
    unfold withFavicon
    split
    · exact Iff.rfl
    · rw [List.mem_append, List.mem_singleton, or_iff_left]
      rintro rfl
      exact h rfl
  rw [← hadded, List.mem_map]
  constructor
  · rintro ⟨e', he', rfl⟩
    rw [name_fillIcons] at h
    rwa [fillIcons_of_ne icons e' h]
  · intro he
    exact ⟨e, he, fillIcons_of_ne icons e h⟩

/-- Only the engine for fingers brings aliases, and there is at most one, so that the order of the
engines does not matter. -/
theorem flatMap_seedOf_perm {loaded loaded' : List Engine} (h : loaded'.Perm loaded)
    (hnodup : (loaded.map Engine.name).Nodup) :
    loaded'.flatMap seedOf = loaded.flatMap seedOf := by
  have hfilter (es : List Engine) :
      es.flatMap seedOf = (es.filter fun e => e.name == .fingers).flatMap seedOf := by
    induction es with
    | nil => rfl
    | cons e rest ih =>
        cases e <;> simp [Engine.name, seedOf, ih]
  have hone : (loaded.filter fun e => e.name == .fingers).length ≤ 1 := by
    have hcount := List.nodup_iff_count_le_one.mp hnodup .fingers
    rw [List.count, List.countP_map, List.countP_eq_length_filter] at hcount
    exact hcount
  rw [hfilter loaded', hfilter loaded]
  have hperm := h.filter fun e => e.name == .fingers
  -- At most one engine can stand in one order only.
  generalize (loaded.filter fun e => e.name == .fingers) = fingers at hone hperm ⊢
  match fingers with
  | [] => rw [hperm.eq_nil]
  | [e] => rw [hperm.eq_singleton]
  | e :: e' :: rest => simp at hone

/-- A detector whose options are in another order can be built too; it has the same aliases and,
apart from the one for icons, the same engines. -/
theorem new_of_perm (o : EngineOptions) (d : Detector) (h : new o = .ok d) (engines : List String)
    (hperm : engines.Perm o.engines) :
    ∃ d', new { o with engines } = .ok d' ∧ d'.aliases = d.aliases ∧
      ∀ e, e.name ≠ .favicon → (e ∈ d'.engines ↔ e ∈ d.engines) := by
  obtain ⟨loaded, t, hloaded, ht, rfl⟩ := (new_eq_ok_iff o d).mp h
  obtain ⟨loaded', hloaded', hsame⟩ :=
    Results.mapM_perm _ (o.names_perm engines hperm) hloaded
  have hseed := flatMap_seedOf_perm hsame (nodup_names_of_mapM o loaded hloaded)
  refine ⟨_, (new_eq_ok_iff _ _).mpr ⟨loaded', t, hloaded', ?_, rfl⟩, rfl, ?_⟩
  · rw [hseed]
    exact ht
  · intro e he
    rw [mem_engines_iff _ _ e he, mem_engines_iff _ _ e he]
    exact hsame.mem_iff

/-! ## Switches -/

/-- A change to which engines are enabled. -/
inductive Switch where
  | enable (name : EngineName)
  | disable (name : EngineName)

/-- A detector after one change. -/
def switch (d : Detector) : Switch → Detector
  | .enable name => d.enable name
  | .disable name => d.disable name

/-- A detector after some changes. -/
def switched (d : Detector) (changes : List Switch) : Detector := changes.foldl switch d

/-- A change keeps the engines and the aliases. -/
theorem switch_keeps (d : Detector) (change : Switch) :
    (d.switch change).engines = d.engines ∧ (d.switch change).aliases = d.aliases := by
  cases change with
  | enable name =>
      show (d.enable name).engines = _ ∧ (d.enable name).aliases = _
      unfold enable
      constructor
      · split <;> rfl
      · split <;> rfl
  | disable name => exact ⟨rfl, rfl⟩

/-- Changes keep the engines and the aliases. -/
theorem switched_keeps (d : Detector) (changes : List Switch) :
    (d.switched changes).engines = d.engines ∧ (d.switched changes).aliases = d.aliases := by
  induction changes generalizing d with
  | nil => exact ⟨rfl, rfl⟩
  | cons change rest ih =>
      obtain ⟨hengines, haliases⟩ := ih (d.switch change)
      obtain ⟨hengines', haliases'⟩ := d.switch_keeps change
      exact ⟨hengines.trans hengines', haliases.trans haliases'⟩

end Detector

end Fingerprinting
