/-
# How a collection of fingers is built

A collection is made of some fingers, and grows by more; how it matches may be changed at any time.
Whatever has been filed has been compiled, also when a later finger could not be.

* `Fingers.Built` says how a collection may have come about;
* `Fingers.Built.isCompiled` says that what it has filed is compiled;
* `CompiledFinger.IsCompiled.written` finds the written rule of a compiled one.
-/
import Fingerprinting.Finger.Store
import Fingerprinting.Proofs.Results

namespace Fingerprinting

/-! ## Fingers -/

/-- A finger is what compiling its record gives. -/
def CompiledFinger.IsCompiled (f : CompiledFinger) : Prop := f.finger.compile false = .ok f

/-- What a compiled finger is made of. -/
theorem Finger.compile_eq_ok_iff (f : Finger) (caseSensitive : Bool) (g : CompiledFinger) :
    f.compile caseSensitive = .ok g ↔
      ∃ rules, f.rules.mapM (Rule.compile f.name caseSensitive) = .ok rules ∧
        g = { finger := f
              protocol := if f.protocol = "" then httpProtocol else f.protocol
              ports :=
                if f.ports.isEmpty && (if f.protocol = "" then httpProtocol else f.protocol) ==
                  httpProtocol then ["80"] else f.ports
              rules } := by
  unfold compile
  dsimp only
  rw [Results.bind_eq_ok_iff]
  constructor
  · rintro ⟨rules, hrules, h⟩
    cases h
    exact ⟨rules, hrules, rfl⟩
  · rintro ⟨rules, hrules, rfl⟩
    exact ⟨rules, hrules, rfl⟩

theorem Finger.isCompiled_of_compile (f : Finger) (g : CompiledFinger)
    (h : f.compile false = .ok g) : g.IsCompiled := by
  obtain ⟨rules, -, hg⟩ := (f.compile_eq_ok_iff false g).mp h
  have hfinger : g.finger = f := by rw [hg]
  rw [CompiledFinger.IsCompiled, hfinger, h]

/-- Every rule of a compiled finger is what compiling a written one gives. -/
theorem CompiledFinger.IsCompiled.written {f : CompiledFinger} (h : f.IsCompiled)
    (r : CompiledRule) (hr : r ∈ f.rules) :
    ∃ written ∈ f.finger.rules, written.compile f.finger.name false = .ok r := by
  obtain ⟨rules, hrules, hf⟩ := (f.finger.compile_eq_ok_iff false f).mp h
  have hsame : f.rules = rules := by rw [hf]
  exact Results.exists_of_mem_mapM _ hrules r (hsame ▸ hr)

namespace Fingers

/-! ## Collections -/

/-- A collection that has come about by building one, by more fingers and by changes of how it
matches. -/
inductive Built : Fingers → Prop where
  | new {http socket : List Finger} {options : FingerOptions} {s : Fingers}
      (h : new http socket options = .ok s) : Built s
  | append {s : Fingers} (h : Built s) (fingers : List Finger) : Built (s.append fingers).1
  | change {s : Fingers} (h : Built s) (options : FingerOptions) : Built { s with options }

/-- Everything that is filed has been compiled. -/
def IsCompiled (s : Fingers) : Prop := ∀ f ∈ s.http ++ s.socket, f.IsCompiled

/-- Filing a finger adds at most that one. -/
theorem mem_file (s : Fingers) (f g : CompiledFinger)
    (h : g ∈ (s.file f).http ++ (s.file f).socket) :
    g = f ∨ g ∈ s.http ++ s.socket := by
  unfold file at h
  split at h
  · simp only [addHttp, List.mem_append, List.mem_singleton] at h
    rcases h with (h | h) | h
    · exact .inr (List.mem_append_left _ h)
    · exact .inl h
    · exact .inr (List.mem_append_right _ h)
  · split at h
    · simp only [addSocket, List.mem_append, List.mem_singleton] at h
      rcases h with h | h | h
      · exact .inr (List.mem_append_left _ h)
      · exact .inr (List.mem_append_right _ h)
      · exact .inl h
    · exact .inr h

/-- What is compiled and filed one after the other stays compiled. -/
theorem IsCompiled.append {s : Fingers} (h : s.IsCompiled) (fingers : List Finger) :
    (s.append fingers).1.IsCompiled := by
  induction fingers generalizing s with
  | nil => exact h
  | cons f rest ih =>
      unfold Fingers.append
      cases hf : f.compile false with
      | error e => exact h
      | ok g =>
          apply ih
          intro g' hg'
          rcases mem_file s g g' hg' with rfl | hg'
          · exact f.isCompiled_of_compile _ hf
          · exact h g' hg'

/-- Whatever a collection has filed has been compiled. -/
theorem Built.isCompiled {s : Fingers} (h : s.Built) : s.IsCompiled := by
  induction h with
  | @new http socket options s h =>
      have hempty : ({ options } : Fingers).IsCompiled := by
        intro f hf
        cases hf
      have hfiled := hempty.append (http ++ socket)
      unfold Fingers.new at h
      split at h
      · rename_i hs
        cases h
        rwa [hs] at hfiled
      · cases h
  | append _ fingers ih => exact ih.append fingers
  | change _ options ih => exact ih

end Fingers

end Fingerprinting
