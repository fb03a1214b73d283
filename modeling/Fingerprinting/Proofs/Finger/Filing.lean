/-
# Adding fingers to a collection

Fingers are added as a list, or as a document in YAML that holds one.  They are compiled and filed
one after the other.  The first that cannot be compiled ends the addition with an error, and those
before it stay filed.

* `Fingers.append_eq` says what is filed and which error is answered;
* `Fingers.http_foldl_file` and `Fingers.socket_foldl_file` say where fingers are filed;
* `Fingers.add_of_error` says how an addition that ends with an error leaves a collection.
-/
import Fingerprinting.Finger.Load
import Fingerprinting.Proofs.Finger.Building

namespace Fingerprinting

/-! ## Which fingers are filed -/

namespace CompiledFinger

/-- Whether the finger is for TCP or UDP services. -/
def isSocket (f : CompiledFinger) : Bool := f.protocol == "tcp" || f.protocol == "udp"

/-- Whether a collection files the finger. -/
def isFiled (f : CompiledFinger) : Bool := f.isHttp || f.isSocket

theorem isSocket_of_isHttp {f : CompiledFinger} (h : f.isHttp = true) : f.isSocket = false := by
  rw [isHttp, beq_iff_eq] at h
  rw [isSocket, h]
  decide

end CompiledFinger

/-- The protocols of fingers that are filed, as they are written. -/
def Finger.filedProtocols : List String := ["", Finger.httpProtocol, "tcp", "udp"]

/-- Whether a finger is filed can be read off its record. -/
theorem Finger.isFiled_of_compile {f : Finger} {g : CompiledFinger}
    (h : f.compile false = .ok g) : g.isFiled = true ↔ f.protocol ∈ filedProtocols := by
  obtain ⟨rules, -, rfl⟩ := (f.compile_eq_ok_iff false g).mp h
  by_cases hnone : f.protocol = ""
  · simp [CompiledFinger.isFiled, CompiledFinger.isHttp, filedProtocols, hnone]
  · simp [CompiledFinger.isFiled, CompiledFinger.isHttp, CompiledFinger.isSocket, filedProtocols,
      hnone]

namespace Fingers

variable (s : Fingers)

/-! ## Filing -/

theorem file_of_isHttp {f : CompiledFinger} (h : f.isHttp = true) : s.file f = s.addHttp f :=
  if_pos (beq_iff_eq.mp h)

theorem file_of_isSocket {f : CompiledFinger} (h : f.isSocket = true) :
    s.file f = s.addSocket f := by
  have hhttp : f.isHttp ≠ true := fun hhttp => by
    rw [CompiledFinger.isSocket_of_isHttp hhttp] at h
    cases h
  rw [CompiledFinger.isSocket, Bool.or_eq_true, beq_iff_eq, beq_iff_eq] at h
  rw [file, if_neg (fun heq => hhttp (beq_iff_eq.mpr heq)), if_pos h]

/-- A finger for other protocols changes nothing. -/
theorem file_of_not_isFiled {f : CompiledFinger} (h : f.isFiled = false) : s.file f = s := by
  rw [CompiledFinger.isFiled, Bool.or_eq_false_iff] at h
  obtain ⟨hhttp, hsocket⟩ := h
  rw [CompiledFinger.isHttp, beq_eq_false_iff_ne] at hhttp
  rw [CompiledFinger.isSocket, Bool.or_eq_false_iff, beq_eq_false_iff_ne, beq_eq_false_iff_ne]
    at hsocket
  rw [file, if_neg hhttp, if_neg (not_or.mpr hsocket)]

/-- What is kept whichever way a finger is filed. -/
theorem file_induction {P : Fingers → Prop} (f : CompiledFinger) (hs : P s)
    (hhttp : f.isHttp = true → P (s.addHttp f)) (hsocket : f.isSocket = true → P (s.addSocket f)) :
    P (s.file f) := by
  cases hfiled : f.isFiled with
  | false => rwa [file_of_not_isFiled s hfiled]
  | true =>
      rcases Bool.or_eq_true_iff.mp hfiled with h | h
      · rw [file_of_isHttp s h]
        exact hhttp h
      · rw [file_of_isSocket s h]
        exact hsocket h

/-- A finger for HTTP stands after the others. -/
theorem http_file (f : CompiledFinger) :
    (s.file f).http = s.http ++ [f].filter CompiledFinger.isHttp := by
  rw [List.filter_singleton]
  cases hhttp : f.isHttp with
  | true =>
      rw [file_of_isHttp s hhttp]
      rfl
  | false =>
      refine (file_induction (P := fun t => t.http = s.http) s f rfl (fun h => ?_)
        fun _ => rfl).trans (List.append_nil _).symm
      rw [h] at hhttp
      cases hhttp

/-- A finger for services stands after the others. -/
theorem socket_file (f : CompiledFinger) :
    (s.file f).socket = s.socket ++ [f].filter CompiledFinger.isSocket := by
  rw [List.filter_singleton]
  cases hsocket : f.isSocket with
  | true =>
      rw [file_of_isSocket s hsocket]
      rfl
  | false =>
      refine (file_induction (P := fun t => t.socket = s.socket) s f rfl (fun _ => rfl)
        fun h => ?_).trans (List.append_nil _).symm
      rw [h] at hsocket
      cases hsocket

/-- Fingers are filed in their order wherever each of them stands after the others. -/
theorem foldl_file_of_concat {view : Fingers → List CompiledFinger} {p : CompiledFinger → Bool}
    (hview : ∀ s f, view (file s f) = view s ++ [f].filter p) (fs : List CompiledFinger) :
    view (fs.foldl file s) = view s ++ fs.filter p := by
  induction fs generalizing s with
  | nil => exact (List.append_nil _).symm
  | cons f rest ih =>
      rw [List.foldl_cons, ih, hview, List.append_assoc, ← List.filter_append]
      rfl

/-- The fingers for HTTP are filed in their order. -/
theorem http_foldl_file (fs : List CompiledFinger) :
    (fs.foldl file s).http = s.http ++ fs.filter CompiledFinger.isHttp :=
  s.foldl_file_of_concat http_file fs

/-- The fingers for services are filed in their order. -/
theorem socket_foldl_file (fs : List CompiledFinger) :
    (fs.foldl file s).socket = s.socket ++ fs.filter CompiledFinger.isSocket :=
  s.foldl_file_of_concat socket_file fs

theorem size_file_of_isFiled {f : CompiledFinger} (h : f.isFiled = true) :
    (s.file f).size = s.size + 1 := by
  rcases Bool.or_eq_true_iff.mp h with h | h
  · rw [file_of_isHttp s h, size, size, addHttp, List.length_append, List.length_singleton]
    exact Nat.add_right_comm _ _ _
  · rw [file_of_isSocket s h, size, size, addSocket, List.length_append, List.length_singleton]
    rfl

/-- The size of a collection counts what is filed. -/
theorem size_foldl_file (fs : List CompiledFinger) :
    (fs.foldl file s).size = s.size + (fs.filter CompiledFinger.isFiled).length := by
  induction fs generalizing s with
  | nil => rfl
  | cons f rest ih =>
      rw [List.foldl_cons, ih]
      cases hfiled : f.isFiled with
      | true =>
          rw [size_file_of_isFiled s hfiled, List.filter_cons_of_pos hfiled, List.length_cons]
          omega
      | false =>
          rw [file_of_not_isFiled s hfiled, List.filter_cons_of_neg (by simp [hfiled])]

/-- Filing fingers changes a collection unless none of them is for a protocol that is filed. -/
theorem foldl_file_eq_self_iff (fs : List CompiledFinger) :
    fs.foldl file s = s ↔ ∀ f ∈ fs, f.isFiled = false := by
  constructor
  · intro h
    have hsize := size_foldl_file s fs
    rw [h, Nat.left_eq_add, List.length_eq_zero_iff, List.filter_eq_nil_iff] at hsize
    exact fun f hf => Bool.eq_false_iff.mpr (hsize f hf)
  · intro h
    induction fs with
    | nil => rfl
    | cons f rest ih =>
        rw [List.foldl_cons, file_of_not_isFiled s (h f List.mem_cons_self)]
        exact ih fun g hg => h g (List.mem_cons_of_mem _ hg)

/-! ## Lists -/

/-- The fingers before the first that cannot be compiled, compiled. -/
def compiled (fingers : List Finger) : List CompiledFinger :=
  (fingers.takeWhile fun f => (f.compile false).isOk).filterMap fun f =>
    (f.compile false).toOption

/-- The error of the first finger that cannot be compiled. -/
def firstError? (fingers : List Finger) : Option RuleError :=
  fingers.findSome? fun f =>
    match f.compile false with
    | .ok _ => none
    | .error e => some e

theorem compiled_cons_of_ok {f : Finger} {g : CompiledFinger} (h : f.compile false = .ok g)
    (rest : List Finger) : compiled (f :: rest) = g :: compiled rest := by
  simp [compiled, h, Except.isOk, Except.toBool, Except.toOption]

theorem firstError?_cons_of_ok {f : Finger} {g : CompiledFinger} (h : f.compile false = .ok g)
    (rest : List Finger) : firstError? (f :: rest) = firstError? rest := by
  simp [firstError?, h]

theorem compiled_cons_of_error {f : Finger} {e : RuleError} (h : f.compile false = .error e)
    (rest : List Finger) : compiled (f :: rest) = [] := by
  simp [compiled, h, Except.isOk, Except.toBool]

theorem firstError?_cons_of_error {f : Finger} {e : RuleError} (h : f.compile false = .error e)
    (rest : List Finger) : firstError? (f :: rest) = some e := by
  simp [firstError?, h]

/-- A list is compiled and filed up to the first finger that cannot be compiled. -/
theorem append_eq (fingers : List Finger) :
    s.append fingers = ((compiled fingers).foldl file s, firstError? fingers) := by
  induction fingers generalizing s with
  | nil => rfl
  | cons f rest ih =>
      rw [append]
      cases hf : f.compile false with
      | ok g =>
          rw [compiled_cons_of_ok hf, firstError?_cons_of_ok hf]
          exact ih (s.file g)
      | error e =>
          rw [compiled_cons_of_error hf, firstError?_cons_of_error hf]
          rfl

/-- A list is filed as a whole when all of it can be compiled. -/
theorem append_of_mapM {fingers : List Finger} {fs : List CompiledFinger}
    (h : fingers.mapM (Finger.compile · false) = .ok fs) :
    s.append fingers = (fs.foldl file s, none) := by
  rw [Results.mapM_eq_ok_iff] at h
  induction h generalizing s with
  | nil => rfl
  | cons hf _ ih =>
      rw [append, hf]
      exact ih (s.file _)

/-- An error is that of one finger; those before it can be compiled, and no others are. -/
theorem exists_of_firstError? {fingers : List Finger} {e : RuleError}
    (h : firstError? fingers = some e) :
    ∃ good bad more, fingers = good ++ bad :: more ∧ bad.compile false = .error e ∧
      List.Forall₂ (fun f g => f.compile false = .ok g) good (compiled fingers) ∧
      firstError? good = none ∧ compiled good = compiled fingers := by
  induction fingers with
  | nil => cases h
  | cons f rest ih =>
      cases hf : f.compile false with
      | error e' =>
          rw [firstError?_cons_of_error hf] at h
          cases h
          rw [compiled_cons_of_error hf]
          exact ⟨[], f, rest, rfl, hf, .nil, rfl, rfl⟩
      | ok g =>
          rw [firstError?_cons_of_ok hf] at h
          obtain ⟨good, bad, more, rfl, hbad, hgood, hnone, hsame⟩ := ih h
          rw [compiled_cons_of_ok hf]
          refine ⟨f :: good, bad, more, rfl, hbad, .cons hf hgood, ?_, ?_⟩
          · rw [firstError?_cons_of_ok hf, hnone]
          · rw [compiled_cons_of_ok hf, hsame]

/-- Whether anything is filed can be read off what is written. -/
theorem forall_not_isFiled_iff {fingers : List Finger} {fs : List CompiledFinger}
    (h : List.Forall₂ (fun f g => f.compile false = .ok g) fingers fs) :
    (∀ g ∈ fs, g.isFiled = false) ↔ ∀ f ∈ fingers, f.protocol ∉ Finger.filedProtocols := by
  induction h with
  | nil => simp
  | cons hf _ ih =>
      rw [List.forall_mem_cons, List.forall_mem_cons, ih, ← Bool.not_eq_true,
        Finger.isFiled_of_compile hf]

/-! ## Additions -/

/-- What may be added to a collection: a list of fingers, or a document in YAML. -/
inductive Addition where
  | list (fingers : List Finger)
  | yaml (data : Bytes)

/-- The fingers of an addition, or why they cannot be read. -/
def Addition.read : Addition → Except Error (List Finger)
  | .list fingers => .ok fingers
  | .yaml data => Corpus.ofYaml ofDocument? data

/-- What is compiled for an addition. -/
def Addition.compiled (a : Addition) : List CompiledFinger :=
  match a.read with
  | .ok fingers => Fingers.compiled fingers
  | .error _ => []

/-- Add fingers, with the error that ended the addition if there was one. -/
def add : Addition → Fingers × Option Error
  | .list fingers => ((s.append fingers).1, (s.append fingers).2.map .rule)
  | .yaml data => s.appendYaml data

/-- Make some additions, whether or not they end with errors. -/
def addAll (additions : List Addition) : Fingers := additions.foldl (fun s a => (s.add a).1) s

/-- An addition files what is compiled for it, and answers the error that ended it. -/
theorem add_eq (a : Addition) :
    s.add a = (a.compiled.foldl file s,
      match a.read with
      | .ok fingers => (firstError? fingers).map .rule
      | .error e => some e) := by
  cases a with
  | list fingers =>
      rw [add, append_eq]
      rfl
  | yaml data =>
      rw [add, appendYaml, Addition.compiled, Addition.read]
      cases Corpus.ofYaml ofDocument? data with
      | error e => rfl
      | ok fingers =>
          dsimp only
          rw [append_eq]

/-- Some additions file what is compiled for them, one after the other. -/
theorem addAll_eq (additions : List Addition) :
    s.addAll additions = (additions.flatMap Addition.compiled).foldl file s := by
  induction additions generalizing s with
  | nil => rfl
  | cons a rest ih =>
      rw [List.flatMap_cons, List.foldl_append, addAll, List.foldl_cons, add_eq]
      exact ih _

/-! ## Additions that end with an error -/

/-- An addition that ends with an error leaves a collection as adding only the fingers before the
first one that cannot be compiled would have left it.  Nothing has changed exactly when none of them
is for a protocol that is filed, and never when a document cannot be read. -/
theorem add_of_error {s : Fingers} {a : Addition} {e : Error} (h : (s.add a).2 = some e) :
    (a.read = .error e ∧ (s.add a).1 = s) ∨
      ∃ good bad more why, a.read = .ok (good ++ bad :: more) ∧ bad.compile false = .error why ∧
        e = .rule why ∧ s.append good = ((s.add a).1, none) ∧
        ((s.add a).1 = s ↔ ∀ f ∈ good, f.protocol ∉ Finger.filedProtocols) := by
  rw [add_eq] at h ⊢
  cases hread : a.read with
  | error e' =>
      rw [hread] at h
      cases h
      refine .inl ⟨rfl, ?_⟩
      rw [Addition.compiled, hread]
      rfl
  | ok fingers =>
      rw [hread] at h
      obtain ⟨why, hwhy, rfl⟩ := Option.map_eq_some_iff.mp h
      obtain ⟨good, bad, more, rfl, hbad, hgood, hnone, hsame⟩ := exists_of_firstError? hwhy
      refine .inr ⟨good, bad, more, why, rfl, hbad, rfl, ?_, ?_⟩
      · rw [append_eq, hnone, Addition.compiled, hread, hsame]
      · rw [Addition.compiled, hread]
        dsimp only
        rw [foldl_file_eq_self_iff, forall_not_isFiled_iff hgood]

/-- A collection without fingers. -/
theorem built_nothing (options : FingerOptions) : Built { options } :=
  .new (show new [] [] options = .ok _ from rfl)

/-- Two fingers for HTTP, the second of which has a pattern that is no regular expression. -/
def halfBroken : List Finger := [
  { name := "a", rules := [{ patterns := some { body := ["x"] } }] },
  { name := "b", rules := [{ patterns := some { regexp := ["("] } }] }]

/-- The first of them is filed, though the addition ends with an error. -/
theorem add_of_error_of_halfBroken :
    (add {} (.list halfBroken)).2 = some (.rule (.pattern "(")) ∧
      ∃ good bad more, halfBroken = good ++ bad :: more ∧
        append {} good = ((add {} (.list halfBroken)).1, none) ∧
        (add {} (.list halfBroken)).1 ≠ {} := by
  have herror : (add {} (.list halfBroken)).2 = some (.rule (.pattern "(")) := by
    decide +kernel
  have hhttp : ∀ f ∈ halfBroken, f.protocol ∈ Finger.filedProtocols := by
    decide
  have hfirst : (halfBroken.head?.map fun f => (f.compile false).isOk) = some true := by
    decide +kernel
  refine ⟨herror, ?_⟩
  rcases add_of_error herror with ⟨hread, -⟩ | ⟨good, bad, more, why, hread, hbad, -, hgood, hsame⟩
  · cases hread
  · have hsplit : halfBroken = good ++ bad :: more := Except.ok.inj hread
    refine ⟨good, bad, more, hsplit, hgood, fun hnothing => ?_⟩
    rw [hsplit] at hhttp hfirst
    cases good with
    | nil =>
        rw [List.nil_append, List.head?_cons, Option.map_some, hbad] at hfirst
        cases hfirst
    | cons f rest => exact hsame.mp hnothing f List.mem_cons_self (hhttp f List.mem_cons_self)

/-- An addition that ends with an error may change a collection, and what it finds. -/
theorem add_halfBroken_ne :
    Built {} ∧ (add {} (.list halfBroken)).2 = some (.rule (.pattern "(")) ∧
      (add {} (.list halfBroken)).1 ≠ {} ∧
      ((add {} (.list halfBroken)).1.matchHttp (.ofRaw (Utf8.encode "x"))).1 ≠
        (matchHttp {} (.ofRaw (Utf8.encode "x"))).1 := by
  have hfound : ((add {} (.list halfBroken)).1.matchHttp (.ofRaw (Utf8.encode "x"))).1 ≠
      (matchHttp {} (.ofRaw (Utf8.encode "x"))).1 := by
    decide +kernel
  refine ⟨built_nothing {}, by decide +kernel, fun hsame => ?_, hfound⟩
  rw [hsame] at hfound
  exact hfound rfl

end Fingers

end Fingerprinting
