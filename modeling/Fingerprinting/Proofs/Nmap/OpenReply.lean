/-
# Replies of an open port

When no reply to the selected probes is recognised, the port is open, and a walk along them ends
with the last reply that any of them had.  A scan walks in two passes, one for the first probe and
one for the others.  The second pass counts as soon as it sends anything, so the reply to the first
probe is lost when all the others stay without one.

* `walk_eq_map` says that what comes before a walk only matters when it ends;
* `walkAll_eq_map` and `walk_eq_map_passes` read a scan and a single walk off the same two passes;
* `passes_course` says what the passes of an open port come to;
* `plays_walk_silence` says what a walk comes to when the peer says nothing.

Main statement: `scan_open_reply`.
-/
import Fingerprinting.Proofs.Nmap.Lookups
import Fingerprinting.Proofs.Nmap.UdpScan

namespace Fingerprinting.Nmap

open Tables

/-! ## Readings -/

/-- What a reply to a probe says, if it had one. -/
def Sending.reading? (c : Catalog) (x : Sending) : Option Reading :=
  match x.reply with
  | .error _ => none
  | .ok (raw, tls) => some ⟨raw, tls, c.fingerprint raw tls x.place⟩

/-- A reply that leaves the matter open leaves its reading. -/
theorem Sending.IsOpen.outcome_eq {c : Catalog} {x : Sending} (h : x.IsOpen c) :
    x.outcome c = .opened (x.reading? c) := by
  obtain ⟨last, hlast⟩ := h
  rw [hlast, reading?]
  obtain ⟨place, tls, reply⟩ := x
  rw [outcome] at hlast
  split at hlast
  · cases reply with
    | error e =>
        rw [Tables.judge] at hlast
        split at hlast <;> cases hlast
        rfl
    | ok answer =>
        rw [Tables.judge] at hlast
        split at hlast <;> cases hlast
        rfl
  · cases hlast

namespace Catalog

variable (c : Catalog) (host : String) (port : Nat)

/-- The reading of the last of some probes that had a reply. -/
def lastReading (xs : List Sending) : Option Reading := (xs.filterMap (Sending.reading? c)).getLast?

theorem lastReading_cons (x : Sending) (rest : List Sending) :
    c.lastReading (x :: rest) = (c.lastReading rest).or (x.reading? c) := by
  rw [lastReading, lastReading, List.filterMap_cons]
  cases x.reading? c with
  | none => exact (Option.or_none).symm
  | some reading =>
      dsimp only
      rw [List.getLast?_cons]
      cases (rest.filterMap (Sending.reading? c)).getLast? <;> rfl

/-- Replies that leave the matter open come to the last reading, or to that from before. -/
theorem lastOpen_opened_eq (seen : Option Reading) (xs : List Sending)
    (hopen : ∀ x ∈ xs, x.IsOpen c) :
    c.lastOpen (.opened seen) xs = .opened ((c.lastReading xs).or seen) := by
  induction xs generalizing seen with
  | nil => rfl
  | cons x rest ih =>
      obtain ⟨hx, hrest⟩ := List.forall_mem_cons.mp hopen
      have hstep : c.lastOpen (.opened seen) (x :: rest) =
          c.lastOpen (later (.opened seen) (x.outcome c)) rest := rfl
      rw [hstep, hx.outcome_eq, later, ih _ hrest, lastReading_cons, Option.or_assoc]
      rfl

/-- Replies that leave the matter open, the first of them taken apart. -/
theorem lastOpen_cons_eq (x : Sending) (rest : List Sending) (hopen : ∀ y ∈ x :: rest, y.IsOpen c) :
    c.lastOpen .notMatched (x :: rest) = .opened (c.lastReading (x :: rest)) := by
  obtain ⟨hx, hrest⟩ := List.forall_mem_cons.mp hopen
  have hstep : c.lastOpen .notMatched (x :: rest) =
      c.lastOpen (later .notMatched (x.outcome c)) rest := rfl
  rw [hstep, hx.outcome_eq, later, c.lastOpen_opened_eq _ rest hrest, lastReading_cons]
  simp [ScanOutcome.reading?]

/-! ## Two passes -/

/-- What a walk comes to after an outcome that has not ended the matter. -/
def resume (seen : ScanOutcome) : ScanOutcome → ScanOutcome
  | .notMatched => seen
  | .opened last => .opened (last.or seen.reading?)
  | outcome => outcome

/-- What a second pass comes to after the outcome of the first one. -/
def instead (seen : ScanOutcome) : ScanOutcome → ScanOutcome
  | .notMatched => seen
  | outcome => outcome

theorem resume_later (seen rest : ScanOutcome) (first : Option Reading) :
    resume (later seen (.opened first)) rest =
      resume seen (resume (later .notMatched (.opened first)) rest) := by
  cases rest with
  | opened last => simp [resume, later, ScanOutcome.reading?, Option.or_assoc]
  | notMatched => simp [resume, later, ScanOutcome.reading?]
  | closed => rfl
  | matched reading => rfl

/-- What has been seen before a walk only matters when it ends. -/
theorem walk_eq_map (used : List Nat) (seen : ScanOutcome) (places : List Nat) :
    c.walk host port used seen places =
      resume seen <$> c.walk host port used .notMatched places := by
  induction places generalizing used seen with
  | nil => rfl
  | cons place rest ih =>
      rw [walk, walk]
      split_ifs
      · exact ih used seen
      · rw [map_bind]
        refine bind_congr fun outcome => ?_
        cases outcome with
        | closed => rfl
        | matched reading =>
            dsimp only
            split_ifs
            · rw [map_bind]
              refine bind_congr fun found => ?_
              cases found <;> rfl
            · rfl
        | notMatched =>
            dsimp only
            rw [ih _ (later seen .notMatched)]
            rfl
        | opened last =>
            -- The rest of the walk starts from this reply, whatever was seen before it.
            dsimp only
            rw [ih _ (later seen (.opened last)), ih _ (later .notMatched (.opened last)),
              ← comp_map]
            congr 1
            funext rest
            exact resume_later seen rest last

/-- The outcomes of the walk of the first probe and of that of the others, which takes place unless
the first one ends the matter. -/
def passes (first : Nat) (rest : List Nat) : ProbeDialog (ScanOutcome × ScanOutcome) := do
  match ← c.walk host port [] .notMatched [first] with
  | .closed => pure (.closed, .notMatched)
  | .matched reading => pure (.matched reading, .notMatched)
  | seen => do
      let outcome ← c.walk host port [first] .notMatched rest
      pure (seen, outcome)

/-- A scan takes the second pass instead of the first one. -/
theorem walkAll_eq_map (first : Nat) (rest : List Nat) :
    c.walkAll host port (first :: rest) =
      (fun p => instead p.1 p.2) <$> c.passes host port first rest := by
  rw [walkAll, passes, map_bind]
  refine bind_congr fun seen => ?_
  cases seen with
  | closed => rfl
  | matched reading => rfl
  | notMatched =>
      dsimp only
      rw [map_bind]
      nth_rewrite 1 [← bind_pure (c.walk host port [first] .notMatched rest)]
      refine bind_congr fun outcome => ?_
      cases outcome <;> rfl
  | opened last =>
      dsimp only
      rw [map_bind]
      refine bind_congr fun outcome => ?_
      cases outcome <;> rfl

/-- A single walk goes on from the first pass to the second one. -/
theorem walk_eq_map_passes (first : Nat) (rest : List Nat) :
    c.walk host port [] .notMatched (first :: rest) =
      (fun p => resume p.1 p.2) <$> c.passes host port first rest := by
  have honward (seen : ScanOutcome) :
      c.walk host port [first] seen rest = (fun p => resume p.1 p.2) <$>
        (c.walk host port [first] .notMatched rest >>= fun outcome => pure (seen, outcome)) := by
    rw [walk_eq_map, map_bind, map_eq_pure_bind]
    rfl
  rw [passes, map_bind, walk, walk, if_neg (by simp), if_neg (by simp), bind_assoc]
  refine bind_congr fun outcome => ?_
  cases outcome with
  | closed => rfl
  | matched reading =>
      dsimp only
      split_ifs
      · rw [bind_assoc]
        refine bind_congr fun found => ?_
        cases found <;> rfl
      · rfl
  | notMatched => exact honward .notMatched
  | opened last => exact honward (later .notMatched (.opened last))

/-! ## Open ports -/

/-- When a port is left open, both passes have sent all that they had to send. -/
theorem passes_course (first : Nat) (rest : List Nat)
    (hplaces : ∀ place ∈ first :: rest, c.IsPlace place) (hnodup : (first :: rest).Nodup)
    (log : List (ProbeRequest × ProbeReply)) (p : ScanOutcome × ScanOutcome)
    (h : (c.passes host port first rest).Plays log p) (last : Option Reading)
    (hlast : instead p.1 p.2 = .opened last) :
    ∃ x xs, c.Shows host port (x :: xs) log ∧ (x :: xs).map Sending.place = first :: rest ∧
      (∀ y ∈ x :: xs, y.IsOpen c) ∧ p = (.opened (x.reading? c), c.lastOpen .notMatched xs) := by
  obtain ⟨hfirst, hrest⟩ := List.forall_mem_cons.mp hplaces
  obtain ⟨hother, hdistinct⟩ := List.nodup_cons.mp hnodup
  obtain ⟨before, after, seen, rfl, hbefore, hafter⟩ := (Dialog.plays_bind_iff _ _ _ _).mp h
  -- A pass that closes the matter would have been reported, so both passes go through.
  obtain ⟨main₁, inside₁, web₁, hlog₁, -, hcourse₁⟩ :=
    c.walk_course host port [] .notMatched [first] (List.forall_mem_singleton.mpr hfirst)
      (List.nodup_singleton first) (by simp) before seen hbefore
  cases hcourse₁ with
  | closed xs x _ _ _ =>
      obtain ⟨-, rfl⟩ := (Dialog.plays_pure_iff _ _ _).mp hafter
      cases hlast
  | matched xs x _ _ _ best _ _ _ _ _ _ =>
      obtain ⟨-, rfl⟩ := (Dialog.plays_pure_iff _ _ _).mp hafter
      cases hlast
  | through _ hmain hopen₁ =>
      obtain ⟨x, rfl, rfl⟩ : ∃ x, main₁ = [x] ∧ x.place = first := by
        simpa [List.map_eq_cons_iff] using hmain
      have hseen : c.lastOpen .notMatched [x] = .opened (x.reading? c) := by
        rw [c.lastOpen_cons_eq x [] hopen₁, lastReading_cons]
        rfl
      rw [hseen] at hafter
      obtain ⟨second, more, outcome, rfl, hsecond, hmore⟩ :=
        (Dialog.plays_bind_iff _ _ _ _).mp hafter
      obtain ⟨rfl, rfl⟩ := (Dialog.plays_pure_iff _ _ _).mp hmore
      obtain ⟨main₂, inside₂, web₂, hlog₂, -, hcourse₂⟩ :=
        c.walk_course host port [x.place] .notMatched rest hrest hdistinct
          (fun i hi hmem => hother (List.mem_singleton.mp hmem ▸ hi)) second outcome hsecond
      cases hcourse₂ with
      | closed _ _ _ _ _ => cases hlast
      | matched _ _ _ _ _ _ _ _ _ _ _ _ => cases hlast
      | through _ hmain hopen₂ =>
          have hlog := c.shows_append host port hlog₁ hlog₂
          refine ⟨x, main₂, by simpa using hlog, by rw [List.map_cons, hmain], ?_, rfl⟩
          exact List.forall_mem_cons.mpr ⟨hopen₁ x List.mem_cons_self, hopen₂⟩

/-- The two passes of an open port, taken together and one instead of the other. -/
theorem resume_instead_of_open (x : Sending) (xs : List Sending) (hopen : ∀ y ∈ xs, y.IsOpen c) :
    resume (.opened (x.reading? c)) (c.lastOpen .notMatched xs) =
        .opened (c.lastReading (x :: xs)) ∧
      instead (.opened (x.reading? c)) (c.lastOpen .notMatched xs) =
        .opened (if xs = [] then c.lastReading [x] else c.lastReading xs) := by
  cases xs with
  | nil => rw [if_pos rfl, lastReading_cons]; exact ⟨rfl, rfl⟩
  | cons y ys =>
      rw [c.lastOpen_cons_eq y ys hopen, if_neg (List.cons_ne_nil y ys), c.lastReading_cons x]
      exact ⟨rfl, rfl⟩

/-! ## Silence -/

section

variable {c}

/-- When the peer says nothing, a walk keeps the last reply from before. -/
theorem plays_walk_silence (used : List Nat) (last : Option Reading) (places : List Nat)
    (hplaces : ∀ place ∈ places, c.IsPlace place) :
    ∃ log, (c.walk host port used (.opened last) places).Plays log (.opened last) := by
  induction places generalizing used with
  | nil => exact ⟨[], .done _⟩
  | cons place rest ih =>
      obtain ⟨hplace, hrest⟩ := List.forall_mem_cons.mp hplaces
      rw [walk]
      split_ifs
      · exact ih used hrest
      · obtain ⟨p, hp⟩ := hplace.exists_probe
        obtain ⟨first, hfirst⟩ := plays_sendOver host port (c.usesTls port place) hp silence
        obtain ⟨more, hmore⟩ := ih (place :: used) hrest
        rw [judge_silence] at hfirst
        exact ⟨first ++ more, (Dialog.plays_bind_iff _ _ _ _).mpr ⟨_, _, _, rfl, hfirst, hmore⟩⟩

/-- A peer may reply to the first probe in a way that is not recognised, and then say nothing. -/
theorem plays_passes_silence {first next : Nat} {rest : List Nat}
    (hplaces : ∀ place ∈ first :: next :: rest, c.IsPlace place) (hne : next ≠ first) {raw : Bytes}
    {tls : Bool} (hreply : (c.fingerprint raw tls first).isMatched = false) :
    ∃ log, (c.passes host port first (next :: rest)).Plays log
      (.opened (some ⟨raw, tls, c.fingerprint raw tls first⟩), .opened none) := by
  obtain ⟨hfirst, hrest⟩ := List.forall_mem_cons.mp hplaces
  obtain ⟨hnext, hrest⟩ := List.forall_mem_cons.mp hrest
  obtain ⟨p, hp⟩ := hfirst.exists_probe
  obtain ⟨q, hq⟩ := hnext.exists_probe
  have hjudge : c.judge first p.protocol (.ok (raw, tls)) =
      .opened (some ⟨raw, tls, c.fingerprint raw tls first⟩) := by
    rw [judge]
    exact if_neg (by simp [hreply])
  obtain ⟨log₁, hlog₁⟩ := plays_sendOver host port (c.usesTls port first) hp (.ok (raw, tls))
  obtain ⟨log₂, hlog₂⟩ := plays_sendOver host port (c.usesTls port next) hq silence
  obtain ⟨log₃, hlog₃⟩ := plays_walk_silence host port [next, first] none rest hrest
  rw [hjudge] at hlog₁
  rw [judge_silence] at hlog₂
  have hone : (c.walk host port [] .notMatched [first]).Plays (log₁ ++ [])
      (.opened (some ⟨raw, tls, c.fingerprint raw tls first⟩)) := by
    rw [walk, if_neg (by simp)]
    exact (Dialog.plays_bind_iff _ _ _ _).mpr ⟨_, _, _, rfl, hlog₁, .done _⟩
  have htwo : (c.walk host port [first] .notMatched (next :: rest)).Plays (log₂ ++ log₃)
      (.opened none) := by
    rw [walk, if_neg (by simpa using hne)]
    exact (Dialog.plays_bind_iff _ _ _ _).mpr ⟨_, _, _, rfl, hlog₂, hlog₃⟩
  have hboth : (c.walk host port [first] .notMatched (next :: rest) >>= fun outcome =>
      (pure (.opened (some ⟨raw, tls, c.fingerprint raw tls first⟩), outcome) :
        ProbeDialog (ScanOutcome × ScanOutcome))).Plays ((log₂ ++ log₃) ++ [])
      (.opened (some ⟨raw, tls, c.fingerprint raw tls first⟩), .opened none) :=
    (Dialog.plays_bind_iff _ _ _ _).mpr ⟨_, _, _, rfl, htwo, .done _⟩
  exact ⟨_, (Dialog.plays_bind_iff _ _ _ _).mpr ⟨_, _, _, rfl, hone, hboth⟩⟩

end

/-! ## A scan -/

/-- A scan and a single walk send the same and get the same replies.  They report the same unless
the port is left open, and then each reports a last reply: the walk that of all probes, and the scan
that of all but the first one where there are others. -/
theorem run_walkAll {σ : Type} (peer : Dialog.Peer ProbeRequest ProbeReply σ) (s : σ)
    (places : List Nat) (hplaces : ∀ place ∈ places, c.IsPlace place) (hnodup : places.Nodup) :
    let scan := (c.walkAll host port places).run peer s
    let walk := (c.walk host port [] .notMatched places).run peer s
    walk.sent = scan.sent ∧ walk.state = scan.state ∧
    ((∀ last, scan.result ≠ .opened last) → walk.result = scan.result) ∧
    ∀ last, scan.result = .opened last → ∃ first rest,
      c.Shows host port (first :: rest) ((c.walkAll host port places).exchanges peer s) ∧
      (first :: rest).map Sending.place = places ∧ (∀ x ∈ first :: rest, x.IsOpen c) ∧
      walk.result = .opened (c.lastReading (first :: rest)) ∧
      last = if rest = [] then c.lastReading [first] else c.lastReading rest := by
  cases places with
  | nil => exact ⟨rfl, rfl, fun _ => rfl, fun last h => by cases h⟩
  | cons first rest =>
      have hplays := Dialog.plays_run peer s (c.passes host port first rest)
      dsimp only
      rw [walkAll_eq_map, walk_eq_map_passes, Dialog.run_map, Dialog.run_map, Dialog.exchanges_map]
      generalize hrun : (c.passes host port first rest).run peer s = run at hplays ⊢
      obtain ⟨⟨seen, outcome⟩, sent, state⟩ := run
      refine ⟨rfl, rfl, fun hnever => ?_, fun last hlast => ?_⟩
      · -- The two ways of putting the passes together only differ where the second one is open.
        cases outcome with
        | notMatched => rfl
        | closed => rfl
        | opened last => exact absurd rfl (hnever last)
        | matched reading => rfl
      · obtain ⟨x, xs, hlog, horder, hopen, hp⟩ :=
          c.passes_course host port first rest hplaces hnodup _ _ hplays last hlast
        obtain ⟨rfl, rfl⟩ := Prod.mk.inj hp
        obtain ⟨hresume, hinstead⟩ :=
          c.resume_instead_of_open x xs fun y hy => hopen y (List.mem_cons_of_mem _ hy)
        refine ⟨x, xs, hlog, horder, hopen, hresume, ?_⟩
        rw [hinstead] at hlast
        exact (ScanOutcome.opened.inj hlast).symm

/-- A scan of a TCP port that is not excluded, beside a single walk along the selection.  Whatever
the peer answers, both send the same and get the same replies, and unless the port is left open they
report the same.  When it is left open, the walk reports the last reply that any probe had, and the
scan does so only among the probes after the first one, where there are any.  So a reply can be
lost, unless there are no others or no reply to the first one is left unrecognised. -/
theorem scan_open_reply (c : Catalog) (host text : String) (port level : Nat)
    (hport : port? text = some (port, false)) (hexcluded : c.excluded.contains port = false) :
    (∀ (σ : Type) (peer : Dialog.Peer ProbeRequest ProbeReply σ) (s : σ),
      let scan := (c.scan host text level).run peer s
      let walk := (c.walk host port [] .notMatched (c.select port level)).run peer s
      walk.sent = scan.sent ∧ walk.state = scan.state ∧
      ((∀ last, scan.result ≠ .opened last) → walk.result = scan.result) ∧
      ∀ last, scan.result = .opened last → ∃ first rest,
        c.Shows host port (first :: rest) ((c.scan host text level).exchanges peer s) ∧
        (first :: rest).map Sending.place = c.select port level ∧
        walk.result = .opened (c.lastReading (first :: rest)) ∧
        last = if rest = [] then c.lastReading [first] else c.lastReading rest) ∧
    ((∀ (σ : Type) (peer : Dialog.Peer ProbeRequest ProbeReply σ) (s : σ),
        ((c.walk host port [] .notMatched (c.select port level)).run peer s).result =
          ((c.scan host text level).run peer s).result) ↔
      ∀ first next rest, c.select port level = first :: next :: rest →
        ∀ raw tls, (c.fingerprint raw tls first).isMatched = true) := by
  rw [c.scan_of_tcp host level hport hexcluded]
  have hplaces : ∀ place ∈ c.select port level, c.IsPlace place := fun _ =>
    c.sound.isPlace_of_mem_select
  have hnodup := c.nodup_select port level
  refine ⟨fun σ peer s => ?_, fun hsame first next rest hselect raw tls => ?_,
    fun hrecognised σ peer s => ?_⟩
  · obtain ⟨hsent, hstate, hsettled, hopened⟩ := c.run_walkAll host port peer s _ hplaces hnodup
    refine ⟨hsent, hstate, hsettled, fun last hlast => ?_⟩
    obtain ⟨x, xs, hlog, horder, -, hwalk, hscan⟩ := hopened last hlast
    exact ⟨x, xs, hlog, horder, hwalk, hscan⟩
  · rw [hselect] at hsame hplaces hnodup
    by_contra hreply
    have hne : next ≠ first := fun h =>
      (List.nodup_cons.mp hnodup).1 (h ▸ List.mem_cons_self)
    obtain ⟨log, hlog⟩ :=
      plays_passes_silence host port hplaces hne (Bool.eq_false_iff.mpr hreply)
    have hdiffer := hsame _ (Dialog.scripted silence) (log.map Prod.snd)
    rw [walkAll_eq_map, walk_eq_map_passes, Dialog.run_map, Dialog.run_map,
      Dialog.result_scripted silence hlog] at hdiffer
    cases hdiffer
  · obtain ⟨-, -, hsettled, hopened⟩ := c.run_walkAll host port peer s _ hplaces hnodup
    by_cases hopen : ∃ last,
        ((c.walkAll host port (c.select port level)).run peer s).result = .opened last
    · obtain ⟨last, hlast⟩ := hopen
      obtain ⟨x, xs, -, horder, hxs, hwalk, hscan⟩ := hopened last hlast
      rw [hwalk, hlast, hscan]
      cases xs with
      | nil => rw [if_pos rfl]
      | cons y ys =>
          -- The first probe had no reply, since any would have been recognised.
          have hnone : x.reading? c = none := by
            cases hreply : x.reply with
            | error e => rw [Sending.reading?, hreply]
            | ok answer =>
                obtain ⟨raw, tls⟩ := answer
                have hplace : c.IsPlace x.place := hplaces _ (horder ▸ List.mem_cons_self)
                have hmatched := hrecognised _ _ _ horder.symm raw tls
                have hmatches : x.Matches c ⟨raw, tls, c.fingerprint raw tls x.place⟩ :=
                  ⟨raw, tls, hreply, rfl, hmatched⟩
                exact absurd hmatches
                  (((x.isOpen_iff c hplace).mp (hxs x List.mem_cons_self)).2 _)
          rw [if_neg (List.cons_ne_nil y ys), lastReading_cons, hnone, Option.or_none]
    · exact hsettled fun last hlast => hopen ⟨last, hlast⟩

/-- Two probes without rules. -/
def twoProbes : Catalog :=
  .ofProbes
    [{ Probe.new .tcp "One" [] with rarity := 1 }, { Probe.new .tcp "Two" [] with rarity := 1 }]

/-- A peer that replies once and is silent from there on. -/
def oneReply : List ProbeReply := [.ok (Utf8.encode "hi", false)]

/-- The first probe has a reply and the second one has none, and the scan reports no reply. -/
theorem scan_open_reply_of_late_silence :
    port? "80" = some (80, false) ∧ twoProbes.excluded.contains 80 = false ∧
    ((twoProbes.scan "localhost" "80" 1).run (Dialog.scripted silence) oneReply).result =
      .opened none ∧
    ∃ first rest reading,
      twoProbes.Shows "localhost" 80 (first :: rest)
        ((twoProbes.scan "localhost" "80" 1).exchanges (Dialog.scripted silence) oneReply) ∧
      twoProbes.lastReading (first :: rest) = some reading := by
  have hport : port? "80" = some (80, false) := rfl
  have hexcluded : twoProbes.excluded.contains 80 = false := rfl
  have hlost : ((twoProbes.scan "localhost" "80" 1).run (Dialog.scripted silence)
      oneReply).result.reading?.isNone = true := by
    decide +kernel
  have hkept : ((twoProbes.walk "localhost" 80 [] .notMatched (twoProbes.select 80 1)).run
      (Dialog.scripted silence) oneReply).result.reading?.isSome = true := by
    decide +kernel
  obtain ⟨hruns, -⟩ := scan_open_reply twoProbes "localhost" "80" 80 1 hport hexcluded
  obtain ⟨-, -, hsettled, hopened⟩ := hruns _ (Dialog.scripted silence) oneReply
  -- The two differ, so the port has been left open.
  obtain ⟨last, hlast⟩ : ∃ last, ((twoProbes.scan "localhost" "80" 1).run
      (Dialog.scripted silence) oneReply).result = .opened last := by
    by_contra hnever
    rw [hsettled fun last hlast => hnever ⟨last, hlast⟩, ← Option.not_isNone, hlost] at hkept
    cases hkept
  obtain ⟨first, rest, hlog, -, hwalk, -⟩ := hopened last hlast
  rw [hwalk] at hkept
  obtain ⟨reading, hreading⟩ := Option.isSome_iff_exists.mp hkept
  rw [hlast] at hlost
  obtain rfl : last = none := Option.isNone_iff_eq_none.mp hlost
  exact ⟨hport, hexcluded, hlast, first, rest, reading, hlog, hreading⟩

end Catalog

end Fingerprinting.Nmap
