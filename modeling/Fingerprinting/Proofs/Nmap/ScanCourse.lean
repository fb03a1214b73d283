/-
# The course of a scan

Which probes a scan sends, in which order, and what it makes of the replies.  A scan of a TCP port
walks along the selected probes until one closes the matter.  Only a match that finds TLS is
followed by more: probes that have not been used, to look inside, and at last a request for a web
page.

* `sendOver_bind_course` takes a dialog apart that sends a probe and goes on with the outcome;
* `lookInside_course` says what is sent inside TLS, and `walk_course` what a walk sends, each by
  induction on the places.
-/
import Fingerprinting.Nmap.Catalog
import Fingerprinting.Nmap.Scan
import Fingerprinting.Proofs.Nmap.Places
import Fingerprinting.Proofs.Transcript

namespace Fingerprinting.Nmap

open Tables

/-! ## Sendings -/

/-- A probe that was sent: its place, whether it went over TLS, and what came back. -/
structure Sending where
  place : Nat
  tls : Bool
  reply : ProbeReply

namespace Sending

/-- What passes between a scan and its peer when a probe is sent. -/
def exchange? (c : Catalog) (host : String) (port : Nat) (x : Sending) :
    Option (ProbeRequest × ProbeReply) :=
  (c.probes[x.place]?).map fun p => (⟨host, port, p.request host, x.tls, p.protocol⟩, x.reply)

/-- What a scan makes of the reply to a probe. -/
def outcome (c : Catalog) (x : Sending) : ScanOutcome :=
  match c.probes[x.place]? with
  | some p => c.judge x.place p.protocol x.reply
  | none => .notMatched

/-- Whether a reply leaves the matter open. -/
def IsOpen (c : Catalog) (x : Sending) : Prop := ∃ last, x.outcome c = .opened last

end Sending

namespace Catalog

variable (c : Catalog) (host : String) (port : Nat)

/-- A transcript is that of some sendings. -/
def Shows (xs : List Sending) (log : List (ProbeRequest × ProbeReply)) : Prop :=
  xs.map (Sending.exchange? c host port) = log.map some

theorem shows_append {xs ys : List Sending} {log more : List (ProbeRequest × ProbeReply)}
    (hxs : c.Shows host port xs log) (hys : c.Shows host port ys more) :
    c.Shows host port (xs ++ ys) (log ++ more) := by
  rw [Shows, List.map_append, List.map_append, hxs, hys]

theorem length_of_shows {xs : List Sending} {log : List (ProbeRequest × ProbeReply)}
    (h : c.Shows host port xs log) : xs.length = log.length := by
  simpa using congrArg List.length h

/-- All sendings go to one port of one host. -/
theorem target_of_shows {xs : List Sending} {log : List (ProbeRequest × ProbeReply)}
    (h : c.Shows host port xs log) : ∀ e ∈ log, e.1.host = host ∧ e.1.port = port := by
  intro e he
  have hmem : some e ∈ xs.map (Sending.exchange? c host port) := h ▸ List.mem_map_of_mem he
  obtain ⟨x, -, hx⟩ := List.mem_map.mp hmem
  obtain ⟨p, -, rfl⟩ := Option.map_eq_some_iff.mp hx
  exact ⟨rfl, rfl⟩

/-! ## One probe -/

/-- A match has a service. -/
theorem service_of_judge (place : Nat) (protocol : Protocol) (reply : ProbeReply) (r : Reading)
    (h : c.judge place protocol reply = .matched r) : r.fingerprint.service ≠ "" := by
  cases reply with
  | error e =>
      rw [judge] at h
      split at h <;> cases h
  | ok answer =>
      rw [judge] at h
      split at h
      · rename_i hmatched
        cases h
        simpa [Fingerprint.isMatched] using hmatched
      · cases h

/-- A reply that is recognised as that of a service is a match. -/
theorem judge_of_service (place : Nat) (protocol : Protocol) {raw : Bytes} {tls : Bool}
    {service : String} (h : (c.fingerprint raw tls place).service = service) (hne : service ≠ "") :
    c.judge place protocol (.ok (raw, tls)) = .matched ⟨raw, tls, c.fingerprint raw tls place⟩ := by
  have hmatched : (c.fingerprint raw tls place).isMatched = true := by
    rw [Fingerprint.isMatched, h]
    exact bne_iff_ne.mpr hne
  rw [judge]
  exact if_pos hmatched

/-- A probe that recognises a reply itself says what it is; a web server inside TLS is named for
that. -/
theorem service_of_respond (t : Tables) {place : Nat} {p : Probe} (hp : t.probes[place]? = some p)
    (raw : Bytes) (tls : Bool) {service : String} (h : (p.respond raw).service = service)
    (hne : service ≠ "") :
    (t.fingerprint raw tls place).service =
      if tls ∧ service = "http" then "https" else service := by
  have hmatched : (p.respond raw).isMatched = true := by
    rw [Fingerprint.isMatched, h]
    exact bne_iff_ne.mpr hne
  have hrecognise : t.recognise raw (t.path place) = p.respond raw := by
    simp only [path, pathFrom, List.contains_nil, Bool.false_eq_true, if_false, recognise, hp]
    exact if_pos hmatched
  rw [fingerprint, hrecognise]
  dsimp only
  rw [h]
  split_ifs
  · rfl
  · exact h

/-- The reply of a peer that says nothing in time. -/
def silence : ProbeReply := .error (.reported .timeout "")

/-- Silence leaves the matter open. -/
theorem judge_silence (place : Nat) (protocol : Protocol) :
    c.judge place protocol silence = .opened none := by
  have hsilence : saysClosed (.reported .timeout "") protocol = false := by
    cases protocol <;> decide +kernel
  rw [silence, judge, hsilence]
  rfl

/-- Of a probe that was sent something is known. -/
theorem judge_ne_notMatched (place : Nat) (protocol : Protocol) (reply : ProbeReply) :
    c.judge place protocol reply ≠ .notMatched := by
  cases reply with
  | error e =>
      rw [judge]
      split <;> simp
  | ok answer =>
      rw [judge]
      split <;> simp

end Catalog

namespace Sending

/-- A match has a service. -/
theorem service_of_outcome (c : Catalog) (x : Sending) (r : Reading)
    (h : x.outcome c = .matched r) : r.fingerprint.service ≠ "" := by
  rw [outcome] at h
  split at h
  · exact c.service_of_judge _ _ _ r h
  · cases h

/-- Of a probe that was sent something is known. -/
theorem outcome_ne_notMatched (c : Catalog) (x : Sending) (hplace : c.IsPlace x.place) :
    x.outcome c ≠ .notMatched := by
  rw [outcome, List.getElem?_eq_getElem hplace]
  exact c.judge_ne_notMatched _ _ _

end Sending

namespace Catalog

variable (c : Catalog) (host : String) (port : Nat)

/-- Sending a probe is one exchange, and the dialog goes on with what is made of the reply. -/
theorem sendOver_bind_course {α : Type} (tls : Bool) (place : Nat) (hplace : c.IsPlace place)
    (next : ScanOutcome → ProbeDialog α) (log : List (ProbeRequest × ProbeReply)) (a : α)
    (h : (c.sendOver host port tls place >>= next).Plays log a) :
    ∃ (x : Sending) (first more : List (ProbeRequest × ProbeReply)), x.place = place ∧ x.tls = tls ∧
      log = first ++ more ∧ c.Shows host port [x] first ∧ (next (x.outcome c)).Plays more a := by
  have hprobe : c.probes[place]? = some c.probes[place] := List.getElem?_eq_getElem hplace
  obtain ⟨first, more, outcome, rfl, hfirst, hmore⟩ := (Dialog.plays_bind_iff _ _ _ _).mp h
  rw [sendOver, hprobe, Dialog.plays_ask_iff] at hfirst
  obtain ⟨reply, rest, rfl, hrest⟩ := hfirst
  obtain ⟨rfl, rfl⟩ := (Dialog.plays_done_iff _ _ _).mp hrest
  have hout : (⟨place, tls, reply⟩ : Sending).outcome c =
      c.judge place c.probes[place].protocol reply := by
    simp [Sending.outcome, hprobe]
  refine ⟨⟨place, tls, reply⟩, _, more, rfl, rfl, rfl, ?_, ?_⟩
  · simp [Shows, Sending.exchange?, hprobe]
  · rw [hout]
    exact hmore

/-- Sending a probe is one request, and its result is what is made of the first of the replies that
the peer has left. -/
theorem run_sendOver_scripted (tls : Bool) {place : Nat} {p : Probe}
    (hp : c.probes[place]? = some p) (last reply : ProbeReply) (rest : List ProbeReply) :
    (c.sendOver host port tls place).run (Dialog.scripted last) (reply :: rest) =
      ⟨c.judge place p.protocol reply, [⟨host, port, p.request host, tls, p.protocol⟩], rest⟩ := by
  rw [sendOver, hp]
  rfl

/-! ## Inside TLS -/

/-- A place that does not occur need not be excepted. -/
theorem filter_not_contains_cons {place : Nat} {places : List Nat} (hfresh : place ∉ places)
    (used : List Nat) :
    (places.filter fun i => !(place :: used).contains i) =
      places.filter fun i => !used.contains i := by
  apply List.filter_congr
  intro i hi
  have hne : i ≠ place := fun heq => hfresh (heq ▸ hi)
  simp [hne]

/-- What is sent to look inside TLS after the probes at some places: others of those inside TLS, in
order, and after them at most one request for a web page, over TLS. -/
structure InsideCourse (sent : List Nat) (inside web : List Sending) : Prop where
  order : inside.map Sending.place <+: c.insidePlaces.filter fun place => !sent.contains place
  tls : ∀ x ∈ inside, x.tls = c.usesTls port x.place
  web : web = [] ∨ ∃ x, web = [x] ∧ c.place? Tuning.webProbe = some x.place ∧ x.tls = true

/-- Only which places have been used matters. -/
theorem InsideCourse.congr {sent sent' : List Nat} {inside web : List Sending}
    (h : c.InsideCourse port sent inside web) (hsame : ∀ place, place ∈ sent ↔ place ∈ sent') :
    c.InsideCourse port sent' inside web where
  order := by
    have hfilter : (c.insidePlaces.filter fun place => !sent.contains place) =
        c.insidePlaces.filter fun place => !sent'.contains place := by
      apply List.filter_congr
      intro place _
      simp [hsame place]
    rw [← hfilter]
    exact h.order
  tls := h.tls
  web := h.web

/-- The search among some places sends probes that have not been used, in order, and finds nothing
without a service. -/
theorem findInside_course (used places : List Nat) (hplaces : ∀ place ∈ places, c.IsPlace place)
    (hnodup : places.Nodup) (log : List (ProbeRequest × ProbeReply)) (found : Option Reading)
    (h : (c.findInside host port used places).Plays log found) :
    ∃ xs, c.Shows host port xs log ∧
      xs.map Sending.place <+: places.filter (fun place => !used.contains place) ∧
      (∀ x ∈ xs, x.tls = c.usesTls port x.place) ∧
      ∀ r, found = some r → r.fingerprint.service ≠ "" := by
  induction places generalizing used log with
  | nil =>
      obtain ⟨rfl, rfl⟩ := (Dialog.plays_done_iff _ _ _).mp h
      exact ⟨[], rfl, List.nil_prefix, by simp, by simp⟩
  | cons place rest ih =>
      have hrest : ∀ place ∈ rest, c.IsPlace place := fun i hi =>
        hplaces i (List.mem_cons_of_mem _ hi)
      obtain ⟨hfresh, hdistinct⟩ := List.nodup_cons.mp hnodup
      -- A place that has been used is skipped, and the filter skips it too.
      by_cases hused : used.contains place
      · rw [findInside, if_pos hused] at h
        obtain ⟨xs, hshows, horder, hxs⟩ := ih used hrest hdistinct log h
        refine ⟨xs, hshows, ?_, hxs⟩
        rw [List.filter_cons_of_neg (by simpa using hused)]
        exact horder
      · rw [findInside, if_neg hused] at h
        obtain ⟨x, first, more, rfl, htls, rfl, hshows, hmore⟩ :=
          c.sendOver_bind_course host port _ _ (hplaces _ List.mem_cons_self) _ log found h
        have hstep : [x].map Sending.place <+:
            (x.place :: rest).filter fun place => !used.contains place := by
          rw [List.filter_cons_of_pos (by simpa using hused)]
          exact List.prefix_cons_inj _ |>.mpr List.nil_prefix
        have htls' : ∀ y ∈ [x], y.tls = c.usesTls port y.place :=
          List.forall_mem_singleton.mpr htls
        cases hout : x.outcome c with
        | closed =>
            rw [hout] at hmore
            obtain ⟨rfl, rfl⟩ := (Dialog.plays_pure_iff _ _ _).mp hmore
            exact ⟨[x], by simpa using hshows, hstep, htls', by simp⟩
        | matched reading =>
            rw [hout] at hmore
            obtain ⟨rfl, rfl⟩ := (Dialog.plays_pure_iff _ _ _).mp hmore
            refine ⟨[x], by simpa using hshows, hstep, htls', ?_⟩
            intro r hr
            cases hr
            exact x.service_of_outcome c reading hout
        | notMatched => exact absurd hout (x.outcome_ne_notMatched c (hplaces _ List.mem_cons_self))
        | opened last =>
            rw [hout] at hmore
            obtain ⟨xs, hshows', horder, hxs, hfound⟩ :=
              ih (x.place :: used) hrest hdistinct more hmore
            refine ⟨x :: xs, c.shows_append host port hshows hshows', ?_,
              List.forall_mem_cons.mpr ⟨htls, hxs⟩, hfound⟩
            rw [List.filter_cons_of_pos (by simpa using hused), List.map_cons]
            rw [filter_not_contains_cons hfresh] at horder
            exact (List.prefix_cons_inj _).mpr horder

/-- A request for a web page is one sending, over TLS. -/
theorem askWeb_course (log : List (ProbeRequest × ProbeReply)) (found : Option Reading)
    (h : (c.askWeb host port).Plays log found) :
    ∃ web, c.Shows host port web log ∧
      (web = [] ∨ ∃ x, web = [x] ∧ c.place? Tuning.webProbe = some x.place ∧ x.tls = true) ∧
      ∀ r, found = some r → r.fingerprint.service ≠ "" := by
  rw [askWeb] at h
  cases hplace : c.place? Tuning.webProbe with
  | none =>
      rw [hplace] at h
      obtain ⟨rfl, rfl⟩ := (Dialog.plays_done_iff _ _ _).mp h
      exact ⟨[], rfl, .inl rfl, by simp⟩
  | some place =>
      rw [hplace] at h
      obtain ⟨x, first, more, rfl, htls, rfl, hshows, hmore⟩ :=
        c.sendOver_bind_course host port _ _ (c.sound.isPlace_of_place? hplace) _ log found h
      have hfound : more = [] ∧ ∀ r, found = some r → x.outcome c = .matched r := by
        cases hout : x.outcome c with
        | matched reading =>
            rw [hout] at hmore
            obtain ⟨rfl, rfl⟩ := (Dialog.plays_pure_iff _ _ _).mp hmore
            refine ⟨rfl, fun r hr => ?_⟩
            cases hr
            rfl
        | notMatched =>
            rw [hout] at hmore
            obtain ⟨rfl, rfl⟩ := (Dialog.plays_pure_iff _ _ _).mp hmore
            exact ⟨rfl, by simp⟩
        | closed =>
            rw [hout] at hmore
            obtain ⟨rfl, rfl⟩ := (Dialog.plays_pure_iff _ _ _).mp hmore
            exact ⟨rfl, by simp⟩
        | opened last =>
            rw [hout] at hmore
            obtain ⟨rfl, rfl⟩ := (Dialog.plays_pure_iff _ _ _).mp hmore
            exact ⟨rfl, by simp⟩
      obtain ⟨rfl, hmatched⟩ := hfound
      exact ⟨[x], by simpa using hshows, .inr ⟨x, rfl, rfl, htls⟩, fun r hr =>
        x.service_of_outcome c r (hmatched r hr)⟩

/-- What is reported for something inside TLS has a service. -/
theorem service_of_inside? (r better : Reading) (h : inside? r = some better)
    (hr : r.fingerprint.service ≠ "") : better.fingerprint.service ≠ "" := by
  rw [inside?] at h
  split_ifs at h
  · cases h
    simp
  · cases h
    exact hr

/-- A look inside TLS sends what an `InsideCourse` says, and reports nothing without a service. -/
theorem lookInside_course (used : List Nat) (log : List (ProbeRequest × ProbeReply))
    (found : Option Reading) (h : (c.lookInside host port used).Plays log found) :
    ∃ inside web, c.Shows host port (inside ++ web) log ∧ c.InsideCourse port used inside web ∧
      ∀ r, found = some r → r.fingerprint.service ≠ "" := by
  obtain ⟨first, more, seen, rfl, hfirst, hmore⟩ := (Dialog.plays_bind_iff _ _ _ _).mp h
  obtain ⟨inside, hinside, horder, htls, hseen⟩ :=
    c.findInside_course host port used c.insidePlaces c.sound.inside c.sound.nodup_inside first seen
      hfirst
  -- Either the page is asked for, or the search has found something that is not TLS again.
  obtain ⟨web, best, hweb, hpage, hbest, rfl⟩ : ∃ web best, c.Shows host port web more ∧
      (web = [] ∨ ∃ x, web = [x] ∧ c.place? Tuning.webProbe = some x.place ∧ x.tls = true) ∧
      (∀ r, best = some r → r.fingerprint.service ≠ "") ∧ found = best.bind inside? := by
    simp only at hmore
    split at hmore
    · obtain ⟨second, last, best, rfl, hsecond, hlast⟩ := (Dialog.plays_bind_iff _ _ _ _).mp hmore
      obtain ⟨rfl, rfl⟩ := (Dialog.plays_pure_iff _ _ _).mp hlast
      obtain ⟨web, hweb, hpage, hbest⟩ := c.askWeb_course host port second best hsecond
      exact ⟨web, best, by simpa using hweb, hpage, hbest, rfl⟩
    · obtain ⟨rfl, rfl⟩ := (Dialog.plays_pure_iff _ _ _).mp hmore
      exact ⟨[], seen, rfl, .inl rfl, hseen, rfl⟩
  refine ⟨inside, web, c.shows_append host port hinside hweb, ⟨horder, htls, hpage⟩, ?_⟩
  intro better hbetter
  obtain ⟨r, hr, hinside⟩ := Option.bind_eq_some_iff.mp hbetter
  exact service_of_inside? r better hinside (hbest r hr)

/-! ## Walks -/

/-- What the replies to some probes come to that leave the matter open. -/
def lastOpen (seen : ScanOutcome) (xs : List Sending) : ScanOutcome :=
  xs.foldl (fun seen x => later seen (x.outcome c)) seen

/-- What is sent along some places, and what is reported.  `conclude` says what it comes to if every
reply leaves the matter open. -/
inductive WalkCourse (used places : List Nat) (conclude : List Sending → ScanOutcome) :
    List Sending → List Sending → List Sending → ScanOutcome → Prop where
  | through (main : List Sending) (hplaces : main.map Sending.place = places)
      (hopen : ∀ x ∈ main, x.IsOpen c) :
      WalkCourse used places conclude main [] [] (conclude main)
  | closed (before : List Sending) (x : Sending)
      (hplaces : (before ++ [x]).map Sending.place <+: places)
      (hopen : ∀ y ∈ before, y.IsOpen c) (hx : x.outcome c = .closed) :
      WalkCourse used places conclude (before ++ [x]) [] [] .closed
  | matched (before : List Sending) (x : Sending) (inside web : List Sending) (r best : Reading)
      (hplaces : (before ++ [x]).map Sending.place <+: places)
      (hopen : ∀ y ∈ before, y.IsOpen c) (hx : x.outcome c = .matched r)
      (hinside : c.InsideCourse port (used ++ (before ++ [x]).map Sending.place) inside web)
      (htls : r.fingerprint.service ≠ tlsService → inside ++ web = [] ∧ best = r)
      (hbest : best.fingerprint.service ≠ "") :
      WalkCourse used places conclude (before ++ [x]) inside web (.matched best)

/-- A reply that leaves the matter open comes before the rest of a walk. -/
theorem WalkCourse.cons {used places : List Nat} {conclude conclude' : List Sending → ScanOutcome}
    {main inside web : List Sending} {outcome : ScanOutcome} (x : Sending) (hx : x.IsOpen c)
    (hconclude : ∀ xs, conclude' (x :: xs) = conclude xs)
    (h : c.WalkCourse port (x.place :: used) places conclude main inside web outcome) :
    c.WalkCourse port used (x.place :: places) conclude' (x :: main) inside web outcome := by
  have hcons {before : List Sending} (hbefore : ∀ y ∈ before, y.IsOpen c) :
      ∀ y ∈ x :: before, y.IsOpen c :=
    List.forall_mem_cons.mpr ⟨hx, hbefore⟩
  cases h with
  | through main hplaces hopen =>
      rw [← hconclude]
      refine .through (x :: main) ?_ (hcons hopen)
      rw [List.map_cons, hplaces]
  | closed before y hplaces hopen hy =>
      exact .closed (x :: before) y ((List.prefix_cons_inj _).mpr hplaces) (hcons hopen) hy
  | matched before y inside web r best hplaces hopen hy hinside htls hbest =>
      refine .matched (x :: before) y inside web r best ((List.prefix_cons_inj _).mpr hplaces)
        (hcons hopen) hy (hinside.congr c port fun place => ?_) htls hbest
      simp only [List.mem_append, List.mem_cons, List.map_cons, List.cons_append]
      exact or_left_comm

/-- What comes after a match: nothing, or a look inside TLS, which can only better what has been
found. -/
theorem afterMatch_course (used : List Nat) (r : Reading) (hr : r.fingerprint.service ≠ "")
    (log : List (ProbeRequest × ProbeReply)) (outcome : ScanOutcome)
    (h : Dialog.Plays
      (if r.fingerprint.service = tlsService then do
        match ← c.lookInside host port used with
        | some better => pure (.matched better)
        | none => pure (.matched r)
      else pure (.matched r)) log outcome) :
    ∃ inside web best, c.Shows host port (inside ++ web) log ∧
      c.InsideCourse port used inside web ∧
      (r.fingerprint.service ≠ tlsService → inside ++ web = [] ∧ best = r) ∧
      best.fingerprint.service ≠ "" ∧ outcome = .matched best := by
  by_cases hservice : r.fingerprint.service = tlsService
  · rw [if_pos hservice, Dialog.plays_bind_iff] at h
    obtain ⟨first, more, found, rfl, hfirst, hmore⟩ := h
    obtain ⟨inside, web, hlook, hinside, hfound⟩ :=
      c.lookInside_course host port used first found hfirst
    cases found with
    | none =>
        obtain ⟨rfl, rfl⟩ := (Dialog.plays_pure_iff _ _ _).mp hmore
        exact ⟨inside, web, r, by simpa using hlook, hinside, absurd hservice, hr, rfl⟩
    | some better =>
        obtain ⟨rfl, rfl⟩ := (Dialog.plays_pure_iff _ _ _).mp hmore
        exact ⟨inside, web, better, by simpa using hlook, hinside, absurd hservice,
          hfound better rfl, rfl⟩
  · rw [if_neg hservice] at h
    obtain ⟨rfl, rfl⟩ := (Dialog.plays_pure_iff _ _ _).mp h
    exact ⟨[], [], r, rfl, ⟨List.nil_prefix, by simp, .inl rfl⟩, fun _ => ⟨rfl, rfl⟩, hr, rfl⟩

/-- A walk sends probes in order until a reply closes the matter; it looks inside TLS after a match
of TLS only. -/
theorem walk_course (used : List Nat) (seen : ScanOutcome) (places : List Nat)
    (hplaces : ∀ place ∈ places, c.IsPlace place) (hnodup : places.Nodup)
    (hfresh : ∀ place ∈ places, place ∉ used) (log : List (ProbeRequest × ProbeReply))
    (outcome : ScanOutcome) (h : (c.walk host port used seen places).Plays log outcome) :
    ∃ main inside web, c.Shows host port (main ++ inside ++ web) log ∧
      (∀ x ∈ main, x.tls = c.usesTls port x.place) ∧
      c.WalkCourse port used places (c.lastOpen seen) main inside web outcome := by
  induction places generalizing used seen log with
  | nil =>
      obtain ⟨rfl, rfl⟩ := (Dialog.plays_done_iff _ _ _).mp h
      exact ⟨[], [], [], rfl, by simp, .through [] rfl (by simp)⟩
  | cons place rest ih =>
      have hused : ¬ used.contains place = true := by
        simpa using hfresh place List.mem_cons_self
      have hrest : ∀ place ∈ rest, c.IsPlace place := fun i hi =>
        hplaces i (List.mem_cons_of_mem _ hi)
      obtain ⟨hother, hdistinct⟩ := List.nodup_cons.mp hnodup
      rw [walk, if_neg hused] at h
      obtain ⟨x, first, more, rfl, htls, rfl, hshows, hmore⟩ :=
        c.sendOver_bind_course host port _ _ (hplaces _ List.mem_cons_self) _ log outcome h
      -- A reply that closes the matter ends the walk after one sending.
      have hstep : ([] ++ [x]).map Sending.place <+: x.place :: rest :=
        (List.prefix_cons_inj _).mpr List.nil_prefix
      have htls' : ∀ y ∈ [] ++ [x], y.tls = c.usesTls port y.place :=
        List.forall_mem_singleton.mpr htls
      cases hout : x.outcome c with
      | closed =>
          rw [hout] at hmore
          obtain ⟨rfl, rfl⟩ := (Dialog.plays_pure_iff _ _ _).mp hmore
          exact ⟨[] ++ [x], [], [], by simpa using hshows, htls',
            .closed [] x hstep (by simp) hout⟩
      | matched reading =>
          rw [hout] at hmore
          obtain ⟨inside, web, best, hlook, hinside, htls'', hbest, rfl⟩ :=
            c.afterMatch_course host port (x.place :: used) reading
              (x.service_of_outcome c reading hout) more outcome hmore
          refine ⟨[] ++ [x], inside, web, ?_, htls', .matched [] x inside web reading best hstep
            (by simp) hout (hinside.congr c port fun i => ?_) htls'' hbest⟩
          · rw [List.append_assoc]
            exact c.shows_append host port hshows hlook
          · simp [or_comm]
      | notMatched => exact absurd hout (x.outcome_ne_notMatched c (hplaces _ List.mem_cons_self))
      | opened last =>
          rw [hout] at hmore
          -- The rest of the walk has one place more behind it, which is none of its own.
          have hfresh' : ∀ i ∈ rest, i ∉ x.place :: used := by
            intro i hi hmem
            rcases List.mem_cons.mp hmem with rfl | hmem
            · exact hother hi
            · exact hfresh i (List.mem_cons_of_mem _ hi) hmem
          obtain ⟨main, inside, web, hlog, hmain, hcourse⟩ :=
            ih (x.place :: used) (later seen (.opened last)) hrest hdistinct hfresh' more hmore
          have hlog' : c.Shows host port ([x] ++ (main ++ inside ++ web)) (first ++ more) :=
            c.shows_append host port hshows hlog
          refine ⟨x :: main, inside, web, hlog', List.forall_mem_cons.mpr ⟨htls, hmain⟩,
            hcourse.cons c port x ⟨last, hout⟩ fun xs => ?_⟩
          -- The walk went on with what has been seen so far and this reply.
          rw [lastOpen, List.foldl_cons, hout]
          rfl

end Catalog

end Fingerprinting.Nmap
