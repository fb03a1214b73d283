/-
# Scans of TCP ports

What a scan of a TCP port sends and reports, whatever its peer answers.  The first of the selected
probes has a walk of its own, and so have the others; together they are one walk along the
selection.

* `walkAll_course` joins the two walks;
* `scan_course` reads off what is sent, how often, and when each outcome is reported.
-/
import Mathlib
import Fingerprinting.Proofs.Nmap.ScanCourse

namespace Fingerprinting.Nmap

open Tables

/-! ## Replies -/

namespace Sending

/-- A probe was answered by an error that says that the port is closed. -/
def IsClosed (c : Catalog) (x : Sending) : Prop :=
  ∃ p e, c.probes[x.place]? = some p ∧ x.reply = .error e ∧ saysClosed e p.protocol = true

/-- The reply to a probe is recognised. -/
def Matches (c : Catalog) (x : Sending) (r : Reading) : Prop :=
  ∃ raw tls, x.reply = .ok (raw, tls) ∧ r = ⟨raw, tls, c.fingerprint raw tls x.place⟩ ∧
    r.fingerprint.isMatched = true

theorem outcome_eq_closed_iff (c : Catalog) (x : Sending) :
    x.outcome c = .closed ↔ x.IsClosed c := by
  obtain ⟨place, tls, reply⟩ := x
  cases hp : c.probes[place]? with
  | none => simp [outcome, IsClosed, hp]
  | some p =>
      cases reply with
      | error e => simp [outcome, IsClosed, hp, Tables.judge]
      | ok answer =>
          simp only [outcome, IsClosed, hp, Tables.judge]
          split <;> simp

theorem outcome_eq_matched_iff (c : Catalog) (x : Sending) (hplace : c.IsPlace x.place)
    (r : Reading) : x.outcome c = .matched r ↔ x.Matches c r := by
  obtain ⟨place, tls, reply⟩ := x
  have hp : c.probes[place]? = some c.probes[place] := List.getElem?_eq_getElem hplace
  cases reply with
  | error e =>
      simp only [outcome, Matches, hp, Tables.judge]
      split <;> simp
  | ok answer =>
      obtain ⟨raw, tls⟩ := answer
      simp only [outcome, Matches, hp, Tables.judge]
      constructor
      · intro h
        split at h
        · rename_i hmatched
          cases h
          exact ⟨raw, tls, rfl, rfl, hmatched⟩
        · cases h
      · rintro ⟨raw', over', hreply, rfl, hmatched⟩
        cases hreply
        rw [if_pos hmatched]

/-- An error is not recognised. -/
theorem IsClosed.not_matches {c : Catalog} {x : Sending} (h : x.IsClosed c) (r : Reading) :
    ¬ x.Matches c r := by
  obtain ⟨p, e, -, hreply, -⟩ := h
  rintro ⟨raw, tls, hreply', -, -⟩
  rw [hreply] at hreply'
  cases hreply'

/-- A reply leaves the matter open when it neither closes the port nor is recognised. -/
theorem isOpen_iff (c : Catalog) (x : Sending) (hplace : c.IsPlace x.place) :
    x.IsOpen c ↔ ¬ x.IsClosed c ∧ ∀ r, ¬ x.Matches c r := by
  simp only [← outcome_eq_closed_iff, ← outcome_eq_matched_iff c x hplace, IsOpen]
  cases hout : x.outcome c with
  | notMatched => exact absurd hout (x.outcome_ne_notMatched c hplace)
  | closed => simp
  | opened last => simp
  | matched r => simp

end Sending

namespace Catalog

variable (c : Catalog) (host : String) (port : Nat)

/-! ## Replies that leave the matter open -/

/-- Any reply that leaves the matter open leaves the whole open. -/
theorem lastOpen_opened (seen : ScanOutcome) (xs : List Sending) (hne : xs ≠ [])
    (hopen : ∀ x ∈ xs, x.IsOpen c) : ∃ last, c.lastOpen seen xs = .opened last := by
  induction xs using List.reverseRecOn with
  | nil => exact absurd rfl hne
  | append_singleton before x _ =>
      obtain ⟨last, hx⟩ := hopen x (by simp)
      refine ⟨last.or (c.lastOpen seen before).reading?, ?_⟩
      rw [lastOpen, List.foldl_append, List.foldl_cons, hx]
      rfl

/-- What the replies to the selected probes come to that leave the matter open: the reply to the
first one counts only where it is the only one. -/
def openOutcome : List Sending → ScanOutcome
  | [] => .notMatched
  | [x] => x.outcome c
  | _ :: rest => c.lastOpen .notMatched rest

theorem openOutcome_opened (xs : List Sending) (hne : xs ≠ []) (hopen : ∀ x ∈ xs, x.IsOpen c) :
    ∃ last, c.openOutcome xs = .opened last := by
  match xs with
  | [] => exact absurd rfl hne
  | [x] => exact hopen x List.mem_cons_self
  | x :: y :: rest =>
      exact c.lastOpen_opened _ _ (List.cons_ne_nil y rest) fun z hz =>
        hopen z (List.mem_cons_of_mem x hz)

/-! ## The walk along a selection -/

/-- Only what the replies to all of the probes come to matters. -/
theorem WalkCourse.congr {used places : List Nat} {conclude conclude' : List Sending → ScanOutcome}
    {main inside web : List Sending} {outcome : ScanOutcome}
    (h : c.WalkCourse port used places conclude main inside web outcome)
    (hconclude : ∀ xs, xs.map Sending.place = places → (∀ x ∈ xs, x.IsOpen c) →
      conclude xs = conclude' xs) :
    c.WalkCourse port used places conclude' main inside web outcome := by
  cases h with
  | through main hplaces hopen =>
      rw [hconclude main hplaces hopen]
      exact .through main hplaces hopen
  | closed before x hplaces hopen hx => exact .closed before x hplaces hopen hx
  | matched before x inside web r best hplaces hopen hx hinside htls hbest =>
      exact .matched before x inside web r best hplaces hopen hx hinside htls hbest

/-- A walk along nothing sends nothing. -/
theorem WalkCourse.of_nil {c : Catalog} {port : Nat} {used : List Nat}
    {conclude : List Sending → ScanOutcome} {main inside web : List Sending} {outcome : ScanOutcome}
    (h : c.WalkCourse port used [] conclude main inside web outcome) :
    main = [] ∧ inside = [] ∧ web = [] ∧ outcome = conclude [] := by
  cases h with
  | through main hplaces hopen =>
      rw [List.map_eq_nil_iff.mp hplaces]
      exact ⟨rfl, rfl, rfl, rfl⟩
  | closed before x hplaces _ _ => simp at hplaces
  | matched before x inside web r best hplaces _ _ _ _ _ => simp at hplaces

/-- A walk along some probes makes something of them. -/
theorem WalkCourse.ne_notMatched {used places : List Nat} {seen : ScanOutcome}
    {main inside web : List Sending} {outcome : ScanOutcome} (hne : places ≠ [])
    (h : c.WalkCourse port used places (c.lastOpen seen) main inside web outcome) :
    outcome ≠ .notMatched := by
  cases h with
  | through main hplaces hopen =>
      obtain ⟨last, hlast⟩ := c.lastOpen_opened seen main
        (fun hmain => hne (by rw [← hplaces, hmain, List.map_nil])) hopen
      rw [hlast]
      simp
  | closed before x _ _ _ => simp
  | matched before x inside web r best _ _ _ _ _ _ => simp

/-- The walk of the first probe and that of the others are one walk. -/
theorem walkAll_course (places : List Nat) (hplaces : ∀ place ∈ places, c.IsPlace place)
    (hnodup : places.Nodup) (log : List (ProbeRequest × ProbeReply)) (outcome : ScanOutcome)
    (h : (c.walkAll host port places).Plays log outcome) :
    ∃ main inside web, c.Shows host port (main ++ inside ++ web) log ∧
      (∀ x ∈ main, x.tls = c.usesTls port x.place) ∧
      c.WalkCourse port [] places c.openOutcome main inside web outcome := by
  cases places with
  | nil =>
      obtain ⟨rfl, rfl⟩ := (Dialog.plays_done_iff _ _ _).mp h
      exact ⟨[], [], [], rfl, by simp, .through [] rfl (by simp)⟩
  | cons first rest =>
      obtain ⟨hother, hdistinct⟩ := List.nodup_cons.mp hnodup
      have hhead : [first] <+: first :: rest := (List.prefix_cons_inj _).mpr List.nil_prefix
      obtain ⟨before, after, outcome₁, rfl, hbefore, hafter⟩ := (Dialog.plays_bind_iff _ _ _ _).mp h
      obtain ⟨main₁, inside₁, web₁, hlog₁, htls₁, hcourse₁⟩ :=
        c.walk_course host port [] .notMatched [first] (by simpa using hplaces first (by simp))
          (List.nodup_singleton first) (by simp) before outcome₁ hbefore
      cases hcourse₁ with
      | closed xs x hxs hopen hx =>
          obtain ⟨rfl, rfl⟩ := (Dialog.plays_pure_iff _ _ _).mp hafter
          exact ⟨xs ++ [x], [], [], by simpa using hlog₁, htls₁,
            .closed xs x (hxs.trans hhead) hopen hx⟩
      | matched xs x inside web r best hxs hopen hx hinside htls hbest =>
          obtain ⟨rfl, rfl⟩ := (Dialog.plays_pure_iff _ _ _).mp hafter
          exact ⟨xs ++ [x], inside₁, web₁, by simpa using hlog₁, htls₁,
            .matched xs x inside₁ web₁ r best (hxs.trans hhead) hopen hx hinside htls hbest⟩
      | through _ hmain hopen =>
          obtain ⟨x, rfl, rfl⟩ : ∃ x, main₁ = [x] ∧ x.place = first := by
            simpa [List.map_eq_cons_iff] using hmain
          obtain ⟨last, hx⟩ := hopen x List.mem_cons_self
          have hfirst : c.lastOpen .notMatched [x] = .opened last := by
            rw [lastOpen, List.foldl_cons, hx]
            simp [later, ScanOutcome.reading?]
          rw [hfirst] at hafter
          obtain ⟨second, more, outcome₂, rfl, hsecond, hmore⟩ :=
            (Dialog.plays_bind_iff _ _ _ _).mp hafter
          obtain ⟨main₂, inside₂, web₂, hlog₂, htls₂, hcourse₂⟩ :=
            c.walk_course host port [x.place] .notMatched rest
              (fun i hi => hplaces i (List.mem_cons_of_mem _ hi)) hdistinct
              (fun i hi hmem => hother (List.mem_singleton.mp hmem ▸ hi)) second outcome₂ hsecond
          have hlog : c.Shows host port ([x] ++ (main₂ ++ inside₂ ++ web₂)) (before ++ second) :=
            c.shows_append host port (by simpa using hlog₁) hlog₂
          have htls : ∀ y ∈ x :: main₂, y.tls = c.usesTls port y.place :=
            List.forall_mem_cons.mpr ⟨htls₁ x List.mem_cons_self, htls₂⟩
          -- Only a walk along nothing is told apart from the others.
          obtain ⟨rfl, hcourse⟩ : more = [] ∧
              c.WalkCourse port [x.place] rest (fun xs => c.openOutcome (x :: xs))
                main₂ inside₂ web₂ outcome := by
            cases rest with
            | nil =>
                obtain ⟨rfl, rfl, rfl, hout⟩ := hcourse₂.of_nil
                rw [show outcome₂ = .notMatched from hout] at hmore
                obtain ⟨rfl, rfl⟩ := (Dialog.plays_pure_iff _ _ _).mp hmore
                refine ⟨rfl, ?_⟩
                rw [← hx]
                exact .through [] rfl (by simp)
            | cons next rest =>
                have hne := hcourse₂.ne_notMatched c port (List.cons_ne_nil next rest)
                obtain ⟨rfl, rfl⟩ : more = [] ∧ outcome = outcome₂ := by
                  cases outcome₂ with
                  | notMatched => exact absurd rfl hne
                  | closed => exact (Dialog.plays_pure_iff _ _ _).mp hmore
                  | opened last => exact (Dialog.plays_pure_iff _ _ _).mp hmore
                  | matched r => exact (Dialog.plays_pure_iff _ _ _).mp hmore
                refine ⟨rfl, hcourse₂.congr c port fun xs hxs _ => ?_⟩
                obtain ⟨y, ys, rfl, -⟩ := List.map_eq_cons_iff.mp hxs
                rfl
          exact ⟨x :: main₂, inside₂, web₂, by simpa using hlog, htls,
            hcourse.cons c port x ⟨last, hx⟩ fun _ => rfl⟩

/-! ## A scan -/

/-- What a scan of a TCP port sends, and what it reports.  `main` is sent along the selection,
`inside` and `web` after TLS has been found. -/
structure ScanCourse (level : Nat) (main inside web : List Sending) (outcome : ScanOutcome) :
    Prop where
  order : main.map Sending.place <+: c.select port level
  tls : ∀ x ∈ main, x.tls = c.usesTls port x.place
  inner : c.InsideCourse port (main.map Sending.place) inside web
  innerOfTls : inside ++ web ≠ [] →
    ∃ x r, main.getLast? = some x ∧ x.Matches c r ∧ r.fingerprint.service = tlsService
  once : ((main ++ inside).map Sending.place).Nodup
  closed_iff : outcome = .closed ↔ ∃ x, main.getLast? = some x ∧ x.IsClosed c
  matched_iff : (∃ r, outcome = .matched r) ↔ ∃ x r, main.getLast? = some x ∧ x.Matches c r
  opened_iff : (∃ last, outcome = .opened last) ↔ c.select port level ≠ [] ∧
    main.map Sending.place = c.select port level ∧
      ∀ x ∈ main, ¬ x.IsClosed c ∧ ∀ r, ¬ x.Matches c r
  notMatched_iff : outcome = .notMatched ↔ c.select port level = []
  service : ∀ r, outcome = .matched r → r.fingerprint.service ≠ ""

variable {c port}

/-- What is sent inside TLS has not been sent before. -/
theorem InsideCourse.nodup {sent : List Nat} {inside web : List Sending}
    (h : c.InsideCourse port sent inside web) (hsent : sent.Nodup) :
    (sent ++ inside.map Sending.place).Nodup := by
  refine List.nodup_append.mpr ⟨hsent, ?_, ?_⟩
  · exact h.order.sublist.nodup (c.sound.nodup_inside.filter _)
  · intro place hplace other hother heq
    have hfresh := (List.mem_filter.mp (h.order.subset hother)).2
    rw [← heq] at hfresh
    simp [hplace] at hfresh

theorem WalkCourse.order {used places : List Nat} {conclude : List Sending → ScanOutcome}
    {main inside web : List Sending} {outcome : ScanOutcome}
    (h : c.WalkCourse port used places conclude main inside web outcome) :
    main.map Sending.place <+: places := by
  cases h with
  | through main hmain _ => exact hmain ▸ List.prefix_rfl
  | closed before x hbefore _ _ => exact hbefore
  | matched before x inside web r best hbefore _ _ _ _ _ => exact hbefore

/-- A probe whose reply ends a walk is sent, so some are selected. -/
theorem ne_nil_of_concat_places {before : List Sending} {x : Sending} {places : List Nat}
    (h : (before ++ [x]).map Sending.place <+: places) : places ≠ [] := by
  rintro rfl
  simp at h

/-- A walk along the selection is the course of a scan. -/
theorem WalkCourse.scanCourse {level : Nat} {main inside web : List Sending}
    {outcome : ScanOutcome} (htls : ∀ x ∈ main, x.tls = c.usesTls port x.place)
    (h : c.WalkCourse port [] (c.select port level) c.openOutcome main inside web outcome) :
    c.ScanCourse port level main inside web outcome := by
  have horder := h.order
  have hnodup : (main.map Sending.place).Nodup := horder.sublist.nodup (c.nodup_select port level)
  have hplace : ∀ x ∈ main, c.IsPlace x.place := fun x hx =>
    c.sound.isPlace_of_mem_select (horder.subset (List.mem_map_of_mem hx))
  cases h with
  | through main hplaces hopen =>
      have hneither : ∀ x ∈ main, ¬ x.IsClosed c ∧ ∀ r, ¬ x.Matches c r := fun x hx =>
        (x.isOpen_iff c (hplace x hx)).mp (hopen x hx)
      have hnil : main = [] ↔ c.select port level = [] := by
        rw [← hplaces, List.map_eq_nil_iff]
      have hinner : c.InsideCourse port (main.map Sending.place) [] [] :=
        ⟨List.nil_prefix, by simp, .inl rfl⟩
      have hlast : ∀ x, main.getLast? = some x → ¬ x.IsClosed c ∧ ∀ r, ¬ x.Matches c r :=
        fun x hx => hneither x (List.mem_of_getLast? hx)
      -- Without any reply nothing is known; with replies that all leave it open, the port is open.
      by_cases hmain : main = []
      · have hout : c.openOutcome main = .notMatched := by rw [hmain]; rfl
        rw [hout]
        exact {
          order := horder
          tls := htls
          inner := hinner
          innerOfTls := fun hne => absurd rfl hne
          once := by simpa using hnodup
          closed_iff := by simp [hmain]
          matched_iff := by simp [hmain]
          opened_iff := by simp [hnil.mp hmain]
          notMatched_iff := by simp [hnil.mp hmain]
          service := by simp }
      · obtain ⟨last, hout⟩ := c.openOutcome_opened main hmain hopen
        rw [hout]
        exact {
          order := horder
          tls := htls
          inner := hinner
          innerOfTls := fun hne => absurd rfl hne
          once := by simpa using hnodup
          closed_iff := ⟨by simp, fun ⟨x, hx, hclosed⟩ => absurd hclosed (hlast x hx).1⟩
          matched_iff := ⟨by simp, fun ⟨x, r, hx, hr⟩ => absurd hr ((hlast x hx).2 r)⟩
          opened_iff := ⟨fun _ => ⟨mt hnil.mpr hmain, hplaces, hneither⟩, fun _ => ⟨last, rfl⟩⟩
          notMatched_iff := ⟨by simp, fun hsel => absurd (hnil.mpr hsel) hmain⟩
          service := by simp }
  | closed before x hplaces hopen hx =>
      have hclosed : x.IsClosed c := (x.outcome_eq_closed_iff c).mp hx
      have hmem : x ∈ before ++ [x] := by simp
      have hlast : ∀ y, (before ++ [x]).getLast? = some y → y = x := by simp
      exact {
        order := horder
        tls := htls
        inner := ⟨List.nil_prefix, by simp, .inl rfl⟩
        innerOfTls := fun hne => absurd rfl hne
        once := by simpa using hnodup
        closed_iff := ⟨fun _ => ⟨x, by simp, hclosed⟩, fun _ => rfl⟩
        matched_iff := by
          refine ⟨by simp, ?_⟩
          rintro ⟨y, r, hy, hr⟩
          rw [hlast y hy] at hr
          exact absurd hr (hclosed.not_matches r)
        opened_iff := ⟨by simp, fun ⟨_, _, hneither⟩ => absurd hclosed (hneither x hmem).1⟩
        notMatched_iff := ⟨by simp, fun hsel => absurd hsel (ne_nil_of_concat_places hplaces)⟩
        service := by simp }
  | matched before x inside web r best hplaces hopen hx hinside htls' hbest =>
      have hmatches : x.Matches c r := (x.outcome_eq_matched_iff c (hplace x (by simp)) r).mp hx
      have hmem : x ∈ before ++ [x] := by simp
      have hlast : ∀ y, (before ++ [x]).getLast? = some y → y = x := by simp
      exact {
        order := horder
        tls := htls
        inner := hinside
        innerOfTls := by
          intro hne
          refine ⟨x, r, by simp, hmatches, ?_⟩
          by_contra hservice
          exact hne (htls' hservice).1
        once := by
          rw [List.map_append]
          exact InsideCourse.nodup hinside hnodup
        closed_iff := by
          refine ⟨by simp, ?_⟩
          rintro ⟨y, hy, hclosed⟩
          rw [hlast y hy] at hclosed
          exact absurd hmatches (hclosed.not_matches r)
        matched_iff := ⟨fun _ => ⟨x, r, by simp, hmatches⟩, fun _ => ⟨best, rfl⟩⟩
        opened_iff := ⟨by simp, fun ⟨_, _, hneither⟩ => absurd hmatches ((hneither x hmem).2 r)⟩
        notMatched_iff := ⟨by simp, fun hsel => absurd hsel (ne_nil_of_concat_places hplaces)⟩
        service := by
          intro r' hr'
          cases hr'
          exact hbest }

/-- Only the request for a web page may be sent twice, and then it is the last of all and goes over
TLS. -/
theorem ScanCourse.resent {level : Nat} {main inside web : List Sending} {outcome : ScanOutcome}
    (h : c.ScanCourse port level main inside web outcome) (place : Nat)
    (htwice : 1 < ((main ++ inside ++ web).map Sending.place).count place) :
    c.place? Tuning.webProbe = some place ∧
      ((main ++ inside ++ web).map Sending.place).count place = 2 ∧
      ∃ x, (main ++ inside ++ web).getLast? = some x ∧ x.place = place ∧ x.tls = true := by
  -- Nothing is sent twice before the request for a web page, so that one must be the second.
  have honce := List.nodup_iff_count_le_one.mp h.once place
  rw [List.map_append, List.count_append] at htwice ⊢
  rcases h.inner.web with rfl | ⟨x, rfl, hweb, htls⟩
  · rw [List.map_nil, List.count_nil] at htwice
    omega
  · rw [List.map_singleton, List.count_singleton] at htwice ⊢
    split_ifs at htwice ⊢ with hx
    · have hplace : x.place = place := beq_iff_eq.mp hx
      exact ⟨hplace ▸ hweb, by omega, x, by simp, hplace, htls⟩
    · omega

theorem scan_of_tcp (c : Catalog) (host : String) {text : String} (level : Nat)
    (hport : port? text = some (port, false)) (hexcluded : c.excluded.contains port = false) :
    c.scan host text level = c.walkAll host port (c.select port level) := by
  unfold scan
  rw [hport]
  dsimp only
  rw [hexcluded]
  exact if_neg Bool.false_ne_true

/-- A scan of a TCP port that is not excluded, whatever its peer answers.  It sends an initial
segment of the selection; only after a match of TLS it sends probes inside TLS that have not been
used, and then at most a request for a web page, which alone may be sent twice.  The last reply
along the selection decides what is reported. -/
theorem scan_course {σ : Type} (c : Catalog) (host text : String) (port level : Nat)
    (hport : port? text = some (port, false)) (hexcluded : c.excluded.contains port = false)
    (peer : Dialog.Peer ProbeRequest ProbeReply σ) (s : σ) :
    ∃ main inside web,
      c.Shows host port (main ++ inside ++ web) ((c.scan host text level).exchanges peer s) ∧
      c.ScanCourse port level main inside web ((c.scan host text level).run peer s).result ∧
      (∀ place, 1 < ((main ++ inside ++ web).map Sending.place).count place →
        c.place? Tuning.webProbe = some place ∧
          ((main ++ inside ++ web).map Sending.place).count place = 2 ∧
          ∃ x, (main ++ inside ++ web).getLast? = some x ∧ x.place = place ∧ x.tls = true) ∧
      (((c.scan host text level).run peer s).result = .closed →
        ((c.scan host text level).run peer s).result.reading? = none) := by
  have hplays := Dialog.plays_run peer s (c.scan host text level)
  rw [scan_of_tcp c host level hport hexcluded] at hplays ⊢
  obtain ⟨main, inside, web, hlog, htls, hcourse⟩ :=
    c.walkAll_course host port _ (fun _ => c.sound.isPlace_of_mem_select)
      (c.nodup_select port level) _ _ hplays
  have hscanned := hcourse.scanCourse htls
  refine ⟨main, inside, web, hlog, hscanned, hscanned.resent, fun hclosed => ?_⟩
  rw [hclosed]
  rfl

/-! ## A scan of a web page inside TLS -/

/-- A rule for web pages. -/
def pageRules : List MatchRule := ((MatchRule.parse "http m|^H|" false).toOption.bind id).toList

/-- A rule for TLS. -/
def tlsRules : List MatchRule := ((MatchRule.parse "ssl m|^x|" false).toOption.bind id).toList

/-- The request for a web page. -/
def pageProbe : Probe :=
  { name := "TCP_GetRequest", protocol := .tcp, rarity := 1, rules := pageRules }

/-- The probe that opens TLS. -/
def tlsProbe : Probe :=
  { name := "TCP_SSLSessionReq", protocol := .tcp, rarity := 2, rules := tlsRules }

/-- A probe for what is inside TLS, too rare to be selected. -/
def desktopProbe : Probe := { name := "TCP_TerminalServer", protocol := .tcp, rarity := 9 }

/-- The catalog of the three. -/
def layered : Catalog := .ofProbes [pageProbe, tlsProbe, desktopProbe]

theorem select_layered : layered.select 443 7 = [0, 1] := by decide +kernel

theorem scan_layered :
    layered.scan "localhost" "443" 7 = layered.walkAll "localhost" 443 [0, 1] := by
  have hport : port? "443" = some (443, false) := rfl
  rw [scan_of_tcp layered "localhost" 7 hport rfl, select_layered]

theorem insidePlaces_layered : layered.insidePlaces = [2] := rfl

theorem webPlace_layered : layered.place? Tuning.webProbe = some 0 := rfl

/-- None of the three goes to the port over TLS by itself. -/
theorem usesTls_layered (place : Nat) : layered.usesTls 443 place = false := by
  match place with
  | 0 => rfl
  | 1 => rfl
  | 2 => rfl
  | _ + 3 => rfl

/-- A peer that finds TLS in the second probe and answers the request for a web page inside it. -/
def layeredReplies : List ProbeReply :=
  [silence, .ok (Utf8.encode "x", false), silence, .ok (Utf8.encode "H", true)]

/-- The scan goes on until the peer has given all of its replies. -/
theorem run_layered :
    ∃ sent page,
      (layered.scan "localhost" "443" 7).run (Dialog.scripted silence) layeredReplies =
        ⟨.matched page, sent, []⟩ ∧
      sent.length = 4 ∧ page.fingerprint.service = "https" := by
  have hpage : layered.probes[0]? = some pageProbe := rfl
  have htls : layered.probes[1]? = some tlsProbe := rfl
  have hdesktop : layered.probes[2]? = some desktopProbe := rfl
  have hpageRule : (pageProbe.respond (Utf8.encode "H")).service = "http" := by cbv
  have htlsRule : (tlsProbe.respond (Utf8.encode "x")).service = tlsService := by cbv
  have hfound : (layered.fingerprint (Utf8.encode "x") false 1).service = tlsService :=
    service_of_respond layered.toTables htls _ false htlsRule (by decide)
  have hbetter : (layered.fingerprint (Utf8.encode "H") true 0).service = "https" :=
    service_of_respond layered.toTables hpage _ true hpageRule (by decide)
  have hjudge := layered.judge_of_service 1 tlsProbe.protocol hfound (by decide)
  have hjudge' := layered.judge_of_service 0 pageProbe.protocol hbetter (by decide)
  have hother : "https" ≠ tlsService := by decide
  rw [scan_layered]
  simp [walkAll, walk, send, lookInside, findInside, askWeb, later, inside?, Dialog.run_andThen,
    layered.run_sendOver_scripted _ _ _ hpage, layered.run_sendOver_scripted _ _ _ htls,
    layered.run_sendOver_scripted _ _ _ hdesktop, layeredReplies, judge_silence, hjudge, hjudge',
    hfound, hbetter, insidePlaces_layered, webPlace_layered, hother]

/-- A peer that says nothing and then refuses closes the port. -/
theorem run_layered_refused :
    ∃ sent, (layered.scan "localhost" "443" 7).run (Dialog.scripted silence)
        [silence, .error (.reported .refused "")] = ⟨.closed, sent, []⟩ ∧ sent.length = 2 := by
  have hpage : layered.probes[0]? = some pageProbe := rfl
  have htls : layered.probes[1]? = some tlsProbe := rfl
  have hrefused : layered.judge 1 tlsProbe.protocol (.error (.reported .refused "")) = .closed := by
    rw [judge]
    exact if_pos rfl
  rw [scan_layered]
  simp [walkAll, walk, send, later, Dialog.run_andThen, layered.run_sendOver_scripted _ _ _ hpage,
    layered.run_sendOver_scripted _ _ _ htls, judge_silence, hrefused]

theorem map_of_usesTls_layered {xs : List Sending}
    (h : ∀ x ∈ xs, x.tls = layered.usesTls 443 x.place) :
    xs.map (fun x => (x.place, x.tls)) =
      (xs.map Sending.place).map fun place => (place, false) := by
  rw [List.map_map]
  apply List.map_congr_left
  intro x hx
  rw [h x hx, usesTls_layered]
  rfl

/-- Two scans with the same probes.  The first finds TLS, looks inside it and asks for a web page,
for the second time and over TLS; the second is refused. -/
theorem scan_course_of_layered :
    port? "443" = some (443, false) ∧ layered.excluded.contains 443 = false ∧
    layered.select 443 7 = [0, 1] ∧
    (∃ main inside web page,
      layered.Shows "localhost" 443 (main ++ inside ++ web)
        ((layered.scan "localhost" "443" 7).exchanges (Dialog.scripted silence) layeredReplies) ∧
      layered.ScanCourse 443 7 main inside web (.matched page) ∧
      main.map (fun x => (x.place, x.tls)) = [(0, false), (1, false)] ∧
      inside.map (fun x => (x.place, x.tls)) = [(2, false)] ∧
      web.map (fun x => (x.place, x.tls)) = [(0, true)] ∧
      page.fingerprint.service = "https") ∧
    ∃ main,
      layered.Shows "localhost" 443 main
        ((layered.scan "localhost" "443" 7).exchanges (Dialog.scripted silence)
          [silence, .error (.reported .refused "")]) ∧
      layered.ScanCourse 443 7 main [] [] .closed ∧
      main.map (fun x => (x.place, x.tls)) = [(0, false), (1, false)] := by
  have hport : port? "443" = some (443, false) := rfl
  have hexcluded : layered.excluded.contains 443 = false := rfl
  refine ⟨hport, hexcluded, select_layered, ?_, ?_⟩
  · obtain ⟨main, inside, web, hlog, hcourse, -, -⟩ :=
      scan_course layered "localhost" "443" 443 7 hport hexcluded (Dialog.scripted silence)
        layeredReplies
    obtain ⟨sent, page, hrun, hsent, hservice⟩ := run_layered
    have hlength := layered.length_of_shows _ _ hlog
    rw [← List.length_map Prod.fst, Dialog.map_fst_exchanges, hrun, hsent, List.length_append,
      List.length_append] at hlength
    rw [hrun] at hcourse
    -- Four probes have been sent, which is as many as there can be of every kind.
    have hmain : main.map Sending.place <+: [0, 1] := select_layered ▸ hcourse.order
    have hinside : (inside.map Sending.place).Sublist [2] :=
      insidePlaces_layered ▸ hcourse.inner.order.sublist.trans List.filter_sublist
    have hmainLength := hmain.length_le
    have hinsideLength := hinside.length_le
    rw [List.length_map, List.length_cons, List.length_singleton] at hmainLength
    rw [List.length_map, List.length_singleton] at hinsideLength
    rcases hcourse.inner.web with rfl | ⟨x, rfl, hx, hxTls⟩
    · rw [List.length_nil] at hlength
      omega
    · rw [List.length_singleton] at hlength
      have hmainTwo : main.length = 2 := by omega
      have hinsideOne : inside.length = 1 := by omega
      refine ⟨main, inside, [x], page, hlog, hcourse, ?_, ?_, ?_, hservice⟩
      · rw [map_of_usesTls_layered hcourse.tls, hmain.eq_of_length (by rwa [List.length_map])]
        rfl
      · rw [map_of_usesTls_layered hcourse.inner.tls,
          hinside.eq_of_length (by rwa [List.length_map])]
        rfl
      · rw [webPlace_layered] at hx
        rw [List.map_singleton, ← Option.some.inj hx, hxTls]
  · obtain ⟨main, inside, web, hlog, hcourse, -, -⟩ :=
      scan_course layered "localhost" "443" 443 7 hport hexcluded (Dialog.scripted silence)
        [silence, .error (.reported .refused "")]
    obtain ⟨sent, hrun, hsent⟩ := run_layered_refused
    rw [hrun] at hcourse
    obtain ⟨x, hlast, hclosed⟩ := hcourse.closed_iff.mp rfl
    obtain ⟨rfl, rfl⟩ : inside = [] ∧ web = [] := by
      rw [← List.append_eq_nil_iff]
      by_contra hne
      obtain ⟨y, r, hy, hmatches, -⟩ := hcourse.innerOfTls hne
      obtain rfl := Option.some.inj (hlast.symm.trans hy)
      exact hclosed.not_matches r hmatches
    rw [List.append_nil, List.append_nil] at hlog
    have hlength := layered.length_of_shows _ _ hlog
    rw [← List.length_map Prod.fst, Dialog.map_fst_exchanges, hrun, hsent] at hlength
    have hmain : main.map Sending.place <+: [0, 1] := select_layered ▸ hcourse.order
    refine ⟨main, hlog, hcourse, ?_⟩
    rw [map_of_usesTls_layered hcourse.tls, hmain.eq_of_length (by rwa [List.length_map])]
    rfl

end Catalog

end Fingerprinting.Nmap
