/-
# Reading printed probes

A file of directives is read line by line, and the probe that is being described waits until the
next one begins or the file ends.  Probes that have been printed are read back, with comments and
blank lines between any two lines.

* `padded_lines` says that the lines of a text are those that it was made of, with others between
  them that say nothing;
* `reads_of_padded` says that such lines make no difference;
* `reads_directives` and `reads_probes` say what is read from the directives of a probe and from the
  lines of several probes, by induction on either.

Main statement: `parse_printed`.
-/
import Fingerprinting.Proofs.Nmap.Printing

namespace Fingerprinting.Nmap

/-! ## Texts and their lines -/

/-- A comment, or a line with nothing but blanks. -/
structure IsFiller (line : String) : Prop where
  lineFeed : '\n' ∉ line.toList
  idle : line.toList.head? = some '#' ∨ line.toList.all Text.isBlank = true

/-- Some lines, with comments and blank lines anywhere among them. -/
inductive Padded : List String → List String → Prop where
  | done : Padded [] []
  | filler {line : String} {xs ys : List String} (hline : IsFiller line) (h : Padded xs ys) :
      Padded xs (line :: ys)
  | line (line : String) {xs ys : List String} (h : Padded xs ys) :
      Padded (line :: xs) (line :: ys)

/-- A text is made of some lines, each with an end; only the last one may lack it. -/
inductive MadeOf : String → List String → Prop where
  | empty : MadeOf "" []
  | last (line : String) : MadeOf line [line]
  | ended {line mark rest : String} {lines : List String} (hmark : mark ∈ ["\n", "\r\n"])
      (h : MadeOf rest lines) : MadeOf (line ++ mark ++ rest) (line :: lines)

/-- Neither the lines nor those among them have line feeds. -/
theorem Padded.lineFeed {xs ys : List String} (h : Padded xs ys)
    (hxs : ∀ line ∈ xs, IsLine line) : ∀ line ∈ ys, '\n' ∉ line.toList := by
  induction h with
  | done => simp
  | filler hline _ ih => exact List.forall_mem_cons.mpr ⟨hline.lineFeed, ih hxs⟩
  | line line _ ih =>
      obtain ⟨hline, hrest⟩ := List.forall_mem_cons.mp hxs
      exact List.forall_mem_cons.mpr ⟨hline.lineFeed, ih hrest⟩

/-- A line at the end of a text. -/
theorem lines_last (line : String) (h : '\n' ∉ line.toList) (hne : line ≠ "") :
    Text.lines line = [line] := by
  have hchars : line.toList ≠ [] := by simpa using hne
  rw [Text.lines, Text.lineChars_singleton _ h hchars, List.map_singleton, String.ofList_toList]

/-- A line that is ended loses a carriage return, which may have been its own. -/
theorem lines_ended (line mark rest : String) (h : '\n' ∉ line.toList)
    (hmark : mark ∈ ["\n", "\r\n"]) :
    Text.lines (line ++ mark ++ rest) = line :: Text.lines rest ∨
      Text.lines (line ++ mark ++ rest) =
        String.ofList (Text.dropReturn line.toList) :: Text.lines rest := by
  simp only [List.mem_cons, List.not_mem_nil, or_false] at hmark
  rcases hmark with rfl | rfl
  · right
    have hchars : (line ++ "\n" ++ rest).toList = line.toList ++ '\n' :: rest.toList := by simp
    rw [Text.lines, hchars, Text.lineChars_append _ _ h, List.map_cons]
    rfl
  · left
    have hchars : (line ++ "\r\n" ++ rest).toList =
        (line.toList ++ ['\r']) ++ '\n' :: rest.toList := by simp
    have hreturn : '\n' ∉ line.toList ++ ['\r'] := by simp [h]
    have hdrop : Text.dropReturn (line.toList ++ ['\r']) = line.toList := by
      simp [Text.dropReturn]
    rw [Text.lines, hchars, Text.lineChars_append _ _ hreturn, hdrop, List.map_cons,
      String.ofList_toList]
    rfl

theorem IsLine.dropReturn {line : String} (h : IsLine line) :
    String.ofList (Text.dropReturn line.toList) = line := by
  obtain ⟨c, hc, hblank⟩ := h.last
  have hreturn : line.toList.getLast? ≠ some '\r' := by
    rw [hc]
    rintro heq
    cases heq
    exact absurd hblank (by decide)
  rw [Text.dropReturn, if_neg hreturn, String.ofList_toList]

theorem IsFiller.dropReturn {line : String} (h : IsFiller line) :
    IsFiller (String.ofList (Text.dropReturn line.toList)) := by
  unfold Text.dropReturn
  split_ifs with hreturn
  · obtain ⟨before, hbefore⟩ := List.getLast?_eq_some_iff.mp hreturn
    obtain ⟨hfeed, hidle⟩ := h
    rw [hbefore] at hfeed hidle ⊢
    rw [List.dropLast_concat]
    refine ⟨?_, ?_⟩
    · rw [String.toList_ofList]
      exact fun hc => hfeed (List.mem_append_left _ hc)
    · rw [String.toList_ofList]
      rcases hidle with hhash | hblank
      · left
        cases before with
        | nil => cases hhash
        | cons c rest => exact hhash
      · rw [List.all_append, Bool.and_eq_true] at hblank
        exact .inr hblank.1
  · rwa [String.ofList_toList]

/-- The lines of a text are those that it is made of, but for carriage returns at their ends and an
empty line at the very end. -/
theorem padded_lines {xs ys : List String} {text : String} (hxs : ∀ line ∈ xs, IsLine line)
    (h : Padded xs ys) (htext : MadeOf text ys) : Padded xs (Text.lines text) := by
  induction htext generalizing xs with
  | empty =>
      cases h
      exact .done
  | last line =>
      -- Nothing stands where an empty last line would, which can only have been a filler.
      by_cases hne : line = ""
      · subst hne
        cases h with
        | filler _ h => exact h
        | line _ h =>
            obtain ⟨c, hc, -⟩ := (hxs "" List.mem_cons_self).last
            cases hc
      · rw [lines_last line (h.lineFeed hxs line List.mem_cons_self) hne]
        exact h
  | @ended line mark rest lines hmark _ ih =>
      cases h with
      | filler hline h =>
          rcases lines_ended line mark rest hline.lineFeed hmark with hlines | hlines
          · rw [hlines]
            exact .filler hline (ih hxs h)
          · rw [hlines]
            exact .filler hline.dropReturn (ih hxs h)
      | @line _ xs _ h =>
          obtain ⟨hline, hxs⟩ := List.forall_mem_cons.mp hxs
          rcases lines_ended line mark rest hline.lineFeed hmark with hlines | hlines
          · rw [hlines]
            exact .line line (ih hxs h)
          · rw [hlines, hline.dropReturn]
            exact .line line (ih hxs h)

/-! ## Lines that say nothing -/

namespace ProbeSet

/-- Reading some lines leads from one state to another, whatever the number of the first line. -/
def Reading.Reads (r : Reading) (lines : List String) (r' : Reading) : Prop :=
  ∀ number, r.lines number lines = .ok r'

theorem isIdle_of_isFiller {line : String} (h : IsFiller line) :
    isIdle (Text.trimEnd line) = true := by
  rcases h.idle with hhash | hblank
  · obtain ⟨rest, hrest⟩ := List.head?_eq_some_iff.mp hhash
    have htrim : (Text.trimEnd line).toList = '#' :: Text.trimEndChars Text.isBlank rest := by
      rw [Text.trimEnd, String.toList_ofList, hrest]
      exact Text.trimEndChars_append Text.isBlank ['#'] rest '#' rfl (by decide)
    simp [isIdle, htrim]
  · have htrim : Text.trimEnd line = "" := by
      have hdrop : line.toList.reverse.dropWhile Text.isBlank = [] := by
        rw [List.dropWhile_eq_nil_iff]
        exact fun c hc => List.all_eq_true.mp hblank c (List.mem_reverse.mp hc)
      rw [Text.trimEnd, Text.trimEndChars, hdrop]
      rfl
    rw [htrim]
    decide

/-- Comments and blank lines make no difference. -/
theorem lines_of_padded {xs ys : List String} (h : Padded xs ys) {r r' : Reading} (number : Nat)
    (hread : r.lines number xs = .ok r') (other : Nat) : r.lines other ys = .ok r' := by
  induction h generalizing r number other with
  | done => exact hread
  | filler hline _ ih =>
      rw [Reading.lines, if_pos (isIdle_of_isFiller hline)]
      exact ih number hread (other + 1)
  | line line _ ih =>
      rw [Reading.lines] at hread ⊢
      split_ifs at hread ⊢
      · exact ih (number + 1) hread (other + 1)
      · cases hnext : r.next (Text.trimEnd line) with
        | error e =>
            rw [hnext] at hread
            cases hread
        | ok next =>
            rw [hnext] at hread
            exact ih (number + 1) hread (other + 1)

/-! ## Directives -/

theorem not_isIdle_directive {command args : String} (hcommand : command ∈ commands) :
    isIdle (directive command args) = false := by
  have hnames : ∀ command ∈ commands,
      2 ≤ command.utf8ByteSize ∧ command.toList ≠ [] ∧ command.toList.head? ≠ some '#' := by decide
  obtain ⟨hsize, hne, hhead⟩ := hnames command hcommand
  have hlong : ¬ (directive command args).utf8ByteSize < 2 := by
    rw [directive, String.utf8ByteSize_append, String.utf8ByteSize_append]
    omega
  have hhash : (directive command args).toList.head? ≠ some '#' := by
    rw [directive, String.append_assoc, String.toList_append, List.head?_append_of_ne_nil _ hne]
    exact hhead
  rw [isIdle, decide_eq_false hlong, Bool.false_or, beq_eq_false_iff_ne]
  exact hhash

theorem trimEnd_of_isLine {line : String} (h : IsLine line) : Text.trimEnd line = line := by
  obtain ⟨c, hc, hblank⟩ := h.last
  have htrim := Text.trimEndChars_append Text.isBlank line.toList [] c hc hblank
  have hnil : Text.trimEndChars Text.isBlank [] = [] := rfl
  rw [List.append_nil, hnil, List.append_nil] at htrim
  rw [Text.trimEnd, htrim, String.ofList_toList]

theorem reads_directive {r r' r'' : Reading} {command args : String} {rest : List String}
    (hcommand : command ∈ commands) (hargs : IsLine args)
    (hnext : r.next (directive command args) = .ok r') (hrest : r'.Reads rest r'') :
    r.Reads (directive command args :: rest) r'' := by
  intro number
  rw [Reading.lines]
  simp only [trimEnd_of_isLine (hargs.directive hcommand), not_isIdle_directive hcommand, hnext]
  exact hrest (number + 1)

/-- A directive has a name, and something after it. -/
theorem cut_directive {command : String} (hcommand : command ∈ commands) (args : String) :
    Text.cut ' ' (directive command args) = some (command, args) := by
  have hblank : ∀ command ∈ commands, ' ' ∉ command.toList := by decide
  exact Text.cut_append ' ' command args (hblank command hcommand)

/-- A probe begins, and the one before it is done. -/
theorem next_header (r : Reading) (p : PlainProbe) :
    r.next (directive "Probe" p.header) = .ok ⟨r.finish, some (p.upTo [])⟩ := by
  unfold Reading.next
  rw [cut_directive (by decide)]
  rw [Option.getD_some]
  dsimp only
  rw [if_neg (by decide), if_pos rfl, p.probeOf_header]
  rfl

/-- A directive says something about the probe before it. -/
theorem next_directive (set : ProbeSet) (p : PlainProbe) (fields : List Field) (f : Field)
    (command args : String) (h : p.line? f = some (command, args)) :
    Reading.next ⟨set, some (p.upTo fields)⟩ (directive command args) =
      .ok ⟨set, some (p.upTo (f :: fields))⟩ := by
  obtain ⟨hcommand, -⟩ := p.of_line? f command args h
  have hother : ∀ name ∈ fieldCommands, name ≠ "Exclude" ∧ name ≠ "Probe" := by decide
  obtain ⟨hexclude, hprobe⟩ := hother command hcommand
  unfold Reading.next
  rw [cut_directive (List.mem_cons_of_mem _ hcommand), Option.getD_some]
  dsimp only
  rw [if_neg hexclude, if_neg hprobe, p.after_directive fields f command args h]
  rfl

/-- The directives of a probe are read one after the other. -/
theorem reads_directives (set : ProbeSet) (p : PlainProbe) (done fields : List Field)
    {rest : List String} {r : Reading}
    (hrest : Reading.Reads ⟨set, some (p.upTo (fields.reverse ++ done))⟩ rest r) :
    Reading.Reads ⟨set, some (p.upTo done)⟩
      ((fields.filterMap p.line?).map (fun d => directive d.1 d.2) ++ rest) r := by
  induction fields generalizing done with
  | nil => exact hrest
  | cons f fields ih =>
      rw [List.reverse_cons, List.append_assoc, List.singleton_append] at hrest
      have hnext := ih (f :: done) hrest
      cases hline : p.line? f with
      | none =>
          rw [List.filterMap_cons_none hline]
          rwa [p.upTo_of_line?_eq_none done f hline] at hnext
      | some d =>
          obtain ⟨command, args⟩ := d
          obtain ⟨hcommand, hargs⟩ := p.of_line? f command args hline
          rw [List.filterMap_cons_some hline]
          exact reads_directive (List.mem_cons_of_mem _ hcommand) hargs
            (next_directive set p done f command args hline) hnext

end ProbeSet

/-! ## Probes -/

/-- A probe, and an order in which its fields are printed.  Fields that have the values that they
have without a directive may be left out. -/
structure Printing where
  probe : PlainProbe
  fields : List Field
  complete : ∀ f ∉ fields, probe.IsDefault f

/-- Every probe can be printed with all of its fields. -/
def Printing.ofProbe (p : PlainProbe) : Printing where
  probe := p
  fields := [.rarity, .ports, .sslPorts, .fallback]
  complete f hf := absurd (by cases f <;> decide) hf

/-- The lines of a probe. -/
def Printing.lines (p : Printing) : List String := p.probe.lines p.fields

namespace ProbeSet

/-- The lines of several probes add them to those before. -/
theorem reads_probes (ps : List Printing) (r : Reading) :
    ∃ r', r.Reads (ps.flatMap Printing.lines) r' ∧
      r'.finish = { r.finish with probes := r.finish.probes ++ ps.map fun p => p.probe.probe } := by
  -- The last probe is still waiting when its lines have been read, so the states are compared as
  -- they are when they are finished.
  induction ps generalizing r with
  | nil => exact ⟨r, fun number => rfl, by simp⟩
  | cons p rest ih =>
      have hprobe : p.probe.upTo (p.fields.reverse ++ []) = p.probe.probe :=
        p.probe.upTo_eq_probe _ fun f hf => p.complete f (by simpa using hf)
      obtain ⟨r', hreads, hfinish⟩ := ih ⟨r.finish, some p.probe.probe⟩
      refine ⟨r', ?_, ?_⟩
      · refine reads_directive (by decide) p.probe.isLine_header (next_header r p.probe)
          (reads_directives r.finish p.probe [] p.fields ?_)
        rw [hprobe]
        exact hreads
      · rw [hfinish]
        simp [Reading.finish]

/-- Probes that have been printed, with comments and blank lines anywhere, are read back: all of
them, in order, each with its own fields and without rules. -/
theorem parse_printed (ps : List Printing) (lines : List String) (text : String)
    (hlines : Padded (ps.flatMap Printing.lines) lines) (htext : MadeOf text lines) :
    parse text = .ok { probes := ps.map fun p => p.probe.probe } := by
  have hprinted : ∀ line ∈ ps.flatMap Printing.lines, IsLine line := by
    intro line hline
    obtain ⟨p, -, hp⟩ := List.mem_flatMap.mp hline
    exact p.probe.isLine_of_mem_lines p.fields line hp
  obtain ⟨r, hreads, hfinish⟩ := reads_probes ps {}
  have hlines := lines_of_padded (padded_lines hprinted hlines htext) 1 (hreads 1) 1
  refine (Results.bind_eq_ok_iff _ _ _).mpr ⟨r, hlines, ?_⟩
  rw [hfinish]
  simp [Reading.finish]

/-- A probe with a payload that is no text, and one with the first for its fallback. -/
def twoProbes : List Printing :=
  let first : ProbeName := ⟨"NULL", by decide, by decide⟩
  [ { probe := ⟨.tcp, first, [0x00, 0xFF], 255, [(21, 21), (8000, 8010)], [], none⟩
      fields := [.ports, .rarity]
      complete := fun f hf => by cases f <;> first | rfl | exact absurd (by decide) hf },
    .ofProbe ⟨.udp, ⟨"dns", by decide, by decide⟩, [], 0, [], [(853, 853)], some first⟩ ]

theorem parse_printed_of_two_probes :
    parse ("# probes\r\n\nProbe TCP NULL q|\\x00\\xff|\nports 21,8000-8010\n" ++
      "# often\nrarity 255\n\t\nProbe UDP dns q||\nrarity 0\nsslports 853\nfallback NULL") =
      .ok { probes := twoProbes.map fun p => p.probe.probe } := by
  have hlines : twoProbes.flatMap Printing.lines =
      ["Probe TCP NULL q|\\x00\\xff|", "ports 21,8000-8010", "rarity 255", "Probe UDP dns q||",
        "rarity 0", "sslports 853", "fallback NULL"] := by
    decide +kernel
  have hpadded : Padded (twoProbes.flatMap Printing.lines)
      ["# probes", "", "Probe TCP NULL q|\\x00\\xff|", "ports 21,8000-8010", "# often",
        "rarity 255", "\t", "Probe UDP dns q||", "rarity 0", "sslports 853", "fallback NULL"] := by
    rw [hlines]
    refine .filler ⟨by decide, .inl (by decide)⟩ (.filler ⟨by decide, .inr (by decide)⟩ ?_)
    refine .line _ (.line _ (.filler ⟨by decide, .inl (by decide)⟩ (.line _ ?_)))
    exact .filler ⟨by decide, .inr (by decide)⟩ (.line _ (.line _ (.line _ (.line _ .done))))
  have htext := parse_printed twoProbes _
    ("# probes" ++ "\r\n" ++ ("" ++ "\n" ++ ("Probe TCP NULL q|\\x00\\xff|" ++ "\n" ++
      ("ports 21,8000-8010" ++ "\n" ++ ("# often" ++ "\n" ++ ("rarity 255" ++ "\n" ++
        ("\t" ++ "\n" ++ ("Probe UDP dns q||" ++ "\n" ++ ("rarity 0" ++ "\n" ++
          ("sslports 853" ++ "\n" ++ "fallback NULL")))))))))) hpadded
    (by
      repeat refine .ended (by decide) ?_
      exact .last _)
  exact htext

end ProbeSet

end Fingerprinting.Nmap
