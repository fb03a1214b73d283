/-
# The normal form of a response

A response that has been parsed has parts of a certain form: no part has a line feed, names have no
colon, and what has been trimmed has no blanks at its ends.  Written and parsed again, such a
response comes back as it was, but for the transfer coding.

* `isNormal_of_parse` says which form the parts have;
* `parse_write` parses what has been written;
* `write_normalises` puts both together, and says what matching sees of it.
-/
import Fingerprinting.Response.Content
import Fingerprinting.Proofs.Response.BlankLine
import Fingerprinting.Proofs.Results
import Fingerprinting.Proofs.Text.Numeral

namespace Fingerprinting.HttpResponse

open Text (IsTrimmed)

/-! ## Parts of a response -/

/-- A part of a line that has been trimmed. -/
def IsPart (s : String) : Prop := IsTrimmed s.toList ∧ '\n' ∉ s.toList

/-- A response whose parts have the form of parts that have been parsed. -/
structure IsNormal (r : HttpResponse) : Prop where
  proto : "HTTP/".toList <+: r.proto.toList ∧ ' ' ∉ r.proto.toList ∧ '\n' ∉ r.proto.toList
  status : r.status ≤ Text.max16
  reason : IsPart r.reason
  headers : ∀ h ∈ r.headers, IsPart h.1 ∧ ':' ∉ h.1.toList ∧ IsPart h.2

/-- Trimming makes parts of a line. -/
theorem isPart_trim (s : String) (h : '\n' ∉ s.toList) : IsPart (Text.trim s) := by
  rw [IsPart, Text.trim, String.toList_ofList]
  exact ⟨Text.isTrimmed_trimChars _, fun hmem => h (Text.mem_of_mem_trimChars _ _ hmem)⟩

/-- A part stays as it is when it is trimmed. -/
theorem trim_of_isPart (s : String) (h : IsPart s) : Text.trim s = s := by
  rw [Text.trim, Text.trimChars_of_isTrimmed _ h.1, String.ofList_toList]

/-! ## Header lines -/

/-- Name and value of a header line are parts, and the name has no colon. -/
theorem isPart_of_headerLine (line : String) (hline : '\n' ∉ line.toList) (h : String × String)
    (hh : headerLine? line = some h) : IsPart h.1 ∧ ':' ∉ h.1.toList ∧ IsPart h.2 := by
  obtain ⟨⟨name, value⟩, hcut, rfl⟩ := Option.map_eq_some_iff.mp hh
  obtain ⟨⟨before, after⟩, hwhere, hparts⟩ := Option.map_eq_some_iff.mp hcut
  cases hparts
  obtain ⟨hbefore, sep, -, hline'⟩ := Text.of_cutWhere _ _ _ _ hwhere
  rw [hline'] at hline
  refine ⟨isPart_trim _ ?_, ?_, isPart_trim _ ?_⟩
  · rw [String.toList_ofList]
    exact fun hmem => hline (List.mem_append_left _ hmem)
  · intro hmem
    have hmem : ':' ∈ (Text.trim (String.ofList before)).toList := hmem
    rw [Text.trim, String.toList_ofList, String.toList_ofList] at hmem
    have hcolon := hbefore ':' (Text.mem_of_mem_trimChars _ _ hmem)
    cases hcolon
  · rw [String.toList_ofList]
    exact fun hmem => hline (List.mem_append_right _ (List.mem_cons_of_mem _ hmem))

/-- The line that is written for a header, without its end. -/
def headerChars (h : String × String) : List Char := h.1.toList ++ ':' :: ' ' :: h.2.toList

/-- The line that is written for a header is read as that header. -/
theorem headerLine_headerChars (h : String × String) (hname : IsPart h.1)
    (hcolon : ':' ∉ h.1.toList) (hvalue : IsPart h.2) :
    headerLine? (String.ofList (headerChars h)) = some h := by
  have hspace : Text.trim (String.ofList (' ' :: h.2.toList)) = h.2 := by
    rw [Text.trim, String.toList_ofList, Text.trimChars_cons_blank _ _ rfl,
      Text.trimChars_of_isTrimmed _ hvalue.1, String.ofList_toList]
  rw [headerLine?, Text.cut, String.toList_ofList, headerChars,
    Text.cutWhere_append _ _ _ ':' (Text.beq_eq_false_of_not_mem hcolon) rfl]
  simp only [Option.map_some, String.ofList_toList, trim_of_isPart _ hname, hspace]

/-! ## Status lines -/

/-- The first field of a line ends at the first space. -/
theorem field_append (cs rest : List Char) (h : ' ' ∉ cs) :
    field (cs ++ ' ' :: rest) = (cs, some rest) := by
  rw [field, Text.cutWhere_append _ _ _ ' ' (Text.beq_eq_false_of_not_mem h) rfl]

theorem field_of_not_mem (cs : List Char) (h : ' ' ∉ cs) : field cs = (cs, none) := by
  rw [field, (Text.cutWhere_eq_none_iff _ _).mpr (Text.beq_eq_false_of_not_mem h)]

/-- The fields of a line are parts of it, and the first one has no space. -/
theorem of_field (cs first : List Char) (rest : Option (List Char)) (h : field cs = (first, rest)) :
    ' ' ∉ first ∧ (∀ c ∈ first, c ∈ cs) ∧ ∀ c ∈ rest.getD [], c ∈ cs := by
  unfold field at h
  split at h
  · rename_i a b hcut
    cases h
    obtain ⟨hbefore, sep, -, hcs⟩ := Text.of_cutWhere _ _ _ _ hcut
    refine ⟨fun hmem => ?_, fun c hc => ?_, fun c hc => ?_⟩
    · cases hbefore ' ' hmem
    · rw [hcs]
      exact List.mem_append_left _ hc
    · rw [hcs]
      exact List.mem_append_right _ (List.mem_cons_of_mem _ hc)
  · rename_i hnone
    cases h
    refine ⟨fun hmem => ?_, fun c hc => hc, fun c hc => ?_⟩
    · cases (Text.cutWhere_eq_none_iff _ _).mp hnone ' ' hmem
    · cases hc

/-- What a status line says: its fields, of which the first begins like one of HTTP and the second
is a number. -/
theorem statusLine_eq_ok_iff (line proto reason : String) (n : Nat) :
    statusLine line = .ok (proto, n, reason) ↔
      ∃ first rest status tail, field (Text.trim line).toList = (first, rest) ∧
        field (rest.getD []) = (status, tail) ∧ "HTTP/".toList <+: first ∧
        Text.decimal? Text.max16 (String.ofList status) = some n ∧
        String.ofList first = proto ∧ Text.trim (String.ofList (tail.getD [])) = reason := by
  unfold statusLine
  rcases field (Text.trim line).toList with ⟨first, rest⟩
  rcases hsecond : field (rest.getD []) with ⟨status, tail⟩
  simp only [hsecond, Prod.mk.injEq]
  constructor
  · intro h
    split at h
    · cases h
    · rename_i hlead
      have hlead : "HTTP/".toList <+: first := by simpa using hlead
      split at h
      · rename_i m hm
        obtain ⟨hproto, hn, hreason⟩ : String.ofList first = proto ∧ m = n ∧
            Text.trim (String.ofList (tail.getD [])) = reason := by simpa using h
        exact ⟨first, rest, status, tail, ⟨rfl, rfl⟩, hsecond, hlead, hn ▸ hm, hproto, hreason⟩
      · cases h
  · rintro ⟨first', rest', status', tail', ⟨rfl, rfl⟩, hsecond', hlead, hn, rfl, rfl⟩
    rw [hsecond] at hsecond'
    obtain ⟨rfl, rfl⟩ := Prod.mk.inj hsecond'
    have hkeep : ¬ (!"HTTP/".toList.isPrefixOf first) = true := by simpa using hlead
    rw [if_neg hkeep, hn]

/-- The parts of a status line have the form of parts. -/
theorem isPart_of_statusLine (line : String) (hline : '\n' ∉ line.toList) (proto reason : String)
    (n : Nat) (h : statusLine line = .ok (proto, n, reason)) :
    ("HTTP/".toList <+: proto.toList ∧ ' ' ∉ proto.toList ∧ '\n' ∉ proto.toList) ∧
      n ≤ Text.max16 ∧ IsPart reason := by
  obtain ⟨first, rest, status, tail, hfirst, hsecond, hlead, hn, rfl, rfl⟩ :=
    (statusLine_eq_ok_iff line proto reason n).mp h
  have htrim : '\n' ∉ (Text.trim line).toList := (isPart_trim line hline).2
  obtain ⟨hspace, hfirst, hrest⟩ := of_field _ _ _ hfirst
  obtain ⟨-, -, hreason⟩ := of_field _ _ _ hsecond
  refine ⟨?_, Text.le_of_decimal? _ _ _ hn, isPart_trim _ ?_⟩
  · have hchars : (String.ofList first).toList = first := String.toList_ofList
    rw [hchars]
    exact ⟨hlead, hspace, fun hmem => htrim (hfirst _ hmem)⟩
  · rw [String.toList_ofList]
    exact fun hmem => htrim (hrest _ (hreason _ hmem))

/-- The status line that is written, without its end. -/
def statusChars (r : HttpResponse) : List Char :=
  r.proto.toList ++ ' ' :: ((Text.decimal r.status).toList ++ ' ' :: r.reason.toList)

/-- The digits of a status have no space. -/
theorem space_not_mem_decimal (n : Nat) : ' ' ∉ (Text.decimal n).toList := by
  intro hmem
  cases Text.isDigit_of_mem_decimal n ' ' hmem

/-- A line that begins like one of HTTP begins with no blank. -/
theorem head_of_lead (cs more : List Char) (h : "HTTP/".toList <+: cs) (c : Char)
    (hc : (cs ++ more).head? = some c) : Text.isBlank c = false := by
  obtain ⟨rest, rfl⟩ := h
  cases hc
  rfl

/-- The digits of a status end with no blank. -/
theorem getLast_decimal (n : Nat) (c : Char) (hc : (Text.decimal n).toList.getLast? = some c) :
    Text.isBlank c = false := by
  have hrange := (Text.isDecimal_decimal n).toNat_of_mem c (List.mem_of_getLast? hc)
  simp [Text.isBlank]
  omega

/-- The status line that is written is read as what it says. -/
theorem statusLine_statusChars (r : HttpResponse) (h : r.IsNormal) :
    statusLine (String.ofList r.statusChars) = .ok (r.proto, r.status, r.reason) := by
  obtain ⟨hlead, hspace, -⟩ := h.proto
  have hdigits : (Text.decimal r.status).toList ≠ [] := by
    rw [Text.decimal, Nat.toList_repr]
    exact Nat.toDigits_ne_nil
  have hstatus : Text.decimal? Text.max16 (String.ofList (Text.decimal r.status).toList) =
      some r.status := by
    rw [String.ofList_toList]
    exact Text.decimal?_decimal _ _ h.status
  have hchars : (Text.trim (String.ofList r.statusChars)).toList =
      Text.trimChars Text.isBlank r.statusChars := by
    rw [Text.trim, String.toList_ofList, String.toList_ofList]
  rw [statusLine_eq_ok_iff, hchars]
  by_cases hreason : r.reason.toList = []
  · -- The space before the missing reason is trimmed away.
    have hshape : r.statusChars =
        (r.proto.toList ++ ' ' :: (Text.decimal r.status).toList) ++ [' '] := by
      simp [statusChars, hreason]
    have htrimmed : IsTrimmed (r.proto.toList ++ ' ' :: (Text.decimal r.status).toList) := by
      refine ⟨head_of_lead _ _ hlead, fun c hc => ?_⟩
      rw [List.append_cons, List.getLast?_append_of_ne_nil _ hdigits] at hc
      exact getLast_decimal r.status c hc
    rw [hshape, Text.trimChars_concat_blank _ ' ' rfl htrimmed]
    refine ⟨_, _, _, _, field_append _ _ hspace,
      field_of_not_mem _ (space_not_mem_decimal r.status), hlead, hstatus, String.ofList_toList, ?_⟩
    rw [String.toList_eq_nil_iff.mp hreason]
    rfl
  · have htrimmed : IsTrimmed r.statusChars := by
      refine ⟨head_of_lead _ _ hlead, fun c hc => ?_⟩
      rw [statusChars, ← List.cons_append, ← List.append_assoc, List.append_cons,
        List.getLast?_append_of_ne_nil _ hreason] at hc
      exact h.reason.1.2 c hc
    rw [Text.trimChars_of_isTrimmed _ htrimmed]
    refine ⟨_, _, _, _, field_append _ _ hspace, field_append _ _ (space_not_mem_decimal r.status),
      hlead, hstatus, String.ofList_toList, ?_⟩
    rw [Option.getD_some, String.ofList_toList]
    exact trim_of_isPart _ h.reason

/-! ## Reading -/

/-- Putting a body together keeps everything else. -/
theorem dechunk_keeps (r : HttpResponse) : ∃ body, r.dechunk = { r with body } := by
  unfold dechunk
  split
  · exact ⟨_, rfl⟩
  · exact ⟨r.body, rfl⟩

/-- What a response is read from: header and body, and lines of the header. -/
theorem parse_eq_ok_iff (b : Bytes) (r : HttpResponse) :
    parse b = .ok r ↔ ∃ line lines proto status reason,
      Text.lines (Utf8.lossy (splitLoosely b).1) = line :: lines ∧
      statusLine line = .ok (proto, status, reason) ∧
      HttpResponse.dechunk
        ⟨proto, status, reason, lines.filterMap headerLine?, (splitLoosely b).2⟩ = r := by
  unfold parse
  rcases splitLoosely b with ⟨head, body⟩
  dsimp only
  cases hlines : Text.lines (Utf8.lossy head) with
  | nil => simp
  | cons line lines =>
      dsimp only
      rw [Results.bind_eq_ok_iff]
      constructor
      · rintro ⟨⟨proto, status, reason⟩, hline, h⟩
        exact ⟨line, lines, proto, status, reason, rfl, hline, Except.ok.inj h⟩
      · rintro ⟨line', lines', proto, status, reason, hcons, hline, rfl⟩
        cases hcons
        exact ⟨(proto, status, reason), hline, rfl⟩

/-- A response that has been parsed has parts of the normal form. -/
theorem isNormal_of_parse (b : Bytes) (r : HttpResponse) (h : parse b = .ok r) : r.IsNormal := by
  obtain ⟨line, lines, proto, status, reason, hlines, hstatus, rfl⟩ := (parse_eq_ok_iff b r).mp h
  -- Lines have no line feeds, so nothing that is cut out of them has any.
  have hfeed : ∀ l ∈ line :: lines, '\n' ∉ l.toList := by
    intro l hl
    rw [← hlines] at hl
    obtain ⟨cs, hcs, rfl⟩ := List.mem_map.mp hl
    rw [String.toList_ofList]
    exact Text.lineFeed_not_mem_line _ cs hcs
  obtain ⟨hproto, hbound, hreason⟩ :=
    isPart_of_statusLine line (hfeed line List.mem_cons_self) proto reason status hstatus
  obtain ⟨body, hbody⟩ := dechunk_keeps
    ⟨proto, status, reason, lines.filterMap headerLine?, (splitLoosely b).2⟩
  rw [hbody]
  refine ⟨hproto, hbound, hreason, fun header hheader => ?_⟩
  obtain ⟨l, hl, hheader⟩ := List.mem_filterMap.mp hheader
  exact isPart_of_headerLine l (hfeed l (List.mem_cons_of_mem _ hl)) header hheader

/-! ## Writing -/

/-- The bytes of a response: its lines, a blank line and the body. -/
theorem write_eq_block (r : HttpResponse) :
    r.write =
      Utf8.encode (String.ofList (Text.block r.statusChars (r.plainHeaders.map headerChars))) ++
        blankLine ++ r.body := by
  have hheaders : (Text.join "" (r.plainHeaders.map writeHeader)).toList =
      (r.plainHeaders.map headerChars).flatMap fun line => line ++ ['\r', '\n'] := by
    rw [Text.toList_join_empty, List.flatMap_map, List.flatMap_map]
    congr 1
    funext h
    simp [writeHeader, headerChars]
  have hlines : (r.proto ++ " " ++ Text.decimal r.status ++ " " ++ r.reason ++ "\r\n" ++
      Text.join "" (r.plainHeaders.map writeHeader)).toList =
      Text.block r.statusChars (r.plainHeaders.map headerChars) ++ ['\r', '\n'] := by
    rw [Text.block_ended, ← hheaders]
    simp [statusChars]
  have htext : r.proto ++ " " ++ Text.decimal r.status ++ " " ++ r.reason ++ "\r\n" ++
      Text.join "" (r.plainHeaders.map writeHeader) ++ "\r\n" =
      String.ofList (Text.block r.statusChars (r.plainHeaders.map headerChars)) ++ "\r\n\r\n" := by
    apply String.toList_inj.mp
    rw [String.toList_append, hlines, String.toList_append, String.toList_ofList]
    simp
  have hblank : Utf8.encode "\r\n\r\n" = blankLine := rfl
  unfold write
  dsimp only
  rw [htext, Utf8.encode_append, hblank]

/-- The lines that are written have no line feeds and are not empty. -/
theorem line_written (r : HttpResponse) (h : r.IsNormal) :
    ∀ line ∈ r.statusChars :: r.plainHeaders.map headerChars, '\n' ∉ line ∧ line ≠ [] := by
  intro line hline
  rcases List.mem_cons.mp hline with rfl | hline
  · obtain ⟨-, -, hproto⟩ := h.proto
    have hstatus : '\n' ∉ (Text.decimal r.status).toList := by
      intro hmem
      cases Text.isDigit_of_mem_decimal _ _ hmem
    refine ⟨?_, by simp [statusChars]⟩
    simp [statusChars, hproto, hstatus, h.reason.2]
  · obtain ⟨header, hheader, rfl⟩ := List.mem_map.mp hline
    obtain ⟨hname, -, hvalue⟩ := h.headers header (List.mem_filter.mp hheader).1
    refine ⟨?_, by simp [headerChars]⟩
    simp [headerChars, hname.2, hvalue.2]

/-- A response that has been written is cut where its header ends. -/
theorem splitContent_write (r : HttpResponse) (h : r.IsNormal) :
    splitContent r.write =
      some (Utf8.encode (String.ofList
        (Text.block r.statusChars (r.plainHeaders.map headerChars))), r.body) := by
  have hbytes : ∀ line ∈ r.statusChars :: r.plainHeaders.map headerChars,
      0x0A ∉ Utf8.encode (String.ofList line) ∧ Utf8.encode (String.ofList line) ≠ [] := by
    intro line hline
    obtain ⟨hfeed, hne⟩ := r.line_written h line hline
    have hchars : (String.ofList line).toList = line := String.toList_ofList
    refine ⟨fun hmem => hfeed ?_, Utf8.encode_ne_nil _ (by rwa [hchars])⟩
    rw [← hchars]
    exact Utf8.mem_of_lineFeed_mem_encode _ hmem
  rw [write_eq_block, splitContent, Bytes.encode_block]
  apply Bytes.cut_block
  · exact (hbytes _ List.mem_cons_self).1
  · intro line hline
    obtain ⟨cs, hcs, rfl⟩ := List.mem_map.mp hline
    exact hbytes cs (List.mem_cons_of_mem _ hcs)

/-! ## Reading what has been written -/

/-- Without the transfer coding no body is in chunks. -/
theorem dechunk_plain (r : HttpResponse) :
    ({ r with headers := r.plainHeaders } : HttpResponse).dechunk =
      { r with headers := r.plainHeaders } := by
  have hnone : ({ r with headers := r.plainHeaders } : HttpResponse).header? "transfer-encoding" =
      none := by
    rw [header?, Option.map_eq_none_iff, List.find?_eq_none]
    intro header hheader
    simpa using (List.mem_filter.mp hheader).2
  have hchunked : ({ r with headers := r.plainHeaders } : HttpResponse).isChunked = false := by
    rw [isChunked, hnone]
  rw [dechunk, hchunked]
  rfl

/-- Leaving the transfer coding out once is enough. -/
theorem write_plain (r : HttpResponse) :
    ({ r with headers := r.plainHeaders } : HttpResponse).write = r.write := by
  have hplain : ({ r with headers := r.plainHeaders } : HttpResponse).plainHeaders =
      r.plainHeaders := by
    simp [plainHeaders]
  unfold write
  rw [hplain]

/-- A response of the normal form that is written and parsed again comes back, but for the transfer
coding. -/
theorem parse_write (r : HttpResponse) (h : r.IsNormal) :
    parse r.write = .ok { r with headers := r.plainHeaders } := by
  have hsplit : splitLoosely r.write =
      (Utf8.encode (String.ofList (Text.block r.statusChars (r.plainHeaders.map headerChars))),
        r.body) := by
    rw [splitLoosely, splitContent_write r h]
  -- Every header line is read as its header, so none is dropped.
  have hheaders : (r.plainHeaders.map headerChars |>.map String.ofList).filterMap headerLine? =
      r.plainHeaders := by
    have hread : ∀ header ∈ r.plainHeaders,
        headerLine? (String.ofList (headerChars header)) = some header := by
      intro header hheader
      obtain ⟨hname, hcolon, hvalue⟩ := h.headers header (List.mem_filter.mp hheader).1
      exact headerLine_headerChars header hname hcolon hvalue
    rw [List.filterMap_map, List.filterMap_map]
    exact (List.filterMap_congr hread).trans List.filterMap_some
  rw [parse_eq_ok_iff, hsplit]
  refine ⟨String.ofList r.statusChars, (r.plainHeaders.map headerChars).map String.ofList, r.proto,
    r.status, r.reason, ?_, statusLine_statusChars r h, ?_⟩
  · dsimp only
    rw [Utf8.lossy_encode, Text.lines, String.toList_ofList,
      Text.lineChars_block _ _ (r.line_written h)]
    rfl
  · dsimp only
    rw [hheaders]
    exact dechunk_plain r

/-- Parsing and writing a response brings it into a normal form, which parsing gives back and
writing keeps: it is the response without the transfer coding.  Matching cuts the written response
where its body begins, and sees the headers that are left, with names in lower case. -/
theorem write_normalises (b : Bytes) (r : HttpResponse) (h : parse b = .ok r) :
    parse r.write = .ok { r with headers := r.plainHeaders } ∧
    ({ r with headers := r.plainHeaders } : HttpResponse).write = r.write ∧
    (Content.ofHttp r.write).body? = some r.body ∧
    (Content.ofHttp r.write).headers = r.plainHeaders.map fun h => (Text.lower h.1, h.2) := by
  have hnormal := isNormal_of_parse b r h
  have hparse := parse_write r hnormal
  have hsplit := splitContent_write r hnormal
  have hcontent : Content.ofHttp r.write =
      { raw := r.write
        split := (splitContent r.write).map fun p => p.1.length
        headers := r.plainHeaders.map fun h => (Text.lower h.1, h.2)
        status := some r.status } := by
    unfold Content.ofHttp
    rw [hparse]
  refine ⟨hparse, write_plain r, ?_, ?_⟩
  · rw [hcontent, hsplit]
    show some (r.write.drop _) = some r.body
    rw [write_eq_block, ← List.length_append, List.drop_left]
  · rw [hcontent]

/-- A response in chunks, with a header that has no name. -/
theorem write_normalises_of_chunks :
    let b := Utf8.encode
      "HTTP/1.1 +200\r\nTransfer-Encoding:Chunked\r\n: x\r\n\r\n3\r\nabc\r\n0\r\n"
    let r : HttpResponse :=
      ⟨"HTTP/1.1", 200, "", [("Transfer-Encoding", "Chunked"), ("", "x")], Utf8.encode "abc"⟩
    parse b = .ok r ∧ parse r.write = .ok { r with headers := [("", "x")] } ∧
      (Content.ofHttp r.write).body? = some (Utf8.encode "abc") := by
  intro b r
  have hparse : parse b = .ok r := by decide +kernel
  obtain ⟨hagain, -, hbody, -⟩ := write_normalises b r hparse
  have hplain : r.plainHeaders = [("", "x")] := by decide +kernel
  rw [hplain] at hagain
  exact ⟨hparse, hagain, hbody⟩

end Fingerprinting.HttpResponse
