/-
# Looking up headers by name

A content keeps its headers under their names in lower case.  Looking up one value takes the name in
lower case too, but looking up all values takes it in lower case as far as its ASCII letters go.  Both
find the same headers for a name whose other letters are in lower case already.  For every other name
there are no values, whatever headers there are.

* `headerValue?_ofHttp` and `headerValues_ofHttp` say what either of them finds among the headers as
  they were written.

Main statement: `header_lookups`.
-/
import Fingerprinting.Response.Content
import Fingerprinting.Proofs.Text.AsciiCase

namespace Fingerprinting.Content

/-! ## Headers as they were written -/

/-- The headers of a response as they were written; bytes that are no response have none. -/
def writtenHeaders (raw : Bytes) : List (String × String) :=
  match HttpResponse.parse raw with
  | .ok r => r.headers
  | .error _ => []

/-- The values of the headers that have a name in some case. -/
def valuesUnder (raw : Bytes) (name : String) : List String :=
  ((writtenHeaders raw).filter fun h => Text.lower h.1 == Text.lower name).map Prod.snd

/-- A content has the headers of its response under their names in lower case. -/
theorem headers_ofHttp (raw : Bytes) :
    (ofHttp raw).headers = (writtenHeaders raw).map fun h => (Text.lower h.1, h.2) := by
  rw [ofHttp, writtenHeaders]
  cases HttpResponse.parse raw with
  | ok r => rfl
  | error e => rfl

/-! ## Look-ups -/

/-- The value under a name is that of the first header which has the name in some case. -/
theorem headerValue?_ofHttp (raw : Bytes) (name : String) :
    (ofHttp raw).headerValue? name = (valuesUnder raw name).head? := by
  rw [headerValue?, headers_ofHttp, valuesUnder, List.head?_map, List.head?_filter, List.find?_map,
    Option.map_map]
  rfl

/-- The values under a name are those of the headers which have the name in some case, as long as
its letters outside ASCII are in lower case. -/
theorem headerValues_ofHttp (raw : Bytes) (name : String) :
    (ofHttp raw).headerValues name =
      if Text.IsAsciiCased name then valuesUnder raw name else [] := by
  have hvalues : (ofHttp raw).headerValues name =
      ((writtenHeaders raw).filter fun h =>
        Text.sameIgnoringAsciiCase (Text.lower h.1) name).map Prod.snd := by
    rw [headerValues, headers_ofHttp, List.filter_map, List.map_map]
    rfl
  rw [hvalues]
  by_cases hcased : Text.IsAsciiCased name
  · have hsame : ∀ h ∈ writtenHeaders raw,
        Text.sameIgnoringAsciiCase (Text.lower h.1) name = (Text.lower h.1 == Text.lower name) := by
      intro h _
      rw [Bool.eq_iff_iff, Text.sameIgnoringAsciiCase_lower_iff, beq_iff_eq]
      exact and_iff_right hcased
    rw [if_pos hcased, valuesUnder, List.filter_congr hsame]
  · have hother : ∀ h ∈ writtenHeaders raw,
        ¬ Text.sameIgnoringAsciiCase (Text.lower h.1) name = true := by
      intro h _ hsame
      exact hcased ((Text.sameIgnoringAsciiCase_lower_iff _ _).mp hsame).1
    rw [if_neg hcased, List.filter_eq_nil_iff.mpr hother]
    rfl

/-- Both look-ups mean the headers that have a name in some case: the one value is that of the first
of them, and all values are theirs unless a letter of the name outside ASCII is not in lower case, in
which case there are none.  So the one value is the first of all values exactly when the name has no
such letter or there is no header of the name, and always once the name is in lower case. -/
theorem header_lookups (raw : Bytes) (name : String) :
    let c := ofHttp raw
    c.headerValue? name = (valuesUnder raw name).head? ∧
    c.headerValues name = (if Text.IsAsciiCased name then valuesUnder raw name else []) ∧
    (c.headerValue? name = (c.headerValues name).head? ↔
      Text.IsAsciiCased name ∨ valuesUnder raw name = []) ∧
    c.headerValue? name = (c.headerValues (Text.lower name)).head? := by
  intro c
  have hvalue : c.headerValue? name = (valuesUnder raw name).head? := headerValue?_ofHttp raw name
  have hvalues := headerValues_ofHttp raw name
  refine ⟨hvalue, hvalues, ?_, ?_⟩
  · rw [hvalue, hvalues]
    by_cases hcased : Text.IsAsciiCased name
    · rw [if_pos hcased]
      exact iff_of_true rfl (.inl hcased)
    · rw [if_neg hcased, List.head?_nil, List.head?_eq_none_iff]
      exact (or_iff_right hcased).symm
  · have hlower : valuesUnder raw (Text.lower name) = valuesUnder raw name := by
      rw [valuesUnder, Text.lower_lower, valuesUnder]
    rw [hvalue, headerValues_ofHttp, if_pos (Text.isAsciiCased_lower name), hlower]

/-- A header whose name has a letter outside ASCII is not among the values under its own name when
that letter is a capital. -/
theorem header_lookups_of_capital :
    let raw := Utf8.encode "HTTP/1.1 200 OK\r\nÉtat: ok\r\n\r\n"
    let c := ofHttp raw
    valuesUnder raw "État" = ["ok"] ∧ ¬ Text.IsAsciiCased "État" ∧
      c.headerValue? "État" = some "ok" ∧ c.headerValues "État" = [] ∧
      c.headerValues "état" = ["ok"] := by
  intro raw c
  have hunder : valuesUnder raw "État" = ["ok"] := by decide +kernel
  have hcased : ¬ Text.IsAsciiCased "État" := by decide +kernel
  obtain ⟨hvalue, hvalues, -, -⟩ := header_lookups raw "État"
  refine ⟨hunder, hcased, ?_, ?_, by decide +kernel⟩
  · rw [hvalue, hunder]
    rfl
  · rw [hvalues, if_neg hcased]

end Fingerprinting.Content
