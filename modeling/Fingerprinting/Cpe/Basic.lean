/-
# Platform names

A platform name describes a product by eleven attributes.  An empty attribute means any value, and a
hyphen means that the attribute does not apply.  Attributes are kept as plain text; their quoting
belongs to the written forms.
-/
import Fingerprinting.Document
import Fingerprinting.Json.Basic

namespace Fingerprinting

/-- The attributes of a product. -/
structure Cpe where
  part : String := ""
  vendor : String := ""
  product : String := ""
  version : String := ""
  update : String := ""
  edition : String := ""
  swEdition : String := ""
  targetSw : String := ""
  targetHw : String := ""
  other : String := ""
  language : String := ""
deriving DecidableEq, Repr, Inhabited

namespace Cpe

/-- The value of an attribute that does not apply. -/
def notApplicable : String := "-"

/-- The name of an application. -/
def application (product : String) : Cpe := { part := "a", product }

/-- Whether a part is one that names may have: none, application, operating system, hardware or not
applicable. -/
def isPart (part : String) : Bool := ["", "a", "o", "h", notApplicable].contains part

/-- The second value, unless it is empty. -/
def prefer (old new : String) : String := if new = "" then old else new

/-- The attributes with every attribute of `b` that has a value. -/
def updated (a b : Cpe) : Cpe where
  part := prefer a.part b.part
  vendor := prefer a.vendor b.vendor
  product := prefer a.product b.product
  version := prefer a.version b.version
  update := prefer a.update b.update
  edition := prefer a.edition b.edition
  swEdition := prefer a.swEdition b.swEdition
  targetSw := prefer a.targetSw b.targetSw
  targetHw := prefer a.targetHw b.targetHw
  other := prefer a.other b.other
  language := prefer a.language b.language

/-! ## Named attributes -/

/-- The attributes with their names. -/
def named (a : Cpe) : List (String × String) := [
  ("part", a.part), ("vendor", a.vendor), ("product", a.product), ("version", a.version),
  ("update", a.update), ("edition", a.edition), ("sw_edition", a.swEdition),
  ("target_sw", a.targetSw), ("target_hw", a.targetHw), ("other", a.other),
  ("language", a.language)]

/-- The names of the attributes. -/
def names : List String := (named {}).map Prod.fst

/-- The attributes from their values in the order of `names`. -/
def ofValues : List String → Cpe
  | [part, vendor, product, version, update, edition, swEdition, targetSw, targetHw, other,
      language] =>
      { part, vendor, product, version, update, edition, swEdition, targetSw, targetHw, other,
        language }
  | _ => {}

@[simp] theorem ofValues_named (a : Cpe) : ofValues (a.named.map Prod.snd) = a := rfl

/-- The fields of a record: part, vendor and product always, others when they have a value. -/
def fields (a : Cpe) : List (String × Json) :=
  (a.named.filter fun f => ["part", "vendor", "product"].contains f.1 || f.2 != "").map
    fun f => (f.1, .string f.2)

/-- Read the attributes from the fields of a record in the order of `names`. -/
def ofSlots? (read : Document → Option String) (slots : List (Option Document)) : Option Cpe := do
  some (ofValues (← slots.mapM (Document.orElse? "" read)))

/-- Read the attributes from a record. -/
def ofDocument? (d : Document) : Option Cpe := do
  ofSlots? Document.string? (← d.slots? (names.map fun n => [n]))

/-- Read the attributes from entries that belong to a larger record. -/
def ofEntries? (entries : List (String × Document)) : Option Cpe := do
  ofSlots? Document.onlyText? (← names.mapM fun n => Document.slot? entries [n])

end Cpe

end Fingerprinting
