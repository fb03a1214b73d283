/-
# Inspection of engines

Complete JSON views of the records that corpora hold.
-/
import Fingerprinting.EHole
import Fingerprinting.Goby.Basic
import Fingerprinting.Hub
import Fingerprinting.Inspection.Basic
import Fingerprinting.Wappalyzer.Basic

namespace Fingerprinting

/-- A dictionary of texts as an object. -/
def Dictionary.view (d : Dictionary String) : Json :=
  .object (d.entries.map fun (k, v) => (k, .string v))

/-- The fields of a hub record. -/
def HubRecord.view (r : HubRecord) : Json :=
  .array [.string r.name, .string r.path, .string r.method, .nat r.status, r.headers.view,
    .strings r.keywords, .strings r.icons]

/-- A finger with its labelled features. -/
def GobyFinger.view (f : GobyFinger) : Json :=
  .array [.string f.name, .string f.logic,
    .array (f.tests.map fun t => .array [.string t.label, .string t.feature, .bool t.isEqual])]

mutual

/-- A logic: a label, a truth value, or an object with one field. -/
def Goby.Expr.view : Goby.Expr → Json
  | .const b => .bool b
  | .label name => .string name
  | .not e => .object [("not", e.view)]
  | .and items => .object [("and", .array (viewsOf items))]
  | .or items => .object [("or", .array (viewsOf items))]

/-- The views of some logics. -/
def Goby.Expr.viewsOf : List Goby.Expr → List Json
  | [] => []
  | e :: rest => e.view :: viewsOf rest

end

/-- A logic with its labels, and its value for each of some lists of true labels. -/
def Goby.Expr.fullView (e : Goby.Expr) (envs : List (List String)) : Json :=
  .sorted [
    ("expr", e.view),
    ("labels", .strings e.labels),
    ("evals", .array (envs.map fun env => .bool (e.eval env.contains)))]

/-- A template for a version. -/
def Wappalyzer.VersionTemplate.view (t : Wappalyzer.VersionTemplate) : Json :=
  .sorted [("empty", .bool t.isEmpty), ("literal", .orNull .string t.literal?),
    ("render", .string (t.render fun _ => ""))]

/-- A pattern with the versions that it finds in some texts. -/
def Wappalyzer.Pattern.view (p : Wappalyzer.Pattern) (targets : List Bytes) : Json :=
  .sorted [
    ("confidence", .nat p.confidence),
    ("version_empty", .bool p.version.isEmpty),
    ("literal", .orNull .string p.version.literal?),
    ("hits", .array (targets.map fun b => .orNull .string (p.version? b)))]

/-- An application without its patterns. -/
def Wappalyzer.App.view (a : Wappalyzer.App) : Json :=
  .sorted [
    ("name", .string a.name),
    ("categories", .strings a.categories),
    ("cpe", .orNull Cpe.view a.cpe),
    ("description", .string a.description),
    ("website", .string a.website),
    ("implies", .array (a.implies.map fun i =>
      .array [.string i.name, .orNull .string i.version]))]

end Fingerprinting
