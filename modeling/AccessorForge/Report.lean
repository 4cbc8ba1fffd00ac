import AccessorForge.Json
import AccessorForge.Pass
/-! Records of the domain as JSON documents, in the form in which results are reported. -/
namespace AccessorForge

def Location.toJson (l : Location) : Json :=
  .fields [("path", .text l.path), ("line", .int l.line), ("column", .int l.column)]

def Diagnostic.toJson (d : Diagnostic) : Json :=
  .fields [("severity", .text d.severity.word), ("code", .text d.code), ("message", .text d.message),
    ("location", d.location.toJson)]

def OverrideEntry.toJson (e : OverrideEntry) : Json :=
  .fields [("name", .text e.name), ("visibility", .text e.visibility)]

def overrideTable (entries : Ledger OverrideEntry) : Json := .fields (entries.map fun (t, e) => (t, e.toJson))

/-- The summary of a container; how its overrides are shown is left open. -/
def Container.toJson (showOverrides : Ledger OverrideEntry → Json) (c : Container) : Json :=
  .fields [("full_name", .text c.fullName), ("name", .text c.name), ("namespace", .text c.namespaceName),
    ("source", .text c.unit.displayPath), ("line", .int c.declared.line), ("required_types", .texts c.required),
    ("defaults", (c.defaults.map fun v => Json.fields [("visibility", .text v)]).getD .null),
    ("overrides", showOverrides c.overrides), ("diagnostics", .list (c.diagnostics.map Diagnostic.toJson))]

def GeneratedSource.summary (s : GeneratedSource) : Json :=
  .fields [("name", .text s.name), ("container", .text s.container), ("origin", .optional s.origin)]

def PassResult.toJson (showOverrides : Ledger OverrideEntry → Json) (r : PassResult) : Json :=
  .fields [("containers", .list (r.containers.map (Container.toJson showOverrides))),
    ("generated", .list (r.sources.map GeneratedSource.summary)), ("suppressed", .texts r.suppressed),
    ("write_errors", .texts r.writeErrors), ("diagnostics", .list (r.diagnostics.map Diagnostic.toJson)),
    ("errors", .int r.errorCount), ("warnings", .int r.warningCount)]

end AccessorForge
