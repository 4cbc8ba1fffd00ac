import AccessorForge.Accessor
/-! The text of a generated module: a marker and a header, the imports of the source unit as they stand
there, the helpers' import, and the mixin class with its accessors. -/
namespace AccessorForge

structure GeneratedSource where
  name : String
  content : String
  container : String
  module : String := ""
  origin : Option String := none
  deriving DecidableEq, Repr

/-- First line of every generated module; such files are never scanned. -/
def generatedMarker : String := "# <auto-generated by componentgen />"

def isGenerated (text : String) : Bool := generatedMarker.toList.isPrefixOf text.toList

def defaultRuntimeModule : String := "componentgen.runtime"

def runtimeNames : String := "UNRESOLVED, component_accessor, require_component"

namespace Container

/-- The unit's imports without those of the generated module itself. -/
def copiedImports (c : Container) (scope : ImportScope) : List ImportDirective :=
  (c.unit.importDirectives scope).filter fun d => !d.refersTo (Naming.moduleStem c.name)

def localNames (c : Container) (imports : List ImportDirective) : List String :=
  let imported := imports.flatMap ImportDirective.bound
  c.unit.moduleLevelNames.filter fun n => !imported.contains n

def isLocal (localNames : List String) (typeName : String) : Bool :=
  localNames.contains (Naming.leadingName typeName)

def header (c : Container) : String :=
  generatedMarker ++ "\n# Component accessors for " ++ c.fullName ++ ". Do not edit.\n"

def importLines (imports : List ImportDirective) : List String :=
  if imports.isEmpty then [] else ["\n".intercalate (imports.map (·.text)) ++ "\n"]

/-- A requirement for every overridden type that can be named at import time. -/
def requirementLines (c : Container) (localNames : List String) : String :=
  String.join ((c.overrides.keys.filter fun t => !isLocal localNames t).map fun t =>
    "@require_component(" ++ t ++ ")\n")

def mixinHead (c : Container) : String :=
  "class " ++ Naming.mixin c.name ++ ":\n" ++
  "    \"\"\"Cached component accessors for " ++ c.name ++ ".\"\"\"\n"

def accessorBlock (c : Container) (localNames : List String) (a : Accessor) : String :=
  "\n" ++ a.render (if isLocal localNames a.typeName then some c.unit.module else none)

def mixinClass (c : Container) (localNames : List String) : String :=
  c.requirementLines localNames ++ c.mixinHead ++ String.join (c.planned.map (c.accessorBlock localNames))

def render (c : Container) (scope : ImportScope) (runtimeModule : String) : String :=
  let imports := c.copiedImports scope
  "\n".intercalate (
    [c.header] ++ importLines imports ++
    ["from " ++ runtimeModule ++ " import " ++ runtimeNames ++ "\n\n", c.mixinClass (c.localNames imports)])

def generate (c : Container) (scope : ImportScope) (runtimeModule : String) : GeneratedSource :=
  ⟨Naming.outputName c.name, c.render scope runtimeModule, c.fullName, c.unit.module, c.unit.path.map Path.text⟩

end Container

end AccessorForge
