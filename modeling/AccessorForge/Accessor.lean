import AccessorForge.Container
import AccessorForge.Text.Quoted
/-! The accessors planned for a container, and their text. Auto-named accessors come first, in the order of
the required types, then the overrides; an overridden type has no accessor of its own. -/
namespace AccessorForge

structure Accessor where
  visibility : String
  typeName : String
  property : String
  deriving DecidableEq, Repr

namespace Accessor

def cacheField (a : Accessor) : String := Naming.cacheField a.property

def taken (a : Accessor) : List String := [a.property, a.cacheField]

/-- One cache field and the accessor that fills it on first read, piece by piece. A type of the container's own
module is imported inside the accessor, once that module has finished loading. -/
def pieces (a : Accessor) (localModule : Option String) : List String :=
  let field := a.cacheField
  let lazyImport := match localModule with
    | some m => ["            from ", m, " import ", Naming.leadingName a.typeName, "\n"]
    | none => []
  ["    ", field, " = UNRESOLVED\n", "\n", "    @component_accessor(", Text.Quoted.quote a.visibility, ")\n",
    "    def ", a.property, "(self) -> \"", a.typeName, " | None\":\n", "        if self.", field,
    " is UNRESOLVED:\n"] ++
  lazyImport ++
  ["            self.", field, " = self.get_component(", a.typeName, ")\n", "        return self.", field, "\n"]

def render (a : Accessor) (localModule : Option String) : String := String.join (a.pieces localModule)

end Accessor

namespace Container

def autoNamed (c : Container) : List Accessor :=
  match c.defaults with
  | some visibility =>
    (c.required.filter fun t => !Ledger.has c.overrides t).map fun t =>
      ⟨visibility, t, Naming.defaultProperty t⟩
  | none => []

def customNamed (c : Container) : List Accessor := c.overrides.map fun (t, e) => ⟨e.visibility, t, e.name⟩

def planned (c : Container) : List Accessor := c.autoNamed ++ c.customNamed

end Container

end AccessorForge
