/-! Names that every program can use without an import, as far as the world has to tell them apart. -/
namespace AccessorForge.Hosting.Ambient

def rootClasses : List String :=
  ["BaseException", "bytearray", "bytes", "classmethod", "complex", "dict", "enumerate", "filter", "float",
    "frozenset", "int", "list", "map", "memoryview", "property", "range", "reversed", "set", "slice",
    "staticmethod", "str", "super", "tuple", "type", "zip"]

def derivedClasses : List (String × String) :=
  [("ArithmeticError", "Exception"), ("AssertionError", "Exception"), ("AttributeError", "Exception"),
    ("BaseExceptionGroup", "BaseException"), ("BlockingIOError", "OSError"),
    ("BrokenPipeError", "ConnectionError"), ("BufferError", "Exception"), ("BytesWarning", "Warning"),
    ("ChildProcessError", "OSError"), ("ConnectionAbortedError", "ConnectionError"),
    ("ConnectionError", "OSError"), ("ConnectionRefusedError", "ConnectionError"),
    ("ConnectionResetError", "ConnectionError"), ("DeprecationWarning", "Warning"),
    ("EOFError", "Exception"), ("EncodingWarning", "Warning"), ("Exception", "BaseException"),
    ("ExceptionGroup", "BaseExceptionGroup"), ("FileExistsError", "OSError"),
    ("FileNotFoundError", "OSError"), ("FloatingPointError", "ArithmeticError"),
    ("FutureWarning", "Warning"), ("GeneratorExit", "BaseException"), ("ImportError", "Exception"),
    ("ImportWarning", "Warning"), ("IndentationError", "SyntaxError"), ("IndexError", "LookupError"),
    ("InterruptedError", "OSError"), ("IsADirectoryError", "OSError"), ("KeyError", "LookupError"),
    ("KeyboardInterrupt", "BaseException"), ("LookupError", "Exception"), ("MemoryError", "Exception"),
    ("ModuleNotFoundError", "ImportError"), ("NameError", "Exception"), ("NotADirectoryError", "OSError"),
    ("NotImplementedError", "RuntimeError"), ("OSError", "Exception"), ("OverflowError", "ArithmeticError"),
    ("PendingDeprecationWarning", "Warning"), ("PermissionError", "OSError"),
    ("ProcessLookupError", "OSError"), ("RecursionError", "RuntimeError"), ("ReferenceError", "Exception"),
    ("ResourceWarning", "Warning"), ("RuntimeError", "Exception"), ("RuntimeWarning", "Warning"),
    ("StopAsyncIteration", "Exception"), ("StopIteration", "Exception"), ("SyntaxError", "Exception"),
    ("SyntaxWarning", "Warning"), ("SystemError", "Exception"), ("SystemExit", "BaseException"),
    ("TabError", "IndentationError"), ("TimeoutError", "OSError"), ("TypeError", "Exception"),
    ("UnboundLocalError", "NameError"), ("UnicodeDecodeError", "UnicodeError"),
    ("UnicodeEncodeError", "UnicodeError"), ("UnicodeError", "ValueError"),
    ("UnicodeTranslateError", "UnicodeError"), ("UnicodeWarning", "Warning"), ("UserWarning", "Warning"),
    ("ValueError", "Exception"), ("Warning", "Exception"), ("ZeroDivisionError", "ArithmeticError"),
    ("bool", "int")]

def classAliases : List (String × String) :=
  [("EnvironmentError", "OSError"), ("IOError", "OSError"), ("__loader__", "BuiltinImporter")]

def class? (name : String) : Option String :=
  match classAliases.lookup name with
  | some c => some c
  | none =>
    if rootClasses.contains name || (derivedClasses.lookup name).isSome then some name else none

/-- A class with the classes above it, the root of all excepted. -/
def lineage (c : String) : List String :=
  let rec climb : Nat → String → List String
    | 0, c => [c]
    | fuel + 1, c =>
      match derivedClasses.lookup c with
      | some above => c :: climb fuel above
      | none => [c]
  climb derivedClasses.length c

def functions : List String :=
  ["__build_class__", "__import__", "abs", "aiter", "all", "anext", "any", "ascii", "bin", "breakpoint",
    "callable", "chr", "compile", "delattr", "dir", "divmod", "eval", "exec", "format", "getattr", "globals",
    "hasattr", "hash", "hex", "id", "input", "isinstance", "issubclass", "iter", "len", "locals", "max",
    "min", "next", "oct", "open", "ord", "pow", "print", "repr", "round", "setattr", "sorted", "sum", "vars"]

def values : List (String × String) :=
  [("Ellipsis", "ellipsis"), ("NotImplemented", "NotImplementedType"), ("__spec__", "ModuleSpec"),
    ("__builtins__", "dict"), ("__doc__", "str"), ("copyright", "_Printer"), ("credits", "_Printer"),
    ("license", "_Printer"), ("exit", "Quitter"), ("quit", "Quitter"), ("help", "_Helper")]

def parameterisedClasses : List String :=
  ["list", "tuple", "dict", "set", "frozenset", "type", "enumerate", "BaseExceptionGroup", "ExceptionGroup"]

/-- Exceptions that take a fixed number of arguments, or arguments of certain types. -/
def demandingExceptions : List String :=
  ["BaseExceptionGroup", "ExceptionGroup", "UnicodeDecodeError", "UnicodeEncodeError", "UnicodeTranslateError"]

/-- Whether a class can be called with so many arguments, whatever they are; nothing stands for arguments by
name. -/
def admitsArguments (c : String) : Option Nat → Bool
  | none => false
  | some count =>
    let line := lineage c
    if line.contains "SyntaxError" then count ≠ 2
    else if line.contains "BaseException" then !demandingExceptions.contains c
    else match c with
    | "classmethod" | "staticmethod" => count = 1
    | "property" => count ≤ 4
    | "slice" => 1 ≤ count && count ≤ 3
    | "str" => count ≤ 1
    | "super" => count ≤ 2
    | "BuiltinImporter" | "bytearray" | "bytes" | "complex" | "float" | "zip" => count = 0
    | _ => false

def objectAttributes : List String :=
  ["__class__", "__delattr__", "__dir__", "__doc__", "__eq__", "__format__", "__ge__", "__getattribute__",
    "__getstate__", "__gt__", "__hash__", "__init__", "__init_subclass__", "__le__", "__lt__", "__ne__",
    "__new__", "__reduce__", "__reduce_ex__", "__repr__", "__setattr__", "__sizeof__", "__str__",
    "__subclasshook__"]

def classAttributes : List String :=
  ["__abstractmethods__", "__annotations__", "__base__", "__bases__", "__basicsize__", "__call__",
    "__dict__", "__dictoffset__", "__flags__", "__instancecheck__", "__itemsize__", "__module__", "__mro__",
    "__name__", "__or__", "__prepare__", "__qualname__", "__ror__", "__subclasscheck__", "__subclasses__",
    "__text_signature__", "__weakrefoffset__", "mro"]

end AccessorForge.Hosting.Ambient
