import AccessorForge.CommandLine.Nearest
import AccessorForge.Text.Quoted
/-! Reading the arguments of a command. Options stand anywhere among the other arguments, unless the command
hands the rest to one below it; two dashes end them. -/
namespace AccessorForge.CommandLine

inductive Key
  | help
  | version
  | verbose
  | quiet
  | debug
  | settingsFile
  | outputDir
  | dryRun
  | json
  deriving DecidableEq, Repr

structure Switch where
  key : Key
  names : List String
  takesValue : Bool := false
  deriving DecidableEq, Repr

structure Command where
  call : String
  synopsis : String
  switches : List Switch
  below : List String := []
  takesPaths : Bool := false
  deriving DecidableEq, Repr

/-- Wrong usage, and the command whose usage is to be shown. -/
structure Misuse where
  command : Option Command := none
  message : String
  deriving DecidableEq, Repr

def Misuse.text (m : Misuse) : String :=
  let usage := match m.command with
    | some c => "Usage: " ++ c.call ++ " " ++ c.synopsis ++ "\nTry '" ++ c.call ++ " --help' for help.\n\n"
    | none => ""
  usage ++ "Error: " ++ m.message ++ "\n"

def hint (words : List String) : String :=
  match words with
  | [] => ""
  | [w] => " Did you mean " ++ Text.Quoted.literal w ++ "?"
  | _ => " (Did you mean one of: " ++ ", ".intercalate (words.map Text.Quoted.literal) ++ "?)"

structure Given where
  key : Key
  value : String := ""
  deriving DecidableEq, Repr

/-- What was read: options in their order, and the other arguments. -/
structure Arguments where
  given : List Given := []
  rest : List String := []
  deriving DecidableEq, Repr

namespace Arguments

def has (a : Arguments) (key : Key) : Bool := a.given.any (·.key = key)

def value? (a : Arguments) (key : Key) : Option String := ((a.given.filter (·.key = key)).getLast?).map (·.value)

end Arguments

def isLong (name : String) : Bool := "--".toList.isPrefixOf name.toList

def Command.longNames (c : Command) : List String := (c.switches.flatMap (·.names)).filter isLong

def Command.switch? (c : Command) (name : String) : Option Switch := c.switches.find? (·.names.contains name)

def Command.unknownOption (c : Command) (name : String) (meant : List String) : Misuse :=
  ⟨some c, "No such option " ++ Text.Quoted.literal name ++ "." ++ hint meant⟩

def missingValue (name : String) : Misuse := ⟨none, "Option " ++ Text.Quoted.literal name ++ " requires an argument."⟩

def needlessValue (name : String) : Misuse :=
  ⟨none, "Option " ++ Text.Quoted.literal name ++ " does not take a value."⟩

abbrev Step := Except Misuse (List Given × List String)

def longOption (name : String) (own : Option String) (s : Switch) (rest : List String) : Step :=
  if s.takesValue then
    match own, rest with
    | some v, _ => .ok ([⟨s.key, v⟩], rest)
    | none, v :: rest => .ok ([⟨s.key, v⟩], rest)
    | none, [] => .error (missingValue name)
  else if own.isSome then .error (needlessValue name)
  else .ok ([⟨s.key, ""⟩], rest)

/-- Several letters behind one dash; one that takes a value takes what is left of the word, or the next
argument. -/
def shortOptions (c : Command) : List Char → List String → Step
  | [], rest => .ok ([], rest)
  | letter :: more, rest =>
    let name := String.ofList ['-', letter]
    match c.switch? name with
    | none => .error (c.unknownOption name [])
    | some s =>
      if s.takesValue then
        if more.isEmpty then
          match rest with
          | v :: rest => .ok ([⟨s.key, v⟩], rest)
          | [] => .error (missingValue name)
        else .ok ([⟨s.key, String.ofList more⟩], rest)
      else (shortOptions c more rest).map fun (given, rest) => (⟨s.key, ""⟩ :: given, rest)

/-- A name and the value that an equals sign attaches to it. -/
def splitValue (arg : String) : String × Option String :=
  let cs := arg.toList
  let name := cs.takeWhile (· ≠ '=')
  match cs.dropWhile (· ≠ '=') with
  | [] => (arg, none)
  | _ :: v => (String.ofList name, some (String.ofList v))

def option (c : Command) (arg : String) (rest : List String) : Step :=
  let (name, own) := splitValue arg
  match (c.switch? name).filter fun _ => isLong name with
  | some s => longOption name own s rest
  | none =>
    if isLong arg then .error (c.unknownOption name (nearest c.longNames name))
    else shortOptions c arg.toList.tail rest

def isOption (arg : String) : Bool := arg.toList.head? = some '-' && 1 < arg.length

def argumentsFrom (c : Command) : Nat → List String → Except Misuse Arguments
  | 0, _ => .ok {}
  | _, [] => .ok {}
  | fuel + 1, arg :: rest =>
    if arg = "--" then .ok ⟨[], rest⟩
    else if isOption arg then do
      let (given, rest) ← option c arg rest
      let a ← argumentsFrom c fuel rest
      return { a with given := given ++ a.given }
    else if c.below.isEmpty then do
      let a ← argumentsFrom c fuel rest
      return { a with rest := arg :: a.rest }
    else .ok ⟨[], arg :: rest⟩

def Command.read (c : Command) (args : List String) : Except Misuse Arguments :=
  argumentsFrom c (args.length + 1) args

def Command.refuseExtra (c : Command) (a : Arguments) : Except Misuse Unit :=
  match a.rest with
  | [] => .ok ()
  | [one] => .error ⟨some c, "Got unexpected extra argument (" ++ one ++ ")"⟩
  | more => .error ⟨some c, "Got unexpected extra arguments (" ++ " ".intercalate more ++ ")"⟩

def Command.select (c : Command) (a : Arguments) : Except Misuse (String × List String) :=
  match a.rest with
  | [] => .error ⟨some c, "Missing command."⟩
  | name :: rest =>
    if c.below.contains name then .ok (name, rest)
    else do
      if name.toList.head? = some '-' then
        let _ ← c.read a.rest
      .error ⟨some c, "No such command " ++ Text.Quoted.literal name ++ "." ++ hint (nearest c.below name)⟩

end AccessorForge.CommandLine
