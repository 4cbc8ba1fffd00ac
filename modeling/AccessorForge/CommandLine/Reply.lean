import AccessorForge.CommandLine.Arguments
import AccessorForge.Commands
/-! What the program answers to its arguments: text, messages and an exit code. -/
namespace AccessorForge.CommandLine

structure Reply where
  code : Nat := 0
  out : String := ""
  err : String := ""
  failure : Option Failure := none
  deriving DecidableEq, Repr

def lines (ls : List String) : String := String.join (ls.map (· ++ "\n"))

namespace Reply

/-- The answer breaks off before a line that has no bytes. -/
def ofLines (code : Nat) (ls : List String) : Reply :=
  if ls.any Text.Surrogate.isBroken then
    { code := 1, out := lines (ls.takeWhile (!Text.Surrogate.isBroken ·)), failure := some .unencodable }
  else { code, out := lines ls }

def ofJson (code : Nat) (j : Json) : Reply := ofLines code [j.indented 0]

def ofMisuse (m : Misuse) : Reply := { code := 2, err := Text.Surrogate.spelled m.text }

def failed (message : String) : Reply := ofLines 1 ["❌ " ++ message]

def countLines (r : PassResult) : List String :=
  if r.errorCount ≠ 0 then
    ["   ❌ " ++ toString r.errorCount ++ " error(s), " ++ toString r.warningCount ++ " warning(s)"]
  else if r.warningCount ≠ 0 then ["   ⚠️  " ++ toString r.warningCount ++ " warning(s)"]
  else []

def sourceLine (o : Output) (s : GeneratedSource) : String :=
  let p := (o.target s).text
  let fate :=
    if o.written.any (·.text = p) then "✅ wrote"
    else if o.pending.any (·.text = p) then "📝 would write"
    else "✓ unchanged"
  "   " ++ fate ++ "  " ++ p ++ "  ← " ++ s.container

def summaryLines (g : Generation) : List String :=
  ("🔧 " ++ toString g.pass.containers.length ++ " annotated component(s)") ::
    g.pass.sources.map (sourceLine g.output) ++ g.pass.suppressed.map ("   ⛔ suppressed  " ++ ·) ++
    g.output.removed.map (fun p => "   🗑  removed  " ++ p.text) ++
    g.output.obsolete.map fun p => "   🗑  would remove  " ++ p.text

def ofGeneration (quiet asJson : Bool) (outcome : Outcome Generation) : Reply :=
  if asJson then ofJson 0 (Generation.toJson overrideTable outcome)
  else match outcome with
  | .error message => failed message
  | .ok g =>
    match g.error with
    | some message => failed message
    | none => ofLines (if Generation.hasErrors outcome then 1 else 0)
        ((if quiet then [] else summaryLines g) ++ g.pass.writeErrors.map ("   ❌ write failed: " ++ ·) ++
          countLines g.pass)

def ofCheck (asJson : Bool) (outcome : Outcome Check) : Reply :=
  let ok := Check.isOk outcome
  let code := if ok then 0 else 1
  if asJson then ofJson code (Check.toJson overrideTable outcome)
  else match outcome with
  | .error message => failed message
  | .ok c => ofLines code
      (c.stale.map (fun p => "   📝 out of date: " ++ p.text) ++ c.parseErrors.map ("   ⚠️  skipped: " ++ ·) ++
        countLines c.pass ++ [if ok then "✅ Generated accessors are up to date" else "❌ Check failed"])

def containerLines (suppressed : List String) (c : Container) : List String :=
  let status := if suppressed.contains c.fullName then "suppressed" else "ok"
  ["📦 " ++ c.fullName ++ " (" ++ status ++ ")", "   " ++ c.unit.displayPath ++ ":" ++ toString c.declared.line] ++
    (c.defaults.map ("   Defaults: " ++ ·)).toList ++ c.required.map ("     • " ++ ·) ++
    c.overrides.map (fun (t, e) => "     • " ++ t ++ " → " ++ e.name ++ " (" ++ e.visibility ++ ")") ++
    c.diagnostics.map fun d => "     ! " ++ d.code ++ ": " ++ d.message

def ofInspection (asJson : Bool) (outcome : Outcome Inspection) : Reply :=
  if asJson then ofJson 0 (Inspection.toJson overrideTable outcome)
  else match outcome with
  | .error message => failed message
  | .ok i =>
    if i.pass.containers.isEmpty then ofLines 0 ["No annotated components found."]
    else ofLines 0 (i.pass.containers.flatMap (containerLines i.pass.suppressed) ++ [""])

def settingsReport (path : Option Path) (s : Settings) : Json :=
  let about := [("valid", Json.bool true), ("config_path", .optional (path.map Path.text)), ("root", .text s.root.text)]
  match s.toJson with
  | .fields es => .fields (about ++ es)
  | _ => .fields about

def ofSettings (asJson : Bool) (path : Option Path) (s : Settings) : Reply :=
  if asJson then ofJson 0 (settingsReport path s)
  else
    let output := (s.outputDir.filter (· ≠ "")).getD "next to sources"
    ofLines 0 (["✅ Configuration is valid"] ++
      (if path.isNone then ["   (no " ++ Settings.fileName ++ " found, using defaults)"] else []) ++
      ["   Sources: " ++ ", ".intercalate s.sources, "   Output:  " ++ output, "   Runtime: " ++ s.runtimeModule])

def ofSettingsFault (asJson : Bool) (message : String) : Reply :=
  if asJson then ofJson 1 (.fields [("valid", .bool false), ("error", .text message)]) else failed message

end Reply

end AccessorForge.CommandLine
