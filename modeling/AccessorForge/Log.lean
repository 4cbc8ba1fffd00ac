import AccessorForge.Ledger
/-! Log levels, layouts and channels. A record is plain data; where and how it is shown is decided by the
channels that a command sets up once. -/
namespace AccessorForge.Log

structure Record where
  level : Nat
  logger : String
  message : String
  deriving DecidableEq, Repr

def debug : Nat := 10
def info : Nat := 20
def warning : Nat := 30
def error : Nat := 40
def critical : Nat := 50

def levelNames : List (String × Nat) :=
  [("NOTSET", 0), ("DEBUG", debug), ("INFO", info), ("WARN", warning), ("WARNING", warning), ("ERROR", error),
    ("CRITICAL", critical), ("FATAL", critical)]

def levelName (level : Nat) : String :=
  if level = debug then "DEBUG" else if level = info then "INFO" else if level = warning then "WARNING"
  else if level = error then "ERROR" else "CRITICAL"

/-- Upper case for comparison with level names: of the letters above ASCII only the dotless i and the long
s have an ASCII capital. -/
def capital (c : Char) : Char :=
  if c = 'ı' then 'I' else if c = 'ſ' then 'S' else c.toUpper

/-- The level of a name in any case; an absent or unknown name means warnings. -/
def parseLevel (name : Option String) : Nat :=
  match name with
  | none => warning
  | some n => (Ledger.get? levelNames (String.ofList (n.toList.map capital))).getD warning

/-- How a record becomes a line: in full, without its level, or its message alone. -/
inductive Layout
  | full
  | short
  | bare
  deriving DecidableEq, Repr

/-- More context the more verbose the level. -/
def Layout.forConsole (level : Int) : Layout :=
  if level ≤ debug then .full else if level ≤ info then .short else .bare

def Layout.pattern : Layout → String
  | .full => "%(asctime)s %(levelname)-5s %(name)s:%(lineno)d — %(message)s"
  | .short => "%(asctime)s [%(name)s] %(message)s"
  | .bare => "%(message)s"

def consoleDatePattern : Layout → Option String
  | .bare => none
  | _ => some "%H:%M:%S"

def fileDatePattern : String := "%Y-%m-%d %H:%M:%S"

def padRight (width : Nat) (s : String) : String :=
  s ++ String.ofList (List.replicate (width - s.length) ' ')

/-- A line of output; `stamp` is the time as the caller shows it. -/
def Layout.render (stamp : String) (r : Record) : Layout → String
  | .full => stamp ++ " " ++ padRight 5 (levelName r.level) ++ " " ++ r.logger ++ " — " ++ r.message ++ "\n"
  | .short => stamp ++ " [" ++ r.logger ++ "] " ++ r.message ++ "\n"
  | .bare => r.message ++ "\n"

inductive Sink
  | console
  | file
  deriving DecidableEq, Repr

structure Channel where
  sink : Sink
  level : Nat
  layout : Layout
  deriving DecidableEq, Repr

def Channel.datePattern (c : Channel) : Option String :=
  match c.sink with
  | .console => consoleDatePattern c.layout
  | .file => some fileDatePattern

structure Setup where
  root : Nat
  channels : List Channel
  deriving DecidableEq, Repr

/-- The console always; a file too when one is named, at its own level or else at the console's. -/
def setup (level : Option String) (toFile : Bool) (fileLevel : Option String) : Setup :=
  let consoleLevel := parseLevel level
  let console : Channel := ⟨.console, consoleLevel, Layout.forConsole consoleLevel⟩
  if toFile then
    let own := match fileLevel with
      | some n => if n = "" then consoleLevel else parseLevel (some n)
      | none => consoleLevel
    ⟨min consoleLevel own, [console, ⟨.file, own, .full⟩]⟩
  else ⟨consoleLevel, [console]⟩

def Setup.lines (s : Setup) (stamp : String) (sink : Sink) (records : List Record) : String :=
  String.join ((s.channels.filter (·.sink = sink)).flatMap fun c =>
    (records.filter fun r => s.root ≤ r.level && c.level ≤ r.level).map (c.layout.render stamp))

end AccessorForge.Log
