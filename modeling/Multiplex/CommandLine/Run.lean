import Multiplex.CommandLine.Arguments
import Multiplex.Settings.Store
import Multiplex.Stress

/-!
# Running a command line

A command line performs one stress run.  Arguments go before the settings file,
and the settings file before the defaults.  A settings file that was named has to
be there; the default one may be missing.
-/

namespace Multiplex.CommandLine

/-! ## Texts -/

/-- The name and the version of the command. -/
def versionLine : String := "mux-stress 0.1.0"

/-- The help. -/
def helpLines : List String :=
  ["Drive concurrent exchanges through multiplexed loopback connections",
    "",
    "Usage: mux-stress [OPTIONS]",
    "",
    "Options:",
    "  -c, --config <CONFIG>            Path to configuration file",
    "  -e, --exchanges <EXCHANGES>      Number of exchanges (overrides config)",
    "      --connections <CONNECTIONS>  Maximum number of connections (overrides config)",
    "      --close-after <CLOSE_AFTER>  Close the pool after this many exchanges were dispatched",
    "  -v, --verbose                    Verbose output",
    "  -h, --help                       Print help",
    "  -V, --version                    Print version"]

/-- How a character of a quoted path is written: quotes, the backslash and
controls with a backslash in front. -/
def quoteChar (c : Char) : List Char :=
  if c == '\\' || c == '"' || c == '\'' then ['\\', c]
  else if c == '\n' then ['\\', 'n']
  else if c == '\r' then ['\\', 'r']
  else if c == '\t' then ['\\', 't']
  else if c == '\x00' then ['\\', '0']
  else if c < ' ' || ('\x7f' ≤ c && c < '\xa0') then
    ['\\', 'u', '\x7b'] ++ Nat.toDigits 16 c.toNat ++ ['\x7d']
  else [c]

/-- A path in quotes. -/
def quotePath (path : String) : String :=
  String.ofList ('"' :: path.toList.flatMap quoteChar ++ ['"'])

/-! ## The result of a command -/

/-- What a command leaves: its exit code, the lines it prints, a complaint, and
whether it performed a run. -/
structure Report where
  exitCode : Nat
  lines : List String := []
  complaint : Option String := none
  isRun : Bool := false
  deriving DecidableEq, Repr, Inhabited

/-- Why a command does not begin its run. -/
inductive StartError
  | configFile (path : String)
  | defaultFile
  | zeroLimit (limit : ZeroLimit)
  deriving DecidableEq, Repr, Inhabited

/-- The wording of a start error. -/
def StartError.message : StartError → String
  | .configFile path => "Failed to load config from " ++ quotePath path
  | .defaultFile => "Failed to load default config"
  | .zeroLimit limit => (SettingsError.zeroLimit limit).message

/-! ## Settings -/

/-- Lets arguments override settings. -/
def Arguments.override (arguments : Arguments) (settings : Settings) : Settings where
  pool := { settings.pool with
    maxConnections := arguments.connections.getD settings.pool.maxConnections }
  stress := { settings.stress with
    exchanges := arguments.exchanges.getD settings.stress.exchanges
    closeAfter := arguments.closeAfter <|> settings.stress.closeAfter }

/-- Loads the settings file that counts. -/
def Arguments.load (arguments : Arguments) (host : FileHost) (tree : FileTree)
    (defaultPath : String) : Except StartError Settings :=
  match arguments.config with
  | some path => (Settings.load host tree path).mapError fun _ => .configFile path
  | none => (Settings.loadOrDefault host tree defaultPath).mapError fun _ => .defaultFile

/-- The settings of a run. -/
def Arguments.settings (arguments : Arguments) (host : FileHost) (tree : FileTree)
    (defaultPath : String) : Except StartError Settings :=
  (arguments.load host tree defaultPath).bind fun settings =>
    let settings := arguments.override settings
    match settings.validate with
    | .ok () => .ok settings
    | .error limit => .error (.zeroLimit limit)

/-! ## Running -/

/-- The report of a stress run.  An exchange that was dispatched and has no outcome
is a failure of the run.  A run that breaks off reports nothing; where it has no room
it does so before anybody could say why. -/
def reportRun : Except Stress.Breakdown Stress.Summary → Report
  | .error .noRoom => { exitCode := 101 }
  | .error .senderStopped =>
    { exitCode := 1, complaint := some "Error: Exchange task panicked" }
  | .ok summary =>
    if summary.unresolved = 0 then { exitCode := 0, lines := summary.lines, isRun := true }
    else
      { exitCode := 1
        lines := summary.lines
        isRun := true
        complaint :=
          some ("Error: " ++ toString summary.unresolved ++ " exchanges were left unresolved") }

/-- Runs a command line with the files that there are. -/
def run (host : FileHost) (tree : FileTree) (defaultPath : String) (words : List String) :
    Report :=
  match parse words with
  | .error error => { exitCode := 2, complaint := some ("error: " ++ error.message) }
  | .ok .help => { exitCode := 0, lines := helpLines }
  | .ok .version => { exitCode := 0, lines := [versionLine] }
  | .ok (.run arguments) =>
    match arguments.settings host tree defaultPath with
    | .error error => { exitCode := 1, complaint := some ("Error: " ++ error.message) }
    | .ok settings => reportRun (Stress.run settings)

/-- The settings file that a command line reads, if it comes to that. -/
def settingsPath (defaultPath : String) (words : List String) : String :=
  match parse words with
  | .ok (.run arguments) => arguments.config.getD defaultPath
  | _ => defaultPath

end Multiplex.CommandLine
