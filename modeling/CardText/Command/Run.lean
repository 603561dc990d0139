import CardText.Card.Reader
import CardText.Command.Arguments
import CardText.Command.Log
import CardText.Command.Workspace
import CardText.Document.Json
import CardText.Settings.Reader

/-!
# A run of the command line

A run (`main`) reads the settings (`load`), reads the card (`read_input`), compiles it and writes
the document (`write_output`), in this order, and the first thing that fails ends it with a report.
The document is a whole text before anything is written, so a run that fails has changed nothing.

What a run does to its surroundings goes through a `Host`. A `Session` is a host that is nothing but
a value: the files, the text that comes in, and all that goes out.
-/

namespace CardText

/-- What a run needs of its surroundings. -/
structure Host (m : Type → Type) where
  readFile : String → m (Except FileError String)
  readInput : m (Except FileError String)
  writeFile : String → String → m (Except FileError Unit)
  print : String → m Unit
  report : String → m Unit
  log : LogLine → m Unit

/-- Why a run fails. -/
inductive RunError
  | unreadableConfig (path : String) (cause : FileError)
  | badConfig (path : String)
  | unreadableFile (path : String) (cause : FileError)
  | unreadableInput (cause : FileError)
  | badCard (cause : ReadError)
  | unwritable (path : String) (cause : FileError)

namespace RunError

/-- A text with its further lines moved in. -/
def movedIn (s : List Char) : List Char :=
  s.flatMap fun c => if c = '\n' then "\n    ".toList else [c]

/-- The report of what failed, and why. -/
def withCause (what cause : String) : String :=
  "Error: " ++ what ++ "\n\nCaused by:\n    " ++ String.ofList (movedIn cause.toList) ++ "\n"

/-- The first line of a text. -/
def firstLine (s : String) : String := String.ofList (s.toList.takeWhile (· ≠ '\n'))

/-- What a run reports when it fails. Of settings that cannot be used only one line is told, and it
ends where the path does or before the path's own first line break. -/
def report : RunError → String
  | unreadableConfig path cause => withCause ("failed to read config " ++ path) cause.message
  | badConfig path => firstLine ("Error: invalid config " ++ path)
  | unreadableFile path cause => withCause ("failed to read " ++ path) cause.message
  | unreadableInput cause => withCause "failed to read stdin" cause.message
  | badCard cause => withCause ReadError.meaning (String.ofList cause.message)
  | unwritable path cause => withCause ("failed to write " ++ path) cause.message

end RunError

namespace Run

/-- What is printed when the version is asked for. -/
def versionText : String := "cli 0.1.0\n"

/-- How a command line looks. -/
def usageText : String := "Usage: tooltip-compiler [OPTIONS] [INPUT]\n"

/-- What is printed when help is asked for. -/
def helpText : String :=
  "Compile card tooltip lines into a card document\n\n" ++ usageText ++ "\n" ++
  "Arguments:\n" ++
  "  [INPUT]  Tooltip JSON to compile. Reads stdin when absent or `-`\n\n" ++
  "Options:\n" ++
  "  -o, --output <OUTPUT>  Where to write the document. Defaults to stdout\n" ++
  "  -c, --config <CONFIG>  TOML settings file\n" ++
  "      --pretty           Indent the document JSON\n" ++
  "  -h, --help             Print help\n" ++
  "  -V, --version          Print version\n"

/-- Whether a path means the text that comes in: a hyphen, with nothing behind it but slashes and
parts that stay where they are. -/
def meansInput (path : String) : Bool :=
  match Path.parts path with
  | part :: rest => part = "-" && rest.all Path.isStay
  | [] => false

variable {m : Type → Type} [Monad m]

/-- The value of a step, or the failure that its error means. -/
def require {ε α : Type} (step : m (Except ε α)) (failure : ε → RunError) : ExceptT RunError m α :=
  ExceptT.mk do
    match ← step with
    | .ok a => return .ok a
    | .error e => return .error (failure e)

/-- The settings that the command line names (`load`). -/
def settings (host : Host m) : Option String → ExceptT RunError m Settings
  | none => return {}
  | some path => do
    let text ← require (host.readFile path) (.unreadableConfig path)
    match Settings.parse? text with
    | some s => return s
    | none => throw (.badConfig path)

/-- The text of the card (`read_input`). -/
def cardText (host : Host m) : Option String → ExceptT RunError m String
  | none => require host.readInput .unreadableInput
  | some path =>
    if meansInput path then require host.readInput .unreadableInput
    else require (host.readFile path) (.unreadableFile path)

/-- Puts a text where the document goes (`write_output`). -/
def deliver (host : Host m) (text : String) : Option String → ExceptT RunError m Unit
  | none => ExceptT.lift (host.print text)
  | some path => require (host.writeFile path text) (.unwritable path)

/-- Compiles the card that a command line names (`main`). -/
def compile (host : Host m) (a : Arguments) : ExceptT RunError m Unit := do
  let s ← settings host a.config
  let pretty := a.pretty || s.pretty
  let output := a.output <|> s.output
  ExceptT.lift (host.log (.started a.input output pretty))
  let text ← cardText host a.input
  match Card.read text with
  | .error e => throw (.badCard e)
  | .ok card =>
    ExceptT.lift (card.log.forM host.log)
    deliver host (card.compile.render pretty ++ "\n") output

/-- A run with a list of words. The result is its exit code. -/
def run (host : Host m) (words : List String) : m Nat := do
  match Arguments.parse words with
  | .error .version =>
    host.print versionText
    return 0
  | .error .help =>
    host.print helpText
    return 0
  | .error .misuse =>
    host.report usageText
    return 2
  | .ok a =>
    match ← (compile host a).run with
    | .ok () => return 0
    | .error e =>
      host.report e.report
      return 1

end Run

/-- A run's surroundings as a value. -/
structure Session where
  workspace : Workspace
  /-- the text that comes in -/
  input : String
  /-- the text that has gone out -/
  printed : String := ""
  /-- the reports -/
  reported : String := ""
  /-- the log, unfiltered -/
  logged : List LogLine := []

namespace Session

/-- The host that a session is. -/
def host : Host (StateM Session) where
  readFile path := return (← get).workspace.read path
  readInput := return .ok (← get).input
  writeFile path text := do
    let s ← get
    match s.workspace.write path text with
    | .ok w =>
      set { s with workspace := w }
      return .ok ()
    | .error e => return .error e
  print text := modify fun s => { s with printed := s.printed ++ text }
  report text := modify fun s => { s with reported := s.reported ++ text }
  log line := modify fun s => { s with logged := s.logged ++ [line] }

/-- The exit code of a run in a session, and the session after it. -/
def run (s : Session) (words : List String) : Nat × Session := (Run.run host words).run s

/-- The lines of the log that a filter shows. -/
def logTexts (s : Session) (filter : LogFilter) : List String :=
  (s.logged.filter filter.shows).map LogLine.render

end Session

end CardText
