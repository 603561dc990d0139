import CardText.Command.Run

/-!
# The program

The command line of `main` over the files and streams of the machine. The log goes to the error
stream, as far as the variable `RUST_LOG` asks for it.
-/

namespace CardText.Program

/-- The text of bytes. -/
def decode (bytes : ByteArray) : Except FileError String :=
  match String.fromUTF8? bytes with
  | some text => .ok text
  | none => .error .invalidText

/-- What an operation of the machine fails with. -/
def fileError : IO.Error → FileError
  | .noFileOrDirectory .. => .notFound
  | .inappropriateType _ 21 _ => .isDirectory
  | .inappropriateType .. => .notDirectory
  | e => .other (toString e)

/-- Does something that may fail. -/
def attempt {α : Type} (act : IO α) : IO (Except FileError α) := do
  match ← act.toBaseIO with
  | .ok a => return .ok a
  | .error e => return .error (fileError e)

/-- The machine as a host. -/
def host (filter : LogFilter) : Host IO where
  readFile path := return (← attempt (IO.FS.readBinFile path)).bind decode
  readInput := return (← attempt do (← IO.getStdin).readBinToEnd).bind decode
  writeFile path text := attempt (IO.FS.writeFile path text)
  print text := do
    let out ← IO.getStdout
    out.putStr text
    out.flush
  report text := IO.eprint text
  log line := if filter.shows line then IO.eprintln line.render else pure ()

end CardText.Program

/-- Runs the command line and ends with its exit code. -/
def main (words : List String) : IO UInt32 := do
  let filter := CardText.LogFilter.parse ((← IO.getEnv "RUST_LOG").getD "")
  return (← CardText.Run.run (CardText.Program.host filter) words).toUInt32
