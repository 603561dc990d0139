/-!
# The command line

A command line (`Args`) names the file of a card, the file that the document goes to and the
settings file, and it may ask for an indented document. Options stand before or behind the card's
file, and everything behind `--` is a file. A path follows its option as the next word, behind an
equals sign, or, if the option is a letter, right behind that. No path is empty and nothing may be
said twice.

The words are read from the left, and a word that asks for the version or for help ends the reading.
-/

namespace CardText

/-- What a command line asks to be compiled (`Args`). -/
structure Arguments where
  input : Option String := none
  output : Option String := none
  config : Option String := none
  pretty : Bool := false
  deriving DecidableEq

/-- Why a command line leads to no compilation. -/
inductive Detour
  | version
  | help
  | misuse
  deriving DecidableEq

/-- The options that take a path. -/
inductive PathOption
  | output
  | config
  deriving DecidableEq

/-- What one word of a command line says. -/
inductive Word
  /-- the word stands for itself -/
  | plain
  /-- no options follow -/
  | optionsEnd
  /-- an option whose path is the next word -/
  | pathNext (o : PathOption)
  /-- an option with its path -/
  | path (o : PathOption) (value : List Char)
  | pretty
  | detour (d : Detour)
  deriving DecidableEq

namespace Word

/-- What a letter behind a single hyphen says, and what is attached to it. -/
def ofLetter (letter : Char) (attached : List Char) : Word :=
  let withPath (o : PathOption) : Word :=
    match attached with
    | [] => pathNext o
    | '=' :: value => path o value
    | value => path o value
  if letter = 'o' then withPath .output
  else if letter = 'c' then withPath .config
  else if letter = 'V' then detour .version
  else if letter = 'h' then detour .help
  else detour .misuse

/-- What a name behind two hyphens says, and what stands behind its equals sign. -/
def ofName (name : List Char) (attached : Option (List Char)) : Word :=
  let withPath (o : PathOption) : Word :=
    match attached with
    | some value => path o value
    | none => pathNext o
  if name = "output".toList then withPath .output
  else if name = "config".toList then withPath .config
  else if attached.isSome then detour .misuse
  else if name = "pretty".toList then pretty
  else if name = "version".toList then detour .version
  else if name = "help".toList then detour .help
  else detour .misuse

/-- What stands behind the first equals sign of a word. -/
def attachedTo (s : List Char) : Option (List Char) :=
  match s.dropWhile (· ≠ '=') with
  | [] => none
  | _ :: value => some value

/-- What a word says. A hyphen alone is no option. -/
def ofChars : List Char → Word
  | ['-', '-'] => optionsEnd
  | '-' :: '-' :: s => ofName (s.takeWhile (· ≠ '=')) (attachedTo s)
  | '-' :: letter :: attached => ofLetter letter attached
  | _ => plain

end Word

namespace Arguments

/-- The command line with the card's file. -/
def withInput (a : Arguments) (path : String) : Except Detour Arguments :=
  if path.isEmpty ∨ a.input.isSome then .error .misuse else .ok { a with input := some path }

/-- The command line with the path of an option. -/
def withPath (a : Arguments) (o : PathOption) (path : String) : Except Detour Arguments :=
  if path.isEmpty then .error .misuse
  else
    match o with
    | .output => if a.output.isSome then .error .misuse else .ok { a with output := some path }
    | .config => if a.config.isSome then .error .misuse else .ok { a with config := some path }

/-- The command line with the wish for an indented document. -/
def withPretty (a : Arguments) : Except Detour Arguments :=
  if a.pretty then .error .misuse else .ok { a with pretty := true }

/-- The command line with further words, of which none is an option. -/
def withInputs (a : Arguments) : List String → Except Detour Arguments
  | [] => .ok a
  | w :: ws => (a.withInput w).bind (·.withInputs ws)

/-- The command line with further words. -/
def withWords (a : Arguments) : List String → Except Detour Arguments
  | [] => .ok a
  | w :: ws =>
    match Word.ofChars w.toList with
    | .plain => (a.withInput w).bind (·.withWords ws)
    | .optionsEnd => a.withInputs ws
    | .pathNext o =>
      match ws with
      | [] => .error .misuse
      | v :: ws =>
        match Word.ofChars v.toList with
        | .plain => (a.withPath o v).bind (·.withWords ws)
        | _ => .error .misuse
    | .path o value => (a.withPath o (String.ofList value)).bind (·.withWords ws)
    | .pretty => a.withPretty.bind (·.withWords ws)
    | .detour d => .error d

/-- The command line of a list of words. -/
def parse (words : List String) : Except Detour Arguments := ({} : Arguments).withWords words

end Arguments

end CardText
