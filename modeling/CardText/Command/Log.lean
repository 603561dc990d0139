import CardText.Document.Compile
import CardText.Text.Character

/-!
# The log of a run

A run tells what it was asked to do (in `main`), which fact each text of the card became (in
`classify_input`), and what the document holds (in `compile`). Every line has a level, a target,
which is the part of the program that tells it, a message and named values.

A filter is a list of directives. A directive sets the level up to which lines are shown: those of
all targets with a common start, or of these only the ones that name a certain value. The most
special directive about a line decides. A filter that says nothing shows errors, of which there are
none in the log.
-/

namespace CardText

/-- How much a line of the log matters. -/
inductive LogLevel
  | error
  | warn
  | info
  | debug
  | trace
  deriving DecidableEq

namespace LogLevel

/-- The name of a level. -/
def name : LogLevel → String
  | error => "ERROR"
  | warn => "WARN"
  | info => "INFO"
  | debug => "DEBUG"
  | trace => "TRACE"

/-- All levels, from those that matter most on. -/
def all : List LogLevel := [error, warn, info, debug, trace]

/-- The place of a level among all, from 1 on. -/
def depth (l : LogLevel) : Nat := l.ctorIdx + 1

end LogLevel

/-- One line of the log. -/
structure LogLine where
  level : LogLevel
  target : String
  message : String
  /-- the values that the line names, in their order -/
  values : List (String × List Char)
  deriving DecidableEq

namespace LogLine

/-- A truth value in a line. -/
def truth (b : Bool) : List Char := if b then "true".toList else "false".toList

/-- A path in a line, or its absence. -/
def path? : Option String → List Char
  | none => "None".toList
  | some path => "Some(".toList ++ Text.quoted path.toList ++ [')']

/-- What the run is asked to do. -/
def started (input output : Option String) (pretty : Bool) : LogLine :=
  { level := .info
    target := "tooltip_compiler"
    message := "compile"
    values := [("input", path? input), ("output", path? output), ("pretty", truth pretty)] }

/-- The fact that a text of the card became. -/
def classified (tier : Tier) (f : Fact) : LogLine :=
  { level := .debug
    target := "compiler::v2_0_0::classifier"
    message := "classified tooltip line"
    values :=
      [("tier", tier.name.toList), ("fact", f.display), ("extracted", truth f.extracted)] }

/-- What the document of a card holds. -/
def compiled (card : Card) (d : Document) : LogLine :=
  { level := .info
    target := "compiler::v2_0_0::document"
    message := "compiled card"
    values :=
      [("lines", Text.decimal card.length), ("facts", Text.decimal card.table.size),
        ("abilities", Text.decimal d.abilities.size), ("auras", Text.decimal d.auras.size),
        ("tooltips", Text.decimal d.localization.tooltips.length),
        ("tiers", '[' :: Fact.separated (d.tiers.keys.map fun t => t.name.toList) ++ [']'])] }

/-- A line as it is shown: its values stand behind its message. -/
def render (l : LogLine) : String :=
  l.level.name ++ " " ++ l.target ++ ": " ++ l.message ++
    String.ofList (l.values.flatMap fun v => ' ' :: v.1.toList ++ '=' :: v.2)

/-- The names in a line. The message has one too. -/
def names (l : LogLine) : List (List Char) := ("message" :: l.values.map Prod.fst).map String.toList

end LogLine

/-- The log of compiling a card: every text and its fact, then the document. Nothing is told of a
card without lines. -/
def Card.log (card : Card) : List LogLine :=
  if card.isEmpty then []
  else card.facts.map (fun e => .classified e.1 e.2) ++ [.compiled card card.compile]

/-- What is shown of some lines: the levels down to a depth. -/
structure LogDirective where
  /-- how the targets of the lines start -/
  target : List Char
  /-- a value that the lines name, or nothing if they need not name any -/
  value : List Char
  depth : Nat
  deriving DecidableEq

namespace LogDirective

/-- The depth that a word asks for: a level by its name in either case or by its place, or
nothing. A place may have a plus and zeros before it. -/
def depth? (word : List Char) : Option Nat :=
  if word.map Char.toUpper = "OFF".toList then some 0
  else
    match LogLevel.all.find? fun l => l.name.toList = word.map Char.toUpper with
    | some l => some l.depth
    | none =>
      let place := match word with
        | '+' :: digits => digits
        | digits => digits
      ((Text.number? place).map Int.toNat).filter (· ≤ LogLevel.all.length)

/-- The depth that the end of a word asks for, behind what says which lines it is about: a level
behind an equals sign. Where no level is named, everything is shown. -/
def endDepth? : List Char → Option Nat
  | '=' :: [] => some LogLevel.trace.depth
  | '=' :: level => depth? level
  | rest => if rest.all Text.isBlank then some LogLevel.trace.depth else none

/-- Whether a word about a target or a level may begin with a character. -/
def mayBegin (c : Char) : Bool := c.isAlphanum || c = '-' || c = ':' || c = '_'

/-- The directive of a word whose part in brackets is still to be read. Only a value in braces is
of use there. What else a bracket may hold is the name of a longer stretch of a run, and no line is
told within one. -/
def ofBracket? (target : List Char) : List Char → Option LogDirective
  | '{' :: cs =>
    let value := cs.takeWhile (· ≠ '}')
    match cs.dropWhile (· ≠ '}') with
    | '}' :: ']' :: rest =>
      if value.isEmpty then none else (endDepth? rest).map fun d => ⟨target, value, d⟩
    | _ => none
  | _ => none

/-- The directive of a word: a level, or the start of a target and a value in brackets, of which one
may be absent, with or without a level. -/
def parse? (word : List Char) : Option LogDirective :=
  let start := word.takeWhile fun c => c ≠ '=' && c ≠ '['
  let rest := word.dropWhile fun c => c ≠ '=' && c ≠ '['
  if start.head?.all mayBegin then
    match rest with
    | '[' :: cs => ofBracket? start cs
    | [] =>
      if start.isEmpty then none
      else
        match depth? start with
        | some d => some ⟨[], [], d⟩
        | none => some ⟨start, [], LogLevel.trace.depth⟩
    | level => if start.isEmpty then none else (endDepth? level).map fun d => ⟨start, [], d⟩
  else none

/-- Whether a directive is about a line. -/
def concerns (d : LogDirective) (l : LogLine) : Bool :=
  d.target.isPrefixOf l.target.toList && (d.value.isEmpty || l.names.contains d.value)

/-- Whether a directive is more special than another: its target is longer, or else the value comes
later in the order of names, before which stands no value at all. -/
def isMoreSpecial (d e : LogDirective) : Bool :=
  e.target.length < d.target.length ||
    (e.target.length = d.target.length && decide (e.value < d.value))

/-- The more special of two directives, the latter if they are equally so. -/
def moreSpecial (d e : LogDirective) : LogDirective := if d.isMoreSpecial e then d else e

end LogDirective

/-- Which lines of the log are shown. -/
structure LogFilter where
  directives : List LogDirective

namespace LogFilter

/-- The filter that a text describes, with directives between commas. What is no directive is
passed over. -/
def parse (text : String) : LogFilter :=
  match (text.toList.splitOn ',').filterMap LogDirective.parse? with
  | [] => ⟨[⟨[], [], LogLevel.error.depth⟩]⟩
  | ds => ⟨ds⟩

/-- Whether a line is shown. -/
def shows (f : LogFilter) (l : LogLine) : Bool :=
  match f.directives.filter (·.concerns l) with
  | [] => false
  | d :: ds => l.level.depth ≤ (ds.foldl LogDirective.moreSpecial d).depth

end LogFilter

end CardText
