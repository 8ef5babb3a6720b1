import Gamebook.Form.Record
import Gamebook.Number.Reading

/-! # Arguments

A command is given as words: its name, then flags in any order, each once and each with a value,
which follows it or is joined to it by an equals sign. A value that begins with a hyphen has to be
joined.
-/

namespace Gamebook.Command

/-- What a player asks for. -/
inductive Request where
  | start (quest : String) (encounters : Option String) (stateOut : String)
  | choose (stateIn stateOut : String) (choice : Nat)
  | event (stateIn stateOut event : String)
deriving DecidableEq, Repr

/-- What the words on the command line ask for. -/
inductive Invocation where
  | version
  | help
  | play (request : Request)
deriving DecidableEq, Repr

/-- Whether a word asks for help. -/
def asksForHelp (word : String) : Bool :=
  word == "--help" || "-h".isPrefixOf word

/-- Whether a word asks for the version. -/
def asksForVersion (word : String) : Bool :=
  word == "--version" || "-V".isPrefixOf word

/-- Whether a word is taken for a flag where a value should stand. -/
def looksLikeFlag (word : String) : Bool :=
  "-".isPrefixOf word && word != "-"

/-- A word up to its first equals sign, with what follows the sign if there is one. -/
def splitFlag (word : String) : String × Option String :=
  let chars := word.toList
  let name := String.ofList (chars.takeWhile (· != '='))
  match chars.dropWhile (· != '=') with
  | [] => (name, none)
  | _ :: value => (name, some (String.ofList value))

/-- The number of a choice. -/
def readChoice? (text : String) : Option Nat :=
  let digits := match text.toList with
    | '+' :: rest => rest
    | cs => cs
  if digits.isEmpty || !digits.all Char.isDigit then none
  else
    let n := Number.digitsValue digits
    if n < Number.wordBound then some n else none

/-- What the value of a flag can be. -/
inductive ValueKind where
  | path
  | text
  | choice
deriving DecidableEq, Repr

/-- Whether a word is a value of a kind. A path is not empty. -/
def ValueKind.admits : ValueKind → String → Bool
  | path, word => word != ""
  | text, _ => true
  | choice, word => (readChoice? word).isSome

/-- The values that flags were given, under the names of the flags. -/
abbrev FlagValues := List (String × String)

/-- Gives a value to a flag that has none yet. -/
def FlagValues.give? (values : FlagValues) (table : List (String × ValueKind))
    (name value : String) : Option FlagValues :=
  match table.lookup name with
  | some kind =>
    if kind.admits value && (values.lookup name).isNone then some ((name, value) :: values)
    else none
  | none => none

/-- What comes of reading flags: their values, a plea for help, or words that make no sense. -/
inductive Flags where
  | given (values : FlagValues)
  | help
  | wrong
deriving DecidableEq, Repr

/-- Reads flags with the names and kinds of a table, after those whose values are known. -/
def readFlags (table : List (String × ValueKind)) (values : FlagValues) : List String → Flags
  | [] => .given values
  | word :: rest =>
    if asksForHelp word then .help
    else
      match splitFlag word with
      | (name, some value) =>
        match values.give? table name value with
        | some values => readFlags table values rest
        | none => .wrong
      | (name, none) =>
        match rest with
        | [] => if word = "--" then .given values else .wrong
        | value :: rest =>
          if looksLikeFlag value then .wrong
          else
            match values.give? table name value with
            | some values => readFlags table values rest
            | none => .wrong

/-- The flags of the request to open a quest. -/
def startFlags : List (String × ValueKind) :=
  [("--quest", .path), ("--encounters", .path), ("--state-out", .path)]

/-- The flags of the request to take a choice. -/
def chooseFlags : List (String × ValueKind) :=
  [("--state-in", .path), ("--choice", .choice), ("--state-out", .path)]

/-- The flags of the request to end a combat. -/
def eventFlags : List (String × ValueKind) :=
  [("--state-in", .path), ("--event", .text), ("--state-out", .path)]

/-- The request to open a quest. -/
def start? (values : FlagValues) : Option Request := do
  let quest ← values.lookup "--quest"
  let stateOut ← values.lookup "--state-out"
  some (.start quest (values.lookup "--encounters") stateOut)

/-- The request to take a choice. -/
def choose? (values : FlagValues) : Option Request := do
  let stateIn ← values.lookup "--state-in"
  let stateOut ← values.lookup "--state-out"
  let choice ← (values.lookup "--choice").bind readChoice?
  some (.choose stateIn stateOut choice)

/-- The request to end a combat. -/
def event? (values : FlagValues) : Option Request := do
  let stateIn ← values.lookup "--state-in"
  let stateOut ← values.lookup "--state-out"
  let event ← values.lookup "--event"
  some (.event stateIn stateOut event)

/-- What flags ask for, given how to read a request from their values. -/
def Flags.invocation? (request? : FlagValues → Option Request) : Flags → Option Invocation
  | given values => (request? values).map .play
  | help => some .help
  | wrong => none

/-- Whether words name a command, so that there is help on it. -/
def isTopic : List String → Bool
  | [] => true
  | ["help"] => true
  | ["agent"] => true
  | ["agent", command] => command ∈ ["start", "choose", "event", "help"]
  | _ => false

/-- A plea for help on a command. -/
def helpOn? (topic : List String) : Option Invocation :=
  if isTopic topic then some .help else none

/-- What the words after `agent` ask for. -/
def readAgent? : List String → Option Invocation
  | "start" :: words => (readFlags startFlags [] words).invocation? start?
  | "choose" :: words => (readFlags chooseFlags [] words).invocation? choose?
  | "event" :: words => (readFlags eventFlags [] words).invocation? event?
  | "help" :: topic => helpOn? ("agent" :: topic)
  | word :: _ => if asksForHelp word then some .help else none
  | [] => none

/-- What the words on the command line ask for, if they make sense. -/
def read? : List String → Option Invocation
  | "agent" :: words => readAgent? words
  | "help" :: topic => helpOn? topic
  | word :: _ =>
    if asksForVersion word then some .version
    else if asksForHelp word then some .help
    else none
  | [] => none

end Gamebook.Command
