/-
# Command line options

The options of the program. An option takes its value behind an equals sign or from the next
argument, unless that begins with a dash. A value is read when the next option comes or the
arguments end, so that an unknown argument in between is what is told of.
-/
import CrawlMesh.Number.Decimal
import CrawlMesh.Text.Split

namespace CrawlMesh.Cli

set_option autoImplicit false

/-! ## Options -/

/-- The options that take a value. -/
inductive Key
  | config
  | join
  | name
  | ip
  | port
  | spider
deriving DecidableEq, Repr, Inhabited

namespace Key

def all : List Key := [.config, .join, .name, .ip, .port, .spider]

/-- The word behind the dashes. -/
def word : Key → String
  | .config => "config"
  | .join => "join"
  | .name => "name"
  | .ip => "ip"
  | .port => "port"
  | .spider => "spider"

/-- What the value is called. -/
def valueName : Key → String
  | .config => "CONFIG"
  | .join => "JOIN"
  | .name => "NAME"
  | .ip => "IP"
  | .port => "PORT"
  | .spider => "SPIDERS"

def ofWord? (word : String) : Option Key := all.find? (·.word == word)

/-- The option with its value in running text. -/
def text (k : Key) : String := s!"--{k.word} <{k.valueName}>"

/-- What the option is for. -/
def help : Key → String
  | .config => "Node config JSON file"
  | .join => "ip:port of a cluster member to join"
  | .spider => "Spider definition JSON files to register cluster-wide"
  | .name | .ip | .port => ""

/-- Does the value name a file? -/
def isPath : Key → Bool
  | .config | .spider => true
  | _ => false

end Key

/-- What is asked for on the command line. -/
structure Options where
  config : Option String
  join : Option String
  name : Option String
  ip : Option String
  port : Option UInt16
  spiders : List String
  start : Bool
deriving DecidableEq, Repr, Inhabited

/-- Nothing asked for. -/
def Options.empty : Options := ⟨none, none, none, none, none, [], false⟩

/-! ## Faults -/

/-- Why arguments are refused. -/
inductive Usage
  | unexpectedArgument (argument : String)
  | unexpectedValue (flag value : String)
  | missingValue (key : Key)
  | repeated (option : String)
  | badValue (key : Key) (value why : String)
deriving DecidableEq, Repr, Inhabited

def Usage.message : Usage → String
  | .unexpectedArgument a => s!"unexpected argument '{a}' found"
  | .unexpectedValue flag value =>
    s!"unexpected value '{value}' for '--{flag}' found; no more were expected"
  | .missingValue key => s!"a value is required for '{key.text}' but none was supplied"
  | .repeated option => s!"the argument '{option}' cannot be used multiple times"
  | .badValue key value why => s!"invalid value '{value}' for '{key.text}': {why}"

/-- Why the arguments do not lead to options: they are refused, or ask for help. -/
inductive Stop
  | refused (usage : Usage)
  | help
deriving DecidableEq, Repr, Inhabited

/-! ## Values -/

def Options.has (o : Options) : Key → Bool
  | .config => o.config.isSome
  | .join => o.join.isSome
  | .name => o.name.isSome
  | .ip => o.ip.isSome
  | .port => o.port.isSome
  | .spider => false

/-- A port, or why a text is none. -/
def readPort (s : String) : Except String UInt16 :=
  match Decimal.readSigned 0x8000000000000000 s with
  | .error fault => .error fault.message
  | .ok n =>
    if 0 ≤ n && n < UInt16.size then .ok n.toNat.toUInt16 else .error s!"{n} is not in 0..=65535"

/-- Give an option its value. -/
def Options.set (o : Options) (key : Key) (value : String) : Except Stop Options :=
  if o.has key then .error (.refused (.repeated key.text))
  else if key.isPath && value.isEmpty then .error (.refused (.missingValue key))
  else
    match key with
    | .config => .ok { o with config := value }
    | .join => .ok { o with join := value }
    | .name => .ok { o with name := value }
    | .ip => .ok { o with ip := value }
    | .spider => .ok { o with spiders := o.spiders ++ [value] }
    | .port =>
      match readPort value with
      | .ok port => .ok { o with port := port }
      | .error why => .error (.refused (.badValue .port value why))

/-! ## Arguments -/

/-- An option whose value is not read yet, and the value if it has come. -/
abbrev Pending := Option (Key × Option String)

/-- Read the value of an option that waits for it. -/
def settle (o : Options) : Pending → Except Stop Options
  | none => .ok o
  | some (key, none) => .error (.refused (.missingValue key))
  | some (key, some value) => o.set key value

/-- A word behind dashes, and the value attached to it. -/
def splitWord (cs : List Char) : String × Option String :=
  match Text.splitFirst? '=' cs with
  | some (word, value) => (String.ofList word, some (String.ofList value))
  | none => (String.ofList cs, none)

/-- Take in an argument that begins with two dashes. -/
def long (o : Options) (p : Pending) (cs : List Char) : Except Stop (Options × Pending) :=
  let (word, value) := splitWord cs
  match Key.ofWord? word, value with
  | some key, some value => do return (← (← settle o p).set key value, none)
  | some key, none => do return (← settle o p, some (key, none))
  | none, value =>
    if word == "start" || word == "help" then
      match value with
      | some value => .error (.refused (.unexpectedValue word value))
      | none => do
        let o ← settle o p
        if word == "help" then throw .help
        else if o.start then throw (.refused (.repeated "--start"))
        else return ({ o with start := true }, none)
    else .error (.refused (.unexpectedArgument ("--" ++ word)))

/-- Take in an argument that begins with one dash. -/
def short (o : Options) (p : Pending) (c : Char) : Except Stop (Options × Pending) :=
  if c == 'h' then do
    let _ ← settle o p
    throw .help
  else .error (.refused (.unexpectedArgument (String.ofList ['-', c])))

/-- Read arguments. Nothing may follow two dashes that stand alone. -/
def readAll (o : Options) (p : Pending) : List String → Except Stop Options
  | [] => settle o p
  | a :: rest =>
    match a.toList with
    | ['-', '-'] =>
      match rest with
      | [] => settle o p
      | b :: _ => .error (.refused (.unexpectedArgument b))
    | '-' :: '-' :: cs => do
      let (o, p) ← long o p cs
      readAll o p rest
    | '-' :: c :: _ => do
      let (o, p) ← short o p c
      readAll o p rest
    | _ =>
      match p with
      | some (key, none) => readAll o (some (key, some a)) rest
      | _ => .error (.refused (.unexpectedArgument a))

/-- The options that arguments ask for. -/
def Options.read (arguments : List String) : Except Stop Options := readAll .empty none arguments

end CrawlMesh.Cli
