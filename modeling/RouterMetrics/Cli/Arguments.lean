import RouterMetrics.Config.Environment
import RouterMetrics.Text.Digit

/-!
The command line: which configuration is read, and where to listen instead of where it says.

Each option may be given once, by its name or by a variable of the environment, and what is given
by name wins. The first word that asks for help or for the version, or that cannot be understood,
decides.
-/

namespace RouterMetrics.Cli

/-- What the command line sets. -/
structure Arguments where
  config : String
  exportAddress : Option String
  exportPort : Option Nat
deriving Repr, DecidableEq

/-- The options that take a value. -/
inductive Setting
  | config | exportAddress | exportPort
deriving Repr, DecidableEq

namespace Setting

/-- All options that take a value. -/
def all : List Setting := [.config, .exportAddress, .exportPort]

/-- The long name of an option. -/
def name : Setting → String
  | .config => "config"
  | .exportAddress => "export-address"
  | .exportPort => "export-port"

/-- The variable that an option is read from when it is not given. -/
def envName : Setting → String
  | .config => "MTIK_EXPORTER_CONFIG"
  | .exportAddress => "MTIK_EXPORTER_EXPORT_ADDRESS"
  | .exportPort => "MTIK_EXPORTER_EXPORT_PORT"

/-- The option with a long name. -/
def ofName? (name : String) : Option Setting := all.find? fun s => s.name == name

end Setting

/-- The configuration that is read when none is given. -/
def standardConfig : String := "mtik_exporter.yaml"

/-- Why a command line cannot be understood. -/
inductive Misuse
  | unknown (word : String)
  | valueMissing (setting : Setting)
  | valueUnwanted (word : String)
  | repeated (setting : Setting)
  | invalidPort (text : String)
deriving Repr, DecidableEq

/-- The text of a misuse. -/
def Misuse.message : Misuse → String
  | .unknown word => "error: unexpected argument '" ++ word ++ "' found"
  | .valueMissing s => "error: a value is required for '--" ++ s.name ++ "' but none was supplied"
  | .valueUnwanted word => "error: unexpected value in '" ++ word ++ "'"
  | .repeated s => "error: the argument '--" ++ s.name ++ "' cannot be used multiple times"
  | .invalidPort text => "error: invalid value '" ++ text ++ "' for '--export-port'"

/-- What a command line asks for. -/
inductive Request
  | run (a : Arguments)
  | help
  | version
  | misuse (m : Misuse)
deriving Repr, DecidableEq

/-! ## Words -/

/-- What a word says: an option with the value attached to it, or a question. -/
inductive Word
  | setting (s : Setting) (value : Option String)
  | help
  | version
  | endOfOptions
  | misuse (m : Misuse)
deriving Repr, DecidableEq

/-- A word that may stand as the value of the option before it. -/
def isValue (word : String) : Bool :=
  match word.toList with
  | '-' :: _ :: _ => false
  | _ => true

/-- A name and what follows the first sign of equality. -/
def splitEquals (cs : List Char) : String × Option String :=
  let name := cs.takeWhile (· != '=')
  match cs.drop name.length with
  | [] => (String.ofList name, none)
  | _ :: value => (String.ofList name, some (String.ofList value))

/-- A word that starts with two hyphens, by what follows them. -/
def longWord (word : String) (cs : List Char) : Word :=
  let (name, value) := splitEquals cs
  match Setting.ofName? name, name, value with
  | some s, _, value => .setting s value
  | none, "help", none => .help
  | none, "version", none => .version
  | none, "help", some _ => .misuse (.valueUnwanted word)
  | none, "version", some _ => .misuse (.valueUnwanted word)
  | none, _, _ => .misuse (.unknown word)

/-- A word that starts with one hyphen, by what follows it. -/
def shortWord (word : String) : List Char → Word
  | 'h' :: _ => .help
  | 'V' :: _ => .version
  | 'c' :: [] => .setting .config none
  | 'c' :: '=' :: value => .setting .config (some (String.ofList value))
  | 'c' :: value => .setting .config (some (String.ofList value))
  | _ => .misuse (.unknown word)

/-- What a word says when it is no value. -/
def Word.ofText (word : String) : Word :=
  match word.toList with
  | ['-', '-'] => .endOfOptions
  | '-' :: '-' :: cs => longWord word cs
  | ['-'] => .misuse (.unknown word)
  | '-' :: cs => shortWord word cs
  | _ => .misuse (.unknown word)

/-! ## Values -/

/-- The number of ports. -/
def portLimit : Nat := 1 <<< 16

/-- A port in base ten, perhaps with a sign. -/
def portOf? (text : String) : Option Nat :=
  let (negative, cs) := match text.toList with
    | '-' :: cs => (true, cs)
    | '+' :: cs => (false, cs)
    | cs => (false, cs)
  if cs.isEmpty || !cs.all Char.isDigit then none
  else
    let n := Text.numberOf cs
    if n < portLimit && (!negative || n == 0) then some n else none

/-- The values given so far. -/
structure Given where
  config : Option String
  exportAddress : Option String
  exportPort : Option Nat
deriving Repr, DecidableEq

namespace Given

/-- No values. -/
def nothing : Given := ⟨none, none, none⟩

/-- Whether an option has been given. -/
def has (g : Given) : Setting → Bool
  | .config => g.config.isSome
  | .exportAddress => g.exportAddress.isSome
  | .exportPort => g.exportPort.isSome

/-- Gives an option its value. -/
def set (g : Given) (s : Setting) (value : String) : Except Misuse Given :=
  if g.has s then .error (.repeated s)
  else
    match s with
    | .config => .ok { g with config := some value }
    | .exportAddress => .ok { g with exportAddress := some value }
    | .exportPort =>
      match portOf? value with
      | some port => .ok { g with exportPort := some port }
      | none => .error (.invalidPort value)

/-- Gives an option the value of its variable, unless it has one. -/
def setFrom (env : Config.Environment) (g : Given) (s : Setting) : Except Misuse Given :=
  if g.has s then .ok g
  else
    match env.get? s.envName with
    | some value => g.set s value
    | none => .ok g

/-- The arguments with the values given. -/
def arguments (g : Given) : Arguments :=
  ⟨g.config.getD standardConfig, g.exportAddress, g.exportPort⟩

end Given

/-! ## Command lines -/

/-- What is asked for when no word is left: variables give what the words have not given. -/
def finish (env : Config.Environment) (g : Given) : Request :=
  match Setting.all.foldlM (Given.setFrom env) g with
  | .ok g => .run g.arguments
  | .error m => .misuse m

/-- What the words ask for, after the values of earlier ones. -/
def readWords (env : Config.Environment) : List String → Given → Request
  | [], g => finish env g
  | word :: rest, g =>
    match Word.ofText word, rest with
    | .help, _ => .help
    | .version, _ => .version
    | .misuse m, _ => .misuse m
    | .endOfOptions, [] => finish env g
    | .endOfOptions, next :: _ => .misuse (.unknown next)
    | .setting s (some value), rest =>
      match g.set s value with
      | .ok g => readWords env rest g
      | .error m => .misuse m
    | .setting s none, [] => .misuse (.valueMissing s)
    | .setting s none, value :: rest =>
      if isValue value then
        match g.set s value with
        | .ok g => readWords env rest g
        | .error m => .misuse m
      else .misuse (.valueMissing s)

/-- What a command line asks for. -/
def read (words : List String) (env : Config.Environment) : Request :=
  readWords env words .nothing

end RouterMetrics.Cli
