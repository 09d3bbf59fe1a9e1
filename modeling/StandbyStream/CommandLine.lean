import StandbyStream.Environment
import StandbyStream.Text.Cut
import StandbyStream.Text.Decimal

/-!
# Command lines

The arguments of a program by a table of its options. Options begin with two
dashes; a value follows as the next argument or behind an equals sign. No
option may be given twice. What the arguments do not say is looked up in the
environment. A program may have subcommands with options of their own.

Reading halts at the first thing wrong and at the first wish for help,
whichever comes first. An option whose value is an argument of its own counts
as read when the next option begins.
-/

namespace StandbyStream.CommandLine

/-! ## Options and their values -/

/-- What an option holds. -/
inductive Kind where
  /-- Nothing but being there. -/
  | switch
  | text
  /-- A text that is not empty. -/
  | path
  /-- A number of 32 bits. -/
  | word
  /-- A number of 64 bits. -/
  | natural
  deriving DecidableEq, Repr

/-- An option by its name without the dashes, and the variable that stands in for it. -/
structure OptionSpec where
  name : String
  kind : Kind
  stand : Option String
  deriving DecidableEq, Repr

/-- The value of an option. -/
inductive Value where
  | switch (on : Bool)
  | text (value : String)
  | number (value : Nat)
  deriving DecidableEq, Repr

/-- Why reading halts. -/
inductive Halt where
  /-- The arguments or the environment are wrong. -/
  | usage
  /-- Help or the version is wanted. -/
  | help
  deriving DecidableEq, Repr

/-- Reads a number of 32 bits; zero may have a minus sign. -/
def readWord? (raw : String) : Option Nat :=
  match raw.toList with
  | '-' :: digits => if digits ≠ [] ∧ digits.all (· == '0') then some 0 else none
  | _ => (Text.readNumber (Text.maxOfBits 32) raw).toOption

/-- Reads the value of an option. -/
def readValue? (kind : Kind) (raw : String) : Option Value :=
  match kind with
  | .switch =>
    if raw = "true" then some (.switch true)
    else if raw = "false" then some (.switch false)
    else none
  | .text => some (.text raw)
  | .path => if raw = "" then none else some (.text raw)
  | .word => (readWord? raw).map .number
  | .natural => (Text.readNumber (Text.maxOfBits 64) raw).toOption.map .number

/-- Values by the names of their options. -/
abbrev Values := List (String × Value)

namespace Values

/-- The value is a text. -/
def text? (values : Values) (name : String) : Option String :=
  match values.lookup name with
  | some (.text value) => some value
  | _ => none

/-- The value is a number. -/
def number? (values : Values) (name : String) : Option Nat :=
  match values.lookup name with
  | some (.number value) => some value
  | _ => none

/-- The value is a number of 32 bits. -/
def word? (values : Values) (name : String) : Option UInt32 :=
  (values.number? name).map UInt32.ofNat

/-- The switch is on. -/
def isOn (values : Values) (name : String) : Bool :=
  values.lookup name == some (.switch true)

/-- Takes a value for an option that has none yet. -/
def accept (values : Values) (spec : OptionSpec) (raw : String) : Except Halt Values :=
  match values.lookup spec.name, readValue? spec.kind raw with
  | none, some value => .ok (values ++ [(spec.name, value)])
  | _, _ => .error .usage

/-- Takes the value of a variable for an option that has none. -/
def complete (env : Environment) (values : Values) (spec : OptionSpec) : Except Halt Values :=
  if (values.lookup spec.name).isSome then .ok values
  else
    match spec.stand.bind env.get? with
    | none => .ok values
    | some bytes =>
      match Text.decodeUtf8? bytes with
      | none => .error .usage
      | some raw => values.accept spec raw

end Values

/-! ## Grammar -/

/-- What a program understands. -/
structure Grammar where
  options : List OptionSpec
  /-- The version can be asked for. -/
  hasVersion : Bool
  /-- The options of every subcommand; one of them is needed if there are any. -/
  subcommands : List (String × List OptionSpec)
  deriving Repr

namespace Grammar

/-- The grammar behind a subcommand. -/
def ofSubcommand (options : List OptionSpec) : Grammar :=
  ⟨options, false, []⟩

/-- The variables that stand in for options. -/
def variableNames (g : Grammar) : List String :=
  g.options.filterMap (·.stand)

/-- The name of a subcommand; programs with subcommands have one for help. -/
def isSubcommand (g : Grammar) (arg : String) : Bool :=
  !g.subcommands.isEmpty && (arg == "help" || (g.subcommands.lookup arg).isSome)

/-- The names that ask for help. -/
def asksForHelp (g : Grammar) (name : String) : Bool :=
  name == "help" || (g.hasVersion && name == "version")

/-- The letters that ask for help. -/
def letterAsksForHelp (g : Grammar) (letter : Char) : Bool :=
  letter == 'h' || (g.hasVersion && letter == 'V')

end Grammar

/-! ## Scanning -/

/-- What has been read: values, and the last option with the argument that is its value, as long
as it does not count as read. -/
structure Scan where
  values : Values
  pending : Option (OptionSpec × Option String)
  deriving Repr

namespace Scan

/-- Nothing has been read. -/
def start : Scan :=
  ⟨[], none⟩

/-- The last option needs a value. -/
def awaits (scan : Scan) : Bool :=
  scan.pending.any (·.2.isNone)

/-- Counts the last option as read. -/
def settle (scan : Scan) : Except Halt Scan :=
  match scan.pending with
  | none => .ok scan
  | some (_, none) => .error .usage
  | some (spec, some raw) => (scan.values.accept spec raw).map fun values => ⟨values, none⟩

/-- Help is wanted, and what came before is right. -/
def halt (scan : Scan) : Except Halt Scan :=
  match scan.settle with
  | .ok _ => .error .help
  | .error reason => .error reason

/-- Takes an option by its name, with what stands behind an equals sign. -/
def takeOption (g : Grammar) (scan : Scan) (name : String) (attached : Option String) :
    Except Halt Scan :=
  if g.asksForHelp name then if attached.isSome then .error .usage else scan.halt
  else
    match g.options.find? (·.name == name) with
    | none => .error .usage
    | some spec => do
      let scan ← scan.settle
      match spec.kind, attached with
      | .switch, some _ => throw .usage
      | .switch, none => return { scan with values := ← scan.values.accept spec "true" }
      | _, some raw => return { scan with values := ← scan.values.accept spec raw }
      | _, none => return { scan with pending := some (spec, none) }

/-- Takes the letter behind a single dash. -/
def takeLetter (g : Grammar) (scan : Scan) (letter : Char) : Except Halt Scan :=
  if g.letterAsksForHelp letter then scan.halt else .error .usage

/-- Takes an argument that is no option. -/
def takePlain (scan : Scan) (arg : String) : Except Halt Scan :=
  match scan.pending with
  | some (spec, none) => .ok { scan with pending := some (spec, some arg) }
  | _ => .error .usage

/-- Takes an argument. -/
def take (g : Grammar) (scan : Scan) (arg : String) : Except Halt Scan :=
  match arg.toList with
  | '-' :: '-' :: rest =>
    match Text.cutFirst '=' rest with
    | some (name, value) => scan.takeOption g (String.ofList name) (some (String.ofList value))
    | none => scan.takeOption g (String.ofList rest) none
  | '-' :: letter :: _ => scan.takeLetter g letter
  | _ => scan.takePlain arg

/-- Takes arguments up to the name of a subcommand; two dashes alone end the options, and nothing
may follow them. -/
def run (g : Grammar) : Scan → List String → Except Halt (Scan × Option (String × List String))
  | scan, [] => .ok (scan, none)
  | scan, arg :: args =>
    if !scan.awaits && g.isSubcommand arg then .ok (scan, some (arg, args))
    else if arg = "--" then if args = [] then .ok (scan, none) else .error .usage
    else
      match scan.take g arg with
      | .ok scan => run g scan args
      | .error reason => .error reason

end Scan

/-! ## Reading -/

/-- What the arguments of a program say. -/
structure Reading where
  values : Values
  subcommand : Option (String × Values)
  deriving Repr

/-- Help on a subcommand, by its name; there is help on help. -/
def helpOn (g : Grammar) : List String → Halt
  | [] => .help
  | [name] => if g.isSubcommand name then .help else .usage
  | _ => .usage

/-- Reads the arguments of a subcommand. -/
def readSubcommand (g : Grammar) (name : String) (args : List String) :
    Except Halt (String × Values) :=
  if name = "help" then .error (helpOn g args)
  else do
    let (scan, _) ← Scan.run (.ofSubcommand ((g.subcommands.lookup name).getD [])) .start args
    let scan ← scan.settle
    return (name, scan.values)

/-- Reads the arguments of a program. Those of a subcommand are looked into before the last option
in front of it, and the environment comes last. -/
def read (g : Grammar) (env : Environment) (args : List String) : Except Halt Reading := do
  let (scan, rest) ← Scan.run g .start args
  let subcommand ← rest.mapM fun (name, args) => readSubcommand g name args
  let scan ← scan.settle
  let values ← g.options.foldlM (Values.complete env) scan.values
  if subcommand.isNone ∧ !g.subcommands.isEmpty then throw .usage
  return ⟨values, subcommand⟩

end StandbyStream.CommandLine
