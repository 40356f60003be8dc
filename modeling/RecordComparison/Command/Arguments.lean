import RecordComparison.Command.Reports

/-!
The arguments of the program: switches, parameters that take a value, and operands. Switches
and parameters may stand before and after operands; after `--` everything is an operand. What
is wrong with the arguments is not told, but the first problem counts, as do a demand for help
and one for the version.
-/
namespace RecordComparison

inductive Switch where
  | verbose
  | all
  | json
  | help
  | version
deriving DecidableEq

inductive Parameter where
  | settings
  | description
  | limit
deriving DecidableEq

def Switch.long : Switch → String
  | verbose => "verbose"
  | all => "all"
  | json => "json"
  | help => "help"
  | version => "version"

def Switch.short? : Switch → Option Char
  | verbose => some 'v'
  | help => some 'h'
  | version => some 'V'
  | _ => none

def Parameter.long : Parameter → String
  | settings => "config"
  | description => "schema"
  | limit => "limit"

def Parameter.short? : Parameter → Option Char
  | description => some 's'
  | _ => none

inductive CommandName where
  | compare
  | check
  | describe
deriving DecidableEq

def CommandName.text : CommandName → String
  | compare => "compare"
  | check => "check"
  | describe => "describe"

def CommandName.ofText? (text : String) : Option CommandName :=
  [compare, check, describe].find? (·.text == text)

inductive Stop where
  | refused
  | helpAsked
  | versionAsked
deriving DecidableEq

structure Level where
  switches : List Switch
  parameters : List Parameter
  -- How many operands there may be; none for any number.
  capacity : Option Nat

namespace Level

def outer : Level := ⟨[.verbose, .help, .version], [.settings], some 0⟩

def inside : CommandName → Level
  | .compare =>
    ⟨[.verbose, .help, .all, .json], [.settings, .description, .limit], some 2⟩
  | .check => ⟨[.verbose, .help], [.settings, .description], none⟩
  | .describe => ⟨[.verbose, .help], [.settings], some 1⟩

end Level

structure Given where
  switches : List Switch
  parameters : List (Parameter × String)
  operands : List String
deriving DecidableEq

namespace Given

def nothing : Given := ⟨[], [], []⟩

def parameter? (given : Given) (p : Parameter) : Option String :=
  (given.parameters.find? (·.1 == p)).map (·.2)

def count? (text : String) : Option Nat :=
  let digits :=
    match text.toList with
    | '+' :: digits => digits
    | digits => digits
  if digits = [] ∨ !digits.all Char.isDigit then none
  else
    let n := digits.foldl (fun n c => n * 10 + (c.toNat - 48)) 0
    if n < UInt64.size then some n else none

def suits (p : Parameter) (value : String) : Bool :=
  match p with
  | .limit => (count? value).isSome
  | _ => value ≠ ""

/-- All switches but the counted one are given at most once. -/
def addSwitch (given : Given) (s : Switch) : Except Stop Given :=
  match s with
  | .help => .error .helpAsked
  | .version => .error .versionAsked
  | .verbose => .ok given
  | s =>
    if given.switches.contains s then .error .refused
    else .ok { given with switches := s :: given.switches }

def addParameter (given : Given) (p : Parameter) (value : String) : Except Stop Given :=
  if (given.parameter? p).isSome || !suits p value then .error .refused
  else .ok { given with parameters := (p, value) :: given.parameters }

def addOperand (level : Level) (given : Given) (operand : String) : Except Stop Given :=
  if level.capacity.any (· ≤ given.operands.length) || operand = "" then .error .refused
  else .ok { given with operands := given.operands ++ [operand] }

end Given

inductive Look where
  | end
  | long (name : List Char) (value : Option (List Char))
  | short (letters : List Char)
  | operand

def Look.of (argument : String) : Look :=
  match argument.toList with
  | ['-'] => .operand
  | ['-', '-'] => .end
  | '-' :: '-' :: rest =>
    .long (rest.takeWhile (· != '='))
      (match rest.dropWhile (· != '=') with
      | [] => none
      | _ :: value => some value)
  | '-' :: letters => .short letters
  | _ => .operand

/-- What an argument leads to: more arguments, maybe first the value of a parameter; an operand;
or operands only. -/
inductive Reaction where
  | more (given : Given) (waiting : Option Parameter)
  | operand
  | operandsOnly

def longOption (level : Level) (given : Given) (name : List Char) (value : Option (List Char)) :
    Except Stop Reaction :=
  let name := String.ofList name
  match level.switches.find? (·.long == name), level.parameters.find? (·.long == name) with
  | some s, _ =>
    if value.isSome then .error .refused
    else (given.addSwitch s).map fun given => .more given none
  | none, some p =>
    match value with
    | some value =>
      (given.addParameter p (String.ofList value)).map fun given => .more given none
    | none => .ok (.more given (some p))
  | none, none => .error .refused

def shortOptions (level : Level) (given : Given) : List Char → Except Stop Reaction
  | [] => .ok (.more given none)
  | c :: rest =>
    match level.switches.find? (·.short? == some c),
      level.parameters.find? (·.short? == some c) with
    | some s, _ => given.addSwitch s >>= fun given => shortOptions level given rest
    | none, some p =>
      match rest with
      | [] => .ok (.more given (some p))
      | '=' :: value | value =>
        (given.addParameter p (String.ofList value)).map fun given => .more given none
    | none, none => .error .refused

/-- Takes one argument. A parameter that waits for its value gets no option as its value. -/
def react (level : Level) (given : Given) (waiting : Option Parameter) (argument : String) :
    Except Stop Reaction :=
  match waiting, Look.of argument with
  | some p, .operand => (given.addParameter p argument).map fun given => .more given none
  | some _, _ => .error .refused
  | none, .operand => .ok .operand
  | none, .end => .ok .operandsOnly
  | none, .long name value => longOption level given name value
  | none, .short letters => shortOptions level given letters

def readOuter (given : Given) (waiting : Option Parameter) :
    List String → Except Stop (Given × String × List String)
  | [] => .error .refused
  | argument :: later => do
    match ← react .outer given waiting argument with
    | .more given waiting => readOuter given waiting later
    | .operand => return (given, argument, later)
    | .operandsOnly => .error .refused

def addOperands (level : Level) (given : Given) : List String → Except Stop Given
  | [] => .ok given
  | operand :: later => given.addOperand level operand >>= (addOperands level · later)

def readInside (level : Level) (given : Given) (waiting : Option Parameter) :
    List String → Except Stop Given
  | [] => if waiting.isSome then .error .refused else .ok given
  | argument :: later => do
    match ← react level given waiting argument with
    | .more given waiting => readInside level given waiting later
    | .operand =>
      let given ← given.addOperand level argument
      readInside level given none later
    | .operandsOnly => addOperands level given later

inductive Command where
  | compare (options : CompareOptions)
  | check (options : CheckOptions)
  | describe (description : String)
deriving DecidableEq

def CommandName.command (name : CommandName) (given : Given) : Except Stop Command :=
  match name, given.operands with
  | .compare, [left, right] =>
    .ok (.compare {
      description := given.parameter? .description
      all := given.switches.contains .all
      limit := (given.parameter? .limit).bind Given.count?
      json := given.switches.contains .json
      left
      right })
  | .check, document :: documents =>
    .ok (.check {
      description := given.parameter? .description
      documents := document :: documents })
  | .describe, [description] => .ok (.describe description)
  | _, _ => .error .refused

structure Call where
  settings : Option String
  command : Command
deriving DecidableEq

/-- Whether help exists on what follows a demand for it: nothing, help itself, or a command by
its name. -/
def helpExists : List String → Bool
  | [] => true
  | [name] => name = "help" || (CommandName.ofText? name).isSome
  | _ => false

/-- Reads all arguments. The settings that are given to the command hide those in front of it. -/
def Call.ofArguments (arguments : List String) : Except Stop Call := do
  let (outer, name, later) ← readOuter .nothing none arguments
  match CommandName.ofText? name with
  | some name =>
    let inner ← readInside (.inside name) .nothing none later
    let command ← name.command inner
    return ⟨(inner.parameter? .settings).or (outer.parameter? .settings), command⟩
  | none => .error (if name = "help" ∧ helpExists later then .helpAsked else .refused)

end RecordComparison
