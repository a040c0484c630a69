/-!
# Command line arguments

The grammar of options, positional arguments and commands. Arguments are read
from left to right, and the first thing that ends the reading decides: a request
for help or for the version, or a misuse.
-/

namespace PanelBoard.CommandLine

/-- An option with a value. It is named by its long name. -/
structure ValueOption where
  long : List Char
  short : Option Char := none
  allowsEmpty : Bool := true
  deriving Repr, DecidableEq

/-- What a command line may hold. Help can always be asked for. -/
structure Grammar where
  options : List ValueOption := []
  hasVersion : Bool := false
  commands : List String := []
  positionals : Nat := 0
  deriving Repr, DecidableEq

/-- Why reading ended early. -/
inductive Stop where
  | help
  | version
  | misuse
  deriving Repr, DecidableEq

/-- What was read so far. An option whose value came as an argument of its own,
or is still to come, is pending until something else is read. -/
structure State where
  values : List (List Char × String) := []
  pending : Option (ValueOption × Option String) := none
  positionals : List String := []
  onlyPositionals : Bool := false
  command : Option (String × List String) := none
  deriving Repr, DecidableEq

namespace State

/-- The value of an option. -/
def value? (state : State) (long : List Char) : Option String :=
  state.values.lookup long

/-- Does a pending option still wait for its value? -/
def isAwaiting (state : State) : Bool :=
  match state.pending with
  | some (_, none) => true
  | _ => false

/-- Give an option its value. Each option is given once at most. -/
def give (state : State) (option : ValueOption) (value : String) : Except Stop State :=
  if (state.value? option.long).isSome || (value.isEmpty && !option.allowsEmpty) then
    .error .misuse
  else .ok { state with values := state.values ++ [(option.long, value)] }

/-- Settle the pending option, which must have got its value. -/
def settle (state : State) : Except Stop State :=
  match state.pending with
  | none => .ok state
  | some (_, none) => .error .misuse
  | some (option, some value) => { state with pending := none }.give option value

/-- Settle, then stop. -/
def stop (state : State) (reason : Stop) : Except Stop State := do
  let _ ← state.settle
  .error reason

/-- An option and the value attached to it, if any. -/
def startOption (state : State) (option : ValueOption) (attached : Option String) :
    Except Stop State := do
  let settled ← state.settle
  match attached with
  | some value => settled.give option value
  | none => .ok { settled with pending := some (option, none) }

/-- Fill in the value that a pending option waits for. -/
def fill (state : State) (value : String) : State :=
  { state with pending := state.pending.map fun (option, _) => (option, some value) }

end State

namespace Grammar

/-- An argument that begins with two hyphens: a long name, and a value behind an
equals sign. -/
def readLong (grammar : Grammar) (state : State) (name : List Char) (attached : Option String) :
    Except Stop State :=
  match grammar.options.find? (·.long == name) with
  | some option => state.startOption option attached
  | none =>
    if attached.isSome then .error .misuse
    else if name = "help".toList then state.stop .help
    else if grammar.hasVersion && name == "version".toList then state.stop .version
    else .error .misuse

/-- An argument that begins with one hyphen: a short name. The rest of the
argument is the option's value, with or without an equals sign before it. -/
def readShort (grammar : Grammar) (state : State) (name : Char) (rest : List Char) :
    Except Stop State :=
  match grammar.options.find? (·.short == some name) with
  | some option =>
    state.startOption option <|
      match rest with
      | [] => none
      | '=' :: value => some (String.ofList value)
      | value => some (String.ofList value)
  | none =>
    if name = 'h' then state.stop .help
    else if grammar.hasVersion && name == 'V' then state.stop .version
    else .error .misuse

/-- A positional argument. -/
def readPositional (grammar : Grammar) (state : State) (argument : String) :
    Except Stop State :=
  if state.positionals.length < grammar.positionals then do
    let settled ← state.settle
    .ok { settled with positionals := settled.positionals ++ [argument] }
  else .error .misuse

/-- One argument. A value that is waited for may be anything that does not begin
with a hyphen, or a lone hyphen. -/
def readArgument (grammar : Grammar) (state : State) (argument : String) :
    Except Stop State :=
  if state.onlyPositionals then grammar.readPositional state argument
  else
    match argument.toList with
    | ['-', '-'] => .ok { state with onlyPositionals := true }
    | '-' :: '-' :: rest =>
      let name := rest.takeWhile (· != '=')
      match rest.dropWhile (· != '=') with
      | '=' :: value => grammar.readLong state name (some (String.ofList value))
      | _ => grammar.readLong state name none
    | '-' :: name :: rest => grammar.readShort state name rest
    | _ =>
      if state.isAwaiting then .ok (state.fill argument)
      else grammar.readPositional state argument

/-- Is an argument, where it stands, the name of a command? -/
def startsCommand (grammar : Grammar) (state : State) (argument : String) : Bool :=
  !state.onlyPositionals && !state.isAwaiting && grammar.commands.contains argument

/-- Read arguments up to the first command, which takes the arguments behind it.
The last option may be left pending. -/
def read (grammar : Grammar) (state : State) : List String → Except Stop State
  | [] => .ok state
  | argument :: rest =>
    if grammar.startsCommand state argument then
      .ok { state with command := some (argument, rest) }
    else
      match grammar.readArgument state argument with
      | .error reason => .error reason
      | .ok next => grammar.read next rest

/-- Read all arguments of a grammar without commands. -/
def parse (grammar : Grammar) (arguments : List String) : Except Stop State := do
  let state ← grammar.read {} arguments
  state.settle

end Grammar

end PanelBoard.CommandLine
