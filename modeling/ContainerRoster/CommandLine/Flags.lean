import ContainerRoster.Decimal.Bounded
import ContainerRoster.Storage.Store
import ContainerRoster.Text.Blank

/-!
# Flags

A command line is read from left to right. A flag stands alone or takes a value, which follows an
equals sign or is the next argument; short flags may share a hyphen. Options that are good for
every command may stand on either side of the command. A value is checked when the next flag comes
or the arguments end, and an unknown argument is reported before a value that has not been checked
yet.
-/

namespace ContainerRoster

/-- The kinds of errors in a command line. -/
inductive FlagErrorKind
  | unknownArgument
  | invalidValue
  | valueValidation
  | argumentConflict
  | invalidSubcommand
  | missingSubcommand
  | tooManyValues
  /-- Help was asked for. -/
  | displayHelp
  /-- Nothing at all was asked for. -/
  | displayHelpOnMissing
  deriving DecidableEq, Repr

structure FlagError where
  kind : FlagErrorKind
  /-- What a value itself has wrong. -/
  cause : Option String := none
  deriving DecidableEq, Repr

/-- The options of all commands. -/
inductive Flag
  | runtimeEndpoint
  | timeout
  | storageConf
  | debug
  | help
  | pid
  | state
  | name
  | all
  | output
  | noTrunc
  deriving DecidableEq, Repr

namespace Flag

def long : Flag → String
  | runtimeEndpoint => "runtime-endpoint"
  | timeout => "timeout"
  | storageConf => "storage-conf"
  | debug => "debug"
  | help => "help"
  | pid => "pid"
  | state => "state"
  | name => "name"
  | all => "all"
  | output => "output"
  | noTrunc => "no-trunc"

def short? : Flag → Option Char
  | runtimeEndpoint => some 'r'
  | timeout => some 't'
  | storageConf => none
  | debug => some 'D'
  | help => some 'h'
  | pid => some 'p'
  | state => some 's'
  | name => some 'n'
  | all => some 'a'
  | output => some 'o'
  | noTrunc => none

def takesValue : Flag → Bool
  | debug | help | all | noTrunc => false
  | _ => true

/-- The options that every command knows. -/
def globals : List Flag := [runtimeEndpoint, timeout, storageConf, debug, help]

end Flag

inductive CommandName
  | ps
  | storage
  deriving DecidableEq, Repr

namespace CommandName

def all : List CommandName := [ps, storage]

/-- The names under which a command is called. -/
def names : CommandName → List String
  | ps => ["ps", "ls", "pids"]
  | storage => ["storage"]

/-- The options of a command. -/
def flags : CommandName → List Flag
  | ps => Flag.globals ++ [.pid, .state, .name, .all, .output, .noTrunc]
  | storage => Flag.globals ++ [.output]

def ofName? (name : String) : Option CommandName := all.find? fun c => c.names.contains name

/-- The word that asks for help in place of a command. -/
def helpName : String := "help"

/-- Whether a word could stand where a command does. -/
def isKnown (name : String) : Bool := (ofName? name).isSome || name == helpName

end CommandName

/-! ## Values -/

/-- A timeout in whole seconds: at least one, with or without the letter of the unit. -/
def readTimeout (value : String) : Except String Nat :=
  let digits := ((Text.trim value.toList).reverse.dropWhile (· == 's')).reverse
  match Decimal.readBelow (Nat.pow 2 64) digits with
  | .error e => .error e.message
  | .ok 0 => .error "timeout must be at least one second"
  | .ok n => .ok n

/-- Check the value of an option. -/
def Flag.check (flag : Flag) (value : String) : Except FlagError Unit :=
  match flag with
  | .timeout =>
    match readTimeout value with
    | .ok _ => .ok ()
    | .error e => .error ⟨.valueValidation, some e⟩
  | .storageConf => if value.isEmpty then .error ⟨.invalidValue, none⟩ else .ok ()
  | _ => .ok ()

/-! ## Scanning -/

/-- The options seen on one side of the command. -/
structure Scan where
  given : List (Flag × String) := []
  /-- An option that has not been checked, with its value if that has come. -/
  pending? : Option (Flag × Option String) := none

namespace Scan

def isAwaiting (s : Scan) : Bool :=
  match s.pending? with
  | some (_, none) => true
  | _ => false

/-- Take an option with its value; it may be given only once. -/
def take (s : Scan) (flag : Flag) (value : Option String) : Except FlagError Scan :=
  match value with
  | none => .error ⟨.invalidValue, none⟩
  | some value => do
    if (s.given.lookup flag).isSome then throw ⟨.argumentConflict, none⟩
    flag.check value
    return { s with given := s.given ++ [(flag, value)] }

/-- Check the option that has not been checked. -/
def settle (s : Scan) : Except FlagError Scan :=
  match s.pending? with
  | none => .ok s
  | some (flag, value) => { s with pending? := none }.take flag value

/-- Take a flag that stands alone. -/
def takeAlone (s : Scan) (flag : Flag) : Except FlagError Scan := do
  let s ← s.settle
  if flag = .help then throw ⟨.displayHelp, none⟩
  s.take flag (some "true")

/-- Take an option whose value is attached to it. -/
def takeAttached (s : Scan) (flag : Flag) (value : String) : Except FlagError Scan := do
  (← s.settle).take flag (some value)

/-- Wait for the value of an option. -/
def await (s : Scan) (flag : Flag) : Except FlagError Scan := do
  return { ← s.settle with pending? := some (flag, none) }

/-- An argument after two hyphens: a name and perhaps an attached value. -/
def long (known : List Flag) (s : Scan) (body : List Char) : Except FlagError Scan :=
  let name := body.takeWhile (· != '=')
  let value? := if name.length < body.length then some (body.drop (name.length + 1)) else none
  match known.find? fun flag => flag.long.toList == name with
  | none => .error ⟨.unknownArgument, none⟩
  | some flag =>
    match flag.takesValue, value? with
    | true, some value => s.takeAttached flag (String.ofList value)
    | true, none => s.await flag
    | false, some _ => .error ⟨.tooManyValues, none⟩
    | false, none => s.takeAlone flag

/-- The letters after one hyphen. The rest of the letters is the value of an option that takes
one. -/
def short (known : List Flag) (s : Scan) : List Char → Except FlagError Scan
  | [] => .ok s
  | c :: rest =>
    match known.find? fun flag => flag.short? == some c with
    | none => .error ⟨.unknownArgument, none⟩
    | some flag =>
      if flag.takesValue then
        match rest with
        | [] => s.await flag
        | '=' :: value => s.takeAttached flag (String.ofList value)
        | value => s.takeAttached flag (String.ofList value)
      else do
        let s ← s.takeAlone flag
        s.short known rest

/-- An argument that is no flag, where none belongs. -/
def misplaced (expectsCommand isTrailing : Bool) (arg : String) : FlagError :=
  if !expectsCommand || (isTrailing && CommandName.isKnown arg) then ⟨.unknownArgument, none⟩
  else ⟨.invalidSubcommand, none⟩

/-- What the arguments of one side come to: all of them are used up, or a command is reached. -/
inductive Stop
  | finished
  | command (name : CommandName) (rest : List String)

/-- Asking for help with other commands than there are is an error of its own. -/
def helpError (args : List String) : FlagError :=
  match args with
  | [] => ⟨.displayHelp, none⟩
  | [name] =>
    if CommandName.isKnown name then ⟨.displayHelp, none⟩ else ⟨.invalidSubcommand, none⟩
  | _ => ⟨.invalidSubcommand, none⟩

/-- Go through arguments up to a command, if one is expected, or the end. After two hyphens alone
nothing is a flag any more. -/
def arguments (known : List Flag) (expectsCommand isTrailing : Bool) (s : Scan) :
    List String → Except FlagError (Scan × Stop)
  | [] => .ok (s, .finished)
  | arg :: rest =>
    if isTrailing then .error (misplaced expectsCommand true arg)
    else if expectsCommand && !s.isAwaiting && CommandName.isKnown arg then
      match CommandName.ofName? arg with
      | some name => .ok (s, .command name rest)
      | none => .error (helpError rest)
    else
      match arg.toList with
      | '-' :: '-' :: [] => s.arguments known expectsCommand true rest
      | '-' :: '-' :: body => do
        let s ← s.long known body
        s.arguments known expectsCommand false rest
      | '-' :: c :: letters => do
        let s ← s.short known (c :: letters)
        s.arguments known expectsCommand false rest
      | _ =>
        match s.pending? with
        | some (flag, none) =>
          { s with pending? := some (flag, some arg) }.arguments known expectsCommand false rest
        | _ => .error (misplaced expectsCommand false arg)

end Scan

end ContainerRoster
