import TrackerBoard.Number.Word
import TrackerBoard.Text.Digits

/-!
# Command line flags

A command line is a sequence of flags, some with a value, which stands behind an equals sign or is
the next argument.  A flag that waits for its value is pending; it is looked at when the next flag
is taken or the line ends.  An argument that no flag explains is refused at once, even while one
is pending.
-/

namespace TrackerBoard

/-- Why a command line is not carried out. -/
inductive FlagError where
  | unknownArgument
  /-- a value that cannot be read -/
  | unreadableValue
  | missingValue
  | repeatedFlag
  /-- a value for a flag that takes none -/
  | unexpectedValue
  | helpWanted
  | versionWanted
deriving DecidableEq, Repr

/-- The wording of a refusal. -/
def FlagError.message : FlagError → String
  | unknownArgument => "unknown argument"
  | unreadableValue => "a value cannot be read"
  | missingValue => "a value is missing"
  | repeatedFlag => "a flag is given twice"
  | unexpectedValue => "a value is given to a flag that takes none"
  | helpWanted => "help is wanted"
  | versionWanted => "the version is wanted"

/-- What may follow a flag. -/
inductive FlagKind where
  /-- nothing -/
  | switch
  /-- a value that this accepts, or why it does not -/
  | value (check : String → Except FlagError Unit)

/-- The flags that a command knows. -/
abbrev FlagTable := List (String × FlagKind)

/-- The flags given so far, with their values. -/
structure GivenFlags where
  values : List (String × String)
  /-- A flag without its value yet, or with a value that was not looked at. -/
  pending : Option (String × (String → Except FlagError Unit) × Option String)

namespace GivenFlags

/-- No flag was given. -/
def none : GivenFlags := ⟨[], .none⟩

/-- Takes a flag with its value. -/
def take (g : GivenFlags) (name value : String) (check : String → Except FlagError Unit) :
    Except FlagError GivenFlags :=
  if g.values.any (·.1 == name) then .error .repeatedFlag
  else do
    check value
    return { g with values := g.values ++ [(name, value)] }

/-- Looks at the pending flag. -/
def settle (g : GivenFlags) : Except FlagError GivenFlags :=
  match g.pending with
  | .none => .ok g
  | some (_, _, .none) => .error .missingValue
  | some (name, check, some value) => { g with pending := .none }.take name value check

/-- The value of a flag. -/
def value? (g : GivenFlags) (name : String) : Option String := g.values.lookup name

/-- Whether a switch was given. -/
def has (g : GivenFlags) (name : String) : Bool := (g.value? name).isSome

end GivenFlags

namespace Flags

/-- Splits a long flag at its first equals sign. -/
def splitValue (text : List Char) : String × Option String :=
  let (name, rest) := text.span (· ≠ '=')
  (String.ofList name, if rest = [] then none else some (String.ofList rest.tail))

/-- Takes a flag that is carried out instead of the command. -/
def display (g : GivenFlags) (what : FlagError) : Except FlagError GivenFlags := do
  let _ ← g.settle
  throw what

/-- Takes a long flag. -/
def takeLong (table : FlagTable) (g : GivenFlags) (name : String) (value : Option String) :
    Except FlagError GivenFlags :=
  if name = "help" then
    if value.isSome then .error .unexpectedValue else display g .helpWanted
  else if name = "version" then
    if value.isSome then .error .unexpectedValue else display g .versionWanted
  else match table.lookup name, value with
    | none, _ => .error .unknownArgument
    | some .switch, some _ => .error .unexpectedValue
    | some .switch, none => do (← g.settle).take name "true" fun _ => .ok ()
    | some (.value check), some value => do (← g.settle).take name value check
    | some (.value check), none => do
      return { ← g.settle with pending := some (name, check, none) }

/-- Takes one argument. -/
def takeArgument (table : FlagTable) (g : GivenFlags) (argument : String) :
    Except FlagError GivenFlags :=
  match argument.toList with
  | '-' :: '-' :: text =>
    let (name, value) := splitValue text
    takeLong table g name value
  | '-' :: 'h' :: _ => display g .helpWanted
  | '-' :: 'V' :: _ => display g .versionWanted
  | '-' :: _ :: _ => .error .unknownArgument
  | _ =>
    match g.pending with
    | some (name, check, none) => .ok { g with pending := some (name, check, some argument) }
    | _ => .error .unknownArgument

/-- Takes the arguments in turn.  Two dashes end the flags; nothing may follow them. -/
def takeAll (table : FlagTable) : GivenFlags → List String → Except FlagError GivenFlags
  | g, [] => g.settle
  | g, argument :: arguments =>
    if argument = "--" then
      if arguments.isEmpty then g.settle else .error .unknownArgument
    else do takeAll table (← takeArgument table g argument) arguments

/-- Reads a command line. -/
def read (table : FlagTable) (arguments : List String) : Except FlagError GivenFlags :=
  takeAll table .none arguments

/-! ### Kinds of values -/

/-- A value that some function must be able to read. -/
def readable {α : Type} (read? : String → Option α) : FlagKind :=
  .value fun text => if (read? text).isSome then .ok () else .error .unreadableValue

/-- Any text. -/
def anyText : FlagKind := .value fun _ => .ok ()

/-- A path, which is not empty. -/
def path : FlagKind := .value fun text => if text = "" then .error .missingValue else .ok ()

/-- A natural word: digits, perhaps behind a plus sign. -/
def natural? (text : String) : Option UInt64 :=
  let digits := match text.toList with
    | '+' :: digits => digits
    | digits => digits
  (Digits.natural? digits).bind naturalWord?

end Flags

end TrackerBoard
