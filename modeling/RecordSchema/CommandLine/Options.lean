/-!
# Options on a command line

A level of a command line is a run of options up to the name of a command. An option has a long
name, and it may have a letter. Its value follows as the next argument, after an equals sign, or
right after the letter. An argument that starts with a hyphen is never the value of the argument
before it.

A value that follows as its own argument is checked only when the next option of the same level
comes, or at the end: until then the option is pending. Asking for help ends the reading at once,
so an error that is still pending is not reported.

## Main definitions

* `OptionShape`: the options that a level knows.
* `Reading`: the options read so far.
* `readLevel`: reading a level up to the name of a command.

## Termination

`readLevel` descends on the arguments.
-/

namespace RecordSchema

/-- Why the arguments start no run. -/
inductive Halt where
  /-- Help was asked for. -/
  | help
  /-- The arguments do not fit. -/
  | misuse
deriving DecidableEq, Repr

/-- An option that a level knows. -/
structure OptionShape where
  /-- The long name. -/
  name : String
  /-- The letter. -/
  letter : Option Char := name.toList.head?
  /-- Whether it takes a value. -/
  takesValue : Bool := true
  /-- Whether it may be given more than once. -/
  repeats : Bool := false
  /-- The values that it takes. -/
  accepts : String → Bool := fun _ => true

/-- An option that was given with its value; a flag has an empty one. -/
structure Given where
  /-- The option. -/
  shape : OptionShape
  /-- Its value. -/
  value : String

/-- The options of a level read so far. -/
structure Reading where
  /-- The options that have been checked, in their order. -/
  settled : List Given := []
  /-- The option that has not been checked yet, and its value if that has come. -/
  pending : Option (OptionShape × Option String) := none

namespace Reading

/-- Whether the next argument is the value of the option before it. -/
def awaitsValue (reading : Reading) : Bool :=
  match reading.pending with
  | some (_, none) => true
  | _ => false

/-- Adds an option with its value: the value must be one that the option takes, and only an option
that repeats may have been given before. -/
def add (reading : Reading) (shape : OptionShape) (value : String) : Except Halt Reading :=
  if shape.accepts value
      && (shape.repeats || !reading.settled.any fun given => given.shape.name = shape.name) then
    .ok { reading with settled := reading.settled ++ [⟨shape, value⟩] }
  else .error .misuse

/-- Checks the pending option. -/
def settle (reading : Reading) : Except Halt Reading :=
  match reading.pending with
  | none => .ok reading
  | some (_, none) => .error .misuse
  | some (shape, some value) => { reading with pending := none }.add shape value

/-- Reads an option that comes with its value, or a flag. -/
def addNow (reading : Reading) (shape : OptionShape) (value : String) : Except Halt Reading := do
  (← reading.settle).add shape value

/-- Reads an option whose value is to come. -/
def await (reading : Reading) (shape : OptionShape) : Except Halt Reading := do
  return { ← reading.settle with pending := some (shape, none) }

/-- Reads a request for help: the option before it must be complete. -/
def help (reading : Reading) : Except Halt Reading := do
  let _ ← reading.settle
  throw .help

/-- Reads an argument that starts with two hyphens, from after them. -/
def readLong (shapes : List OptionShape) (reading : Reading) (text : List Char) :
    Except Halt Reading :=
  let name := String.ofList (text.takeWhile (· ≠ '='))
  let value := match text.dropWhile (· ≠ '=') with
    | _ :: value => some (String.ofList value)
    | [] => none
  match shapes.find? fun shape => shape.name = name, value with
  | some shape, some value => if shape.takesValue then reading.addNow shape value
      else .error .misuse
  | some shape, none => if shape.takesValue then reading.await shape else reading.addNow shape ""
  | none, none => if name = "help" then reading.help else .error .misuse
  | none, some _ => .error .misuse

/-- Reads an argument that starts with one hyphen, from its letter on. Every letter but that of
help takes a value. -/
def readLetter (shapes : List OptionShape) (reading : Reading) (letter : Char)
    (text : List Char) : Except Halt Reading :=
  match shapes.find? fun shape => shape.letter = some letter with
  | some shape =>
    match text with
    | [] => reading.await shape
    | '=' :: value => reading.addNow shape (String.ofList value)
    | value => reading.addNow shape (String.ofList value)
  | none => if letter = 'h' then reading.help else .error .misuse

/-- Reads an argument that names no command. -/
def readArgument (shapes : List OptionShape) (reading : Reading) (argument : String) :
    Except Halt Reading :=
  match argument.toList, reading.pending with
  | '-' :: '-' :: text, _ => reading.readLong shapes text
  | '-' :: letter :: text, _ => reading.readLetter shapes letter text
  | _, some (shape, none) => .ok { reading with pending := some (shape, some argument) }
  | _, _ => .error .misuse

/-- The value of an option that is given at most once. -/
def value? (reading : Reading) (name : String) : Option String :=
  (reading.settled.find? fun given => given.shape.name = name).map Given.value

/-- The values of an option. -/
def values (reading : Reading) (name : String) : List String :=
  (reading.settled.filter fun given => given.shape.name = name).map Given.value

/-- The value of an option that must be given. -/
def require (reading : Reading) (name : String) : Except Halt String :=
  match reading.value? name with
  | some value => .ok value
  | none => .error .misuse

end Reading

/-- Reads a level up to the name of a command: what was read, and the name with the arguments after
it. Two hyphens on their own end the options; no level takes anything after them. -/
def readLevel (shapes : List OptionShape) (commands : List String) (reading : Reading) :
    List String → Except Halt (Reading × Option (String × List String))
  | [] => .ok (reading, none)
  | argument :: rest =>
    if !reading.awaitsValue && commands.contains argument then
      .ok (reading, some (argument, rest))
    else if argument = "--" then
      if rest.isEmpty then .ok (reading, none) else .error .misuse
    else
      match reading.readArgument shapes argument with
      | .ok reading => readLevel shapes commands reading rest
      | .error halt => .error halt

end RecordSchema
