/-
**Command line arguments.**

The first argument names the command, and each command has its operands in a fixed order. Arguments
are taken from left to right:

* an argument that starts with a hyphen and is longer than it is an option, up to a double hyphen,
  after which all arguments are operands;
* `-h` and `--help` ask for help. An error before them wins, one after them is not seen;
* one command has the option `-n` or `--name`. Its value follows an equals sign, or the letter, or
  is the next argument, which then must not look like an option; it can be given once.
-/

namespace FlatVolume.CommandLine

/-- A command with its operands. -/
inductive Command where
  | make (disk : String) (dataBlocks : Nat)
  | info (disk : String)
  | list (disk : String)
  | add (disk hostFile : String) (name : Option String)
  | remove (disk name : String)
  | print (disk name : String)
  | size (disk name : String)
  | check (disk : String)
deriving DecidableEq

/-- The paths of the host that a command names. -/
def Command.paths : Command → List String
  | .add disk hostFile _ => [hostFile, disk]
  | .make disk _ | .info disk | .list disk | .remove disk _ | .print disk _ | .size disk _
  | .check disk => [disk]

/-- Why no command is carried out. -/
inductive Stop where
  | help
  | usage
deriving DecidableEq

/-- What finds the command that the arguments ask for. -/
abbrev Parser := List String → Except Stop Command

/-! ### Operands -/

/-- A number in decimal digits of at most 64 bits, with an optional plus sign. -/
def parseCount? (text : String) : Option Nat :=
  let digits :=
    match text.toList with
    | '+' :: rest => rest
    | all => all
  if digits ≠ [] ∧ digits.all Char.isDigit then
    let value := digits.foldl (fun value digit => 10 * value + (digit.toNat - '0'.toNat)) 0
    if value < UInt64.size then some value else none
  else none

/-- What an operand stands for. -/
inductive OperandKind where
  /-- A path of the host, which must not be empty. -/
  | path
  | text
  | count
deriving DecidableEq

/-- Whether an argument can stand for an operand. -/
def OperandKind.accepts (kind : OperandKind) (argument : String) : Bool :=
  match kind with
  | .path => argument ≠ ""
  | .text => true
  | .count => (parseCount? argument).isSome

/-- The operands of a command in order, and whether it has the name option. -/
structure Form where
  operands : List OperandKind
  takesName : Bool

/-- The commands by name. -/
def forms : List (String × Form) :=
  [ ("make", ⟨[.path, .count], false⟩)
  , ("info", ⟨[.path], false⟩)
  , ("ls", ⟨[.path], false⟩)
  , ("add", ⟨[.path, .path], true⟩)
  , ("rm", ⟨[.path, .text], false⟩)
  , ("cat", ⟨[.path, .text], false⟩)
  , ("stat", ⟨[.path, .text], false⟩)
  , ("check", ⟨[.path], false⟩) ]

/-! ### Taking arguments -/

/-- What an argument is before a double hyphen. -/
inductive Shape where
  | operand
  | separator
  | help
  /-- The name option with its value, or without it. -/
  | name (value : Option String)
  | unknown
deriving DecidableEq

/-- Whether an argument looks like an option. -/
def looksLikeOption (argument : String) : Bool :=
  argument.startsWith "-" && argument ≠ "-"

/-- The value after an option letter, which an equals sign can separate from it. -/
def attachedValue : List Char → Option String
  | [] => none
  | '=' :: value => some (String.ofList value)
  | value => some (String.ofList value)

/-- The text after the first equals sign, and the text before it. -/
def splitAtEquals (characters : List Char) : String × Option String :=
  let before := characters.takeWhile (· ≠ '=')
  match characters.dropWhile (· ≠ '=') with
  | [] => (String.ofList before, none)
  | _ :: value => (String.ofList before, some (String.ofList value))

/-- What an argument is, for a command that has the name option or does not. -/
def shape (takesName : Bool) (argument : String) : Shape :=
  match argument.toList with
  | ['-', '-'] => .separator
  | '-' :: '-' :: long =>
    match splitAtEquals long with
    | ("help", none) => .help
    | ("name", value) => if takesName then .name value else .unknown
    | _ => .unknown
  | '-' :: 'h' :: _ => .help
  | '-' :: 'n' :: value => if takesName then .name (attachedValue value) else .unknown
  | '-' :: _ :: _ => .unknown
  | _ => .operand

/-- The operands taken so far and the name, if it was given. -/
structure Taken where
  operands : List String
  name : Option String

namespace Taken

/-- Nothing is taken yet. -/
def start : Taken := ⟨[], none⟩

/-- Takes the next operand, which must be one that the command has. -/
def addOperand (form : Form) (taken : Taken) (argument : String) : Except Stop Taken :=
  match form.operands[taken.operands.length]? with
  | some kind =>
    if kind.accepts argument then .ok { taken with operands := taken.operands ++ [argument] }
    else .error .usage
  | none => .error .usage

/-- Takes the name, once. -/
def setName (taken : Taken) (value : String) : Except Stop Taken :=
  if taken.name.isNone then .ok { taken with name := some value } else .error .usage

end Taken

/-- Takes the arguments of a command from left to right. -/
def takeArguments (form : Form) : Taken → List String → Except Stop Taken
  | taken, [] => .ok taken
  | taken, argument :: rest =>
    match shape form.takesName argument, rest with
    | .separator, rest => rest.foldlM (Taken.addOperand form) taken
    | .help, _ => .error .help
    | .unknown, _ => .error .usage
    | .operand, rest => do takeArguments form (← taken.addOperand form argument) rest
    | .name (some value), rest => do takeArguments form (← taken.setName value) rest
    | .name none, [] => .error .usage
    | .name none, value :: rest => do
      if looksLikeOption value then .error .usage
      else takeArguments form (← taken.setName value) rest

/-- The command of a given name, if it has all its operands. -/
def commandOf (name : String) (taken : Taken) : Except Stop Command :=
  match name, taken.operands with
  | "make", [disk, count] =>
    match parseCount? count with
    | some dataBlocks => .ok (.make disk dataBlocks)
    | none => .error .usage
  | "info", [disk] => .ok (.info disk)
  | "ls", [disk] => .ok (.list disk)
  | "add", [disk, hostFile] => .ok (.add disk hostFile taken.name)
  | "rm", [disk, file] => .ok (.remove disk file)
  | "cat", [disk, file] => .ok (.print disk file)
  | "stat", [disk, file] => .ok (.size disk file)
  | "check", [disk] => .ok (.check disk)
  | _, _ => .error .usage

/-- Help can be asked for the program, for one command, and for help itself. -/
def helpFor : List String → Stop
  | [] => .help
  | [name] => if name = "help" ∨ (forms.lookup name).isSome then .help else .usage
  | _ => .usage

/-- The command that the arguments ask for, by the rules above. -/
def parse : Parser
  | [] => .error .usage
  | name :: rest =>
    match forms.lookup name with
    | some form => do commandOf name (← takeArguments form .start rest)
    | none =>
      if name = "help" then .error (helpFor rest)
      else if shape false name = .help then .error .help
      else .error .usage

end FlatVolume.CommandLine
