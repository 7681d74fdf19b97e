/-!
# Arguments of a command line

Arguments are options with a long name and perhaps a letter, the values of options, and operands.
The value of an option is attached to it or is the next argument, which must not look like an
option.  Two dashes alone end the options.

## Main definitions

* `OptionSpec` : an option that may be given.
* `Argument` : an argument that was given.
* `scan` : the arguments of a list up to the first that cannot be, or to the first operand.
-/

namespace ValueTrace.CommandLine

/-- An option that may be given. -/
structure OptionSpec where
  name : String
  letter : Option Char
  takesValue : Bool
deriving DecidableEq, Repr

/-- An argument that was given. -/
inductive Argument where
  /-- An option without a value, by its name or by its letter. -/
  | flag (name : String) (byLetter : Bool)
  /-- An option with a value, which is attached to it or is an argument of its own. -/
  | value (name value : String) (attached : Bool)
  | operand (text : String)
deriving DecidableEq, Repr

/-- How a list of arguments ends. -/
inductive Ending where
  /-- All arguments were read. -/
  | complete
  /-- An argument is not among those that may be given. -/
  | faulty
  /-- The first operand, with the arguments after it. -/
  | stopped (operand : String) (rest : List String)
deriving DecidableEq, Repr

/-- Whether an argument looks like an option; a single dash does not. -/
def looksLikeOption (arg : String) : Bool :=
  match arg.toList with
  | '-' :: _ :: _ => true
  | _ => false

/-- The value that the next argument is. -/
def nextValue : List String → Option (String × List String)
  | [] => none
  | arg :: rest => if looksLikeOption arg then none else some (arg, rest)

/-- A value attached to a letter, without the equals sign that may precede it. -/
def attachedValue : List Char → String
  | '=' :: rest => String.ofList rest
  | text => String.ofList text

/-- The option with a value that is the next argument, and the arguments that are left, unless
there is no such value. -/
def takeNext (name : String) (rest : List String) : List Argument × Option (List String) :=
  match nextValue rest with
  | some (v, rest) => ([.value name v false], some rest)
  | none => ([], none)

/-- The options that a run of letters gives up to the first that cannot be, and the arguments that
are left if all can be. -/
def scanLetters (specs : List OptionSpec) :
    List Char → List String → List Argument × Option (List String)
  | [], rest => ([], some rest)
  | c :: letters, rest =>
    match specs.find? fun s => s.letter = some c with
    | none => ([], none)
    | some spec =>
      if spec.takesValue then
        match letters with
        | [] => takeNext spec.name rest
        | _ => ([.value spec.name (attachedValue letters) true], some rest)
      else
        let (more, left) := scanLetters specs letters rest
        (.flag spec.name true :: more, left)

/-- A name and the value attached to it by an equals sign. -/
def splitAttached (text : List Char) : String × Option String :=
  let name := String.ofList (text.takeWhile (· ≠ '='))
  match text.dropWhile (· ≠ '=') with
  | _ :: value => (name, some (String.ofList value))
  | [] => (name, none)

/-- The option that a long name gives, and the arguments that are left if there is such an
option. -/
def scanName (specs : List OptionSpec) (text : List Char) (rest : List String) :
    List Argument × Option (List String) :=
  let (name, attached) := splitAttached text
  match specs.find? fun s => s.name = name with
  | none => ([], none)
  | some spec =>
    match spec.takesValue, attached with
    | true, some v => ([.value name v true], some rest)
    | true, none => takeNext name rest
    | false, none => ([.flag name false], some rest)
    | false, some _ => ([], none)

/-- What the first argument gives, and the arguments that are left if it can be. -/
def scanFirst (specs : List OptionSpec) (stopAtOperand : Bool) (arg : String) (rest : List String) :
    List Argument × Option (List String) :=
  match arg.toList with
  | ['-', '-'] =>
    if stopAtOperand && !rest.isEmpty then ([], none) else (rest.map .operand, some [])
  | '-' :: '-' :: name => scanName specs name rest
  | '-' :: c :: letters => scanLetters specs (c :: letters) rest
  | _ => ([.operand arg], some rest)

/-- The arguments in order, and how they end.  The number of arguments bounds the steps. -/
def scan (specs : List OptionSpec) (stopAtOperand : Bool) :
    Nat → List String → List Argument × Ending
  | 0, _ => ([], .complete)
  | _, [] => ([], .complete)
  | fuel + 1, arg :: rest =>
    match scanFirst specs stopAtOperand arg rest with
    | (args, none) => (args, .faulty)
    | (args, some left) =>
      match stopAtOperand, args with
      | true, [.operand text] => ([], .stopped text left)
      | _, _ =>
        let (more, ending) := scan specs stopAtOperand fuel left
        (args ++ more, ending)

end ValueTrace.CommandLine
