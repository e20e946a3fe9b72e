import OperatorPanel.Text.Digits

/-!
# The command line

Options are read from left to right, and the first thing that settles the matter does so: a
request for help or for the version, or a mistake. Short options may stand together behind one
dash; a value may follow its option in the same argument, after an equals sign or, for short
options, directly, or be the next argument.
-/

namespace OperatorPanel

/-- What the program is told to do. -/
structure Options where
  /-- The path of the settings file. -/
  settings : String := "/etc/hmi/hmi_bridge.toml"
  /-- Use the simulated controller. -/
  simulate : Bool := false
  /-- The path of the segment directory. -/
  root : String := "/dev/shm"
  verbose : Bool := false
  /-- Write the log in JSON. -/
  json : Bool := false
  deriving DecidableEq, Repr

/-- What the program is asked for. -/
inductive Request where
  | run (o : Options)
  | help
  | version
  deriving DecidableEq, Repr

namespace CommandLine

/-- The options. -/
inductive Flag where
  | settings | simulate | root | verbose | json | help | version
  deriving DecidableEq, Repr

/-- The option with a long name. -/
def Flag.long? (name : List Char) : Option Flag :=
  match String.ofList name with
  | "config" => some settings
  | "simulate" => some simulate
  | "shm-root" => some root
  | "verbose" => some verbose
  | "json" => some json
  | "help" => some help
  | "version" => some version
  | _ => none

/-- The option with a letter. -/
def Flag.short? : Char → Option Flag
  | 'c' => some settings
  | 's' => some simulate
  | 'v' => some verbose
  | 'h' => some help
  | 'V' => some version
  | _ => none

/-- Whether an option has a value. -/
def Flag.hasValue : Flag → Bool
  | settings | root => true
  | simulate | verbose | json | help | version => false

/-- How far the command line was read. -/
structure Scan where
  options : Options := {}
  /-- The options that were given; each may be given once. -/
  given : List Flag := []
  /-- An option whose value must come next. -/
  pending : Option Flag := none
  /-- Only plain arguments may follow, and the program takes none. -/
  ended : Bool := false

/-- How reading goes on: further, with a request, or, for none, with a mistake. -/
abbrev Turn := Option (Scan ⊕ Request)

namespace Scan

/-- Set an option, with its value if it has one. -/
def set (s : Scan) (flag : Flag) (value : String) : Options :=
  match flag with
  | .settings => { s.options with settings := value }
  | .root => { s.options with root := value }
  | .simulate => { s.options with simulate := true }
  | .verbose => { s.options with verbose := true }
  | .json => { s.options with json := true }
  | .help | .version => s.options

/-- Take an option, which must not be given already; a value must not be empty. -/
def give (s : Scan) (flag : Flag) (value : String) : Turn :=
  match flag with
  | .help => some (.inr .help)
  | .version => some (.inr .version)
  | _ =>
    if s.given.contains flag || (flag.hasValue && value.isEmpty) then none
    else
      some (.inl
        { s with options := s.set flag value, given := flag :: s.given, pending := none })

/-- Read letters behind one dash. What follows an option with a value is the value. -/
def letters (s : Scan) : List Char → Turn
  | [] => some (.inl s)
  | c :: rest =>
    match Flag.short? c with
    | none => none
    | some flag =>
      if flag.hasValue then
        match rest with
        | [] => some (.inl { s with pending := some flag })
        -- an equals sign between the letter and its value is passed over
        | '=' :: value => s.give flag (String.ofList value)
        | value => s.give flag (String.ofList value)
      else
        match s.give flag "" with
        | some (.inl s) => letters s rest
        | turn => turn  -- a request or a mistake ends the reading in the middle of the word

/-- Read a name behind two dashes, with a value after an equals sign. -/
def named (s : Scan) (text : List Char) : Turn :=
  match Text.cut? '=' text with
  | some (name, value) =>
    match Flag.long? name with
    | some flag => if flag.hasValue then s.give flag (String.ofList value) else none
    | none => none
  | none =>
    match Flag.long? text with
    | some flag =>
      if flag.hasValue then some (.inl { s with pending := some flag }) else s.give flag ""
    | none => none

/-- Read one argument. -/
def argument (s : Scan) (arg : String) : Turn :=
  if s.ended then none
  else
    match s.pending, arg.toList with
    | some flag, ['-'] => s.give flag arg
    | some _, '-' :: _ => none
    | some flag, _ => s.give flag arg
    | none, ['-', '-'] => some (.inl { s with ended := true })
    | none, ['-'] => none
    | none, '-' :: '-' :: text => s.named text
    | none, '-' :: text => s.letters text
    | none, _ => none

/-- Read arguments to the end. -/
def arguments (s : Scan) : List String → Option Request
  | [] => if s.pending.isSome then none else some (.run s.options)
  | arg :: args =>
    match s.argument arg with
    | some (.inl s) => arguments s args
    | some (.inr request) => some request
    | none => none

end Scan
end CommandLine

/-- The request that the arguments make; none for a mistake. -/
def Request.ofArguments? (args : List String) : Option Request :=
  CommandLine.Scan.arguments {} args

end OperatorPanel
