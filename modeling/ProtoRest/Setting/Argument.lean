import ProtoRest.Text.Blank
import ProtoRest.Text.Quoted
import ProtoRest.Text.Similarity
import ProtoRest.Version

/-! # Command lines
A **command** has long options, some with a short form, and takes no other arguments. `readAll`
reads arguments from left to right into the options given, each with its last value. A value may
follow its option as the next argument; it is checked when the next option is met or at the end.
`ArgumentFault` lists what can be wrong, the requests for help and version among it, and
`ArgumentFault.message` writes it with the usage and the nearest name. -/

namespace ProtoRest.Setting

open ProtoRest.Text

/-- How many values an option takes. -/
inductive Arity
  /-- None. -/
  | flag
  /-- One or none; the option without a value stands for this one. -/
  | optional (absent : String)
  /-- Exactly one. -/
  | one
  deriving DecidableEq, Repr

/-- What an option without a value of its own does. -/
inductive Action
  /-- It is noted with its value. -/
  | note
  /-- It asks for help. -/
  | help
  /-- It asks for the version. -/
  | version
  deriving DecidableEq, Repr

/-- An option of a command. -/
structure Opt where
  /-- The long form without its dashes. -/
  name : String
  /-- The short form without its dash. -/
  short : Option Char
  /-- How many values it takes. -/
  arity : Arity
  /-- What it does. -/
  action : Action
  /-- The values that are allowed; any value when there is none here. -/
  allowed : List String
  /-- The value when it is not given. -/
  default : Option String
  /-- What it is for. -/
  about : String
  deriving DecidableEq, Repr

/-- A command with its options. -/
structure Command where
  /-- The name of the program. -/
  name : String
  /-- What it does. -/
  about : String
  /-- Its own options; help and version come on top. -/
  own : List Opt
  deriving Repr

/-- The option that asks for help. -/
def helpOpt : Opt := ⟨"help", some 'h', .flag, .help, [], none, "Print help"⟩

/-- The option that asks for the version. -/
def versionOpt : Opt := ⟨"version", some 'V', .flag, .version, [], none, "Print version"⟩

/-- All options of a command. -/
def Command.opts (c : Command) : List Opt := c.own ++ [helpOpt, versionOpt]

/-- The name under which the usage shows the value of an option. -/
def Opt.valueName (o : Opt) : String := String.ofList (o.name.toList.map Char.toUpper)

/-- An option with its value as the usage shows it. -/
def Opt.usage (o : Opt) : String :=
  match o.arity with
  | .flag => "--" ++ o.name
  | .optional _ => "--" ++ o.name ++ " [<" ++ o.valueName ++ ">]"
  | .one => "--" ++ o.name ++ " <" ++ o.valueName ++ ">"

/-! ## Faults of arguments -/

/-- Why arguments were not read to their end. -/
inductive ArgumentFault
  /-- An argument that is no option; `similar` is the option that may be meant, and `used` are the
  options to show in the usage. -/
  | unexpected (argument : String) (similar : Option Opt) (used : List Opt)
  /-- An option without the value that it needs. -/
  | valueMissing (opt : Opt)
  /-- A value that is not allowed. -/
  | valueInvalid (opt : Opt) (value : String)
  /-- A value for an option that takes none, after the options in `used`. -/
  | valueUnneeded (opt : Opt) (value : String) (used : List Opt)
  /-- A request for help. -/
  | help
  /-- A request for the version. -/
  | version
  deriving DecidableEq, Repr

/-! ## Reading arguments -/

/-- An option waiting to be noted: with the value that followed it, or with none so far. -/
structure Pending where
  /-- The option. -/
  opt : Opt
  /-- The value that followed it. -/
  value : Option String
  deriving DecidableEq, Repr

/-- What has been read so far. -/
structure Progress where
  /-- The options noted, each once with its last value, in the order of their last use. -/
  given : List (Opt × String) := []
  /-- The option that is still waiting. -/
  pending : Option Pending := none
  deriving Repr

namespace Progress

/-- Notes a value after checking it. -/
def note (p : Progress) (o : Opt) (value : String) : Except ArgumentFault Progress :=
  if o.allowed = [] ∨ value ∈ o.allowed then
    .ok { p with given := p.given.filter (·.1.name ≠ o.name) ++ [(o, value)] }
  else if value = "" then .error (.valueMissing o)
  else .error (.valueInvalid o value)

/-- Notes the option that is waiting. -/
def settle (p : Progress) : Except ArgumentFault Progress :=
  match p.pending with
  | none => .ok p
  | some ⟨o, some value⟩ => { p with pending := none }.note o value
  | some ⟨o, none⟩ =>
    match o.arity with
    | .optional absent => { p with pending := none }.note o absent
    | _ => .error (.valueMissing o)

/-- The options noted so far. -/
def used (p : Progress) : List Opt := p.given.map (·.1)

/-- The options that a usage shows: those noted, and the one that is waiting unless it lacks its
value. -/
def shown (p : Progress) : List Opt :=
  match p.pending with
  | none => p.used
  | some ⟨o, value⟩ =>
    if value.isSome ∨ o.arity ≠ .one then p.used.filter (·.name ≠ o.name) ++ [o] else p.used

/-- The value noted for an option. -/
def value? (p : Progress) (name : String) : Option String :=
  (p.given.find? (·.1.name == name)).map (·.2)

end Progress

/-- The end that a flag brings about. -/
def Opt.ask (o : Opt) (p : Progress) : Except ArgumentFault Progress := do
  let p ← p.settle
  match o.action with
  | .help => throw .help
  | .version => throw .version
  | .note => return p

/-- Reads a long option, given its name and the value after the equals sign. -/
def Command.readLong (c : Command) (p : Progress) (name : String) (value : Option String) :
    Except ArgumentFault Progress :=
  match c.opts.find? (·.name == name) with
  | none =>
    let similar := (mostSimilar name (c.opts.map (·.name))).bind
      fun n => c.opts.find? (·.name == n)
    let extra := similar.toList.filter (· ∉ p.shown)
    .error (.unexpected ("--" ++ name) similar (p.shown ++ extra))
  | some o =>
    match o.arity, value with
    | .flag, none => o.ask p
    | .flag, some value => .error (.valueUnneeded o value p.used)
    | _, some value => do (← p.settle).note o value
    | _, none => do return { ← p.settle with pending := some ⟨o, none⟩ }

/-- Reads the first letter after a single dash. -/
def Command.readShort (c : Command) (p : Progress) (letter : Char) :
    Except ArgumentFault Progress :=
  match c.opts.find? (·.short == some letter) with
  | some o => o.ask p
  | none => .error (.unexpected (String.ofList ['-', letter]) none [])

/-- Reads an argument that is no option: the value of the option that waits for one. -/
def readValue (p : Progress) (argument : String) : Except ArgumentFault Progress :=
  match p.pending with
  | some ⟨o, none⟩ => .ok { p with pending := some ⟨o, some argument⟩ }
  | _ => .error (.unexpected argument none [])

/-- Reads one argument. -/
def Command.readArgument (c : Command) (p : Progress) (argument : String) :
    Except ArgumentFault Progress :=
  match argument.toList with
  | '-' :: '-' :: long =>
    match splitOnce '=' long with
    | some (name, value) => c.readLong p (String.ofList name) (some (String.ofList value))
    | none => c.readLong p (String.ofList long) none
  | '-' :: letter :: _ => c.readShort p letter
  | _ => readValue p argument

/-- Reads all arguments; after a bare double dash nothing is an option any more. -/
def Command.readAll (c : Command) (p : Progress) : List String → Except ArgumentFault Progress
  | [] => p.settle
  | "--" :: [] => p.settle
  | "--" :: argument :: _ => .error (.unexpected argument none [])
  | argument :: rest => do c.readAll (← c.readArgument p argument) rest

/-- The options that the arguments after the program's name give. -/
def Command.read (c : Command) (arguments : List String) : Except ArgumentFault Progress :=
  c.readAll {} arguments

/-! ## Texts -/

/-- The last part of a path, unless the path ends in the parent of something. -/
def lastPathPart (path : String) : Option String :=
  match ((splitAt '/' path.toList).filter fun part => part ≠ [] ∧ part ≠ ['.']).getLast? with
  | none => none
  | some part => if part = ['.', '.'] then none else some (String.ofList part)

/-- The name of a command as its usage shows it, given the first argument of the process. -/
def Command.shownName (c : Command) (program : Option String) : String :=
  (program.bind lastPathPart).getD c.name

/-- The usage of a command without arguments. -/
def Command.plainUsage (c : Command) (shown : String) : String :=
  "Usage: " ++ shown ++ (if c.own = [] then "" else " [OPTIONS]")

/-- The usage of a command with some options. -/
def Command.usageWith (c : Command) (shown : String) (parts : List String) : String :=
  if parts = [] then c.plainUsage shown else " ".intercalate (("Usage: " ++ shown) :: parts)

/-- The group of a command's own options. -/
def Command.groupUsage (c : Command) : String :=
  "<" ++ "|".intercalate (c.own.map Opt.usage) ++ ">"

/-- The line that lists the allowed values of an option. -/
def Opt.allowedLine (o : Opt) : String :=
  if o.allowed = [] then ""
  else "\n  [possible values: " ++ ", ".intercalate o.allowed ++ "]"

/-- The last line of every message. -/
def helpHint : String := "\n\nFor more information, try '--help'.\n"

/-- The text shown for a fault. -/
def ArgumentFault.message (c : Command) (shown : String) : ArgumentFault → String
  | .unexpected argument similar used =>
    "error: unexpected argument '" ++ argument ++ "' found" ++
      (match similar with
       | none => ""
       | some o => "\n\n  tip: a similar argument exists: '--" ++ o.name ++ "'") ++
      "\n\n" ++ c.usageWith shown (used.map Opt.usage) ++ helpHint
  | .valueMissing o =>
    "error: a value is required for '" ++ o.usage ++ "' but none was supplied" ++ o.allowedLine ++
      helpHint
  | .valueInvalid o value =>
    "error: invalid value '" ++ value ++ "' for '" ++ o.usage ++ "'" ++ o.allowedLine ++
      (match mostSimilar value o.allowed with
       | none => ""
       | some v => "\n\n  tip: a similar value exists: '" ++ v ++ "'") ++ helpHint
  | .valueUnneeded o value used =>
    "error: unexpected value '" ++ value ++ "' for '" ++ o.usage ++
      "' found; no more were expected\n\n" ++
      c.usageWith shown (o.usage :: (if used = [] then [] else [c.groupUsage])) ++ helpHint
  | .help => "help"
  | .version => "version"

/-! ## Help -/

/-- What is printed for a request for the version. -/
def Command.versionText (c : Command) : String := c.name ++ " " ++ version ++ "\n"

/-- A default value as the help shows it. -/
def shownDefault (value : String) : String :=
  if value = "" ∨ value.toList.any isBlank then quote value else value

/-- What an option is for, with its default and its allowed values. -/
def Opt.helpText (o : Opt) : String :=
  o.about ++
    (match o.default with
     | none => ""
     | some value => " [default: " ++ shownDefault value ++ "]") ++
    (if o.allowed = [] then "" else " [possible values: " ++ ", ".intercalate o.allowed ++ "]")

/-- Both forms of an option, with room for the short one. -/
def Opt.forms (o : Opt) : String :=
  match o.short with
  | some letter => String.ofList ['-', letter, ',', ' '] ++ o.usage
  | none => "    " ++ o.usage

/-- The width that help is laid out for. -/
def helpWidth : Nat := 100

/-- Whether the texts of the options go below the options: some text is longer than the room beside
the longest option, which takes more than two fifths of the width. -/
def Command.stacked (c : Command) : Bool :=
  let longest := (c.opts.map (·.usage.length)).foldl max 0
  let taken := longest + 12
  taken ≤ helpWidth && 2 * helpWidth < 5 * taken &&
    c.opts.any fun o => helpWidth - taken < o.helpText.length

/-- The options with their texts. -/
def Command.helpLines (c : Command) : List String :=
  if c.stacked then c.opts.map fun o => "  " ++ o.forms ++ "\n          " ++ o.helpText
  else
    let width := (c.opts.map (·.forms.length)).foldl max 0
    c.opts.map fun o =>
      "  " ++ o.forms ++ "".pushn ' ' (width - o.forms.length + 2) ++ o.helpText

/-- What is printed for a request for help. -/
def Command.helpText (c : Command) (shown : String) : String :=
  c.about ++ "\n\n" ++ c.plainUsage shown ++ "\n\nOptions:\n" ++ "\n".intercalate c.helpLines ++ "\n"

end ProtoRest.Setting
