import ProtoRest.Setting.Settings

/-! # Occurrences of options
What arguments say without reading them from left to right. `Gives` relates the arguments of a command
to the options in them, each with its value: the value stands after an equals sign, or it is the next
argument, or the option stands alone and has the value that it stands for then. `lastOf` is the value
of the last occurrence, and `parameterKeys` are the names that a plugin parameter mentions. -/

namespace ProtoRest.Setting

open ProtoRest.Text

/-! ## Arguments -/

/-- What an argument is by its form. -/
inductive Argument
  /-- A name after two dashes, and the value after an equals sign. -/
  | option (name : String) (value : Option String)
  /-- A letter after a single dash. -/
  | short (letter : Char)
  /-- Anything else. -/
  | plain (text : String)
  deriving DecidableEq, Repr

/-- The form of an argument. -/
def Argument.ofText (argument : String) : Argument :=
  match argument.toList with
  | '-' :: '-' :: long =>
    match splitOnce '=' long with
    | some (name, value) => .option (String.ofList name) (some (String.ofList value))
    | none => .option (String.ofList long) none
  | '-' :: letter :: _ => .short letter
  | _ => .plain argument

/-- Whether an argument can be a value of the option before it. -/
def isValue (argument : String) : Prop := Argument.ofText argument = .plain argument

/-- A value is allowed for an option. -/
def Opt.Takes (o : Opt) (value : String) : Prop := o.allowed = [] ∨ value ∈ o.allowed

/-- A name stands for an option that has a value. -/
structure Command.Names (c : Command) (name : String) (o : Opt) : Prop where
  /-- The option has the name. -/
  found : c.opts.find? (·.name == name) = some o
  /-- It is not one of those that only ask for something. -/
  valued : o.arity ≠ .flag

/-- An option with one of its values. -/
abbrev Occurrence := Opt × String

/-- Arguments give options with their values; the first of the arguments may be the value of an option
that waits for one. -/
inductive Gives (c : Command) : Option Opt → List String → List Occurrence → Prop
  /-- No arguments give no options. -/
  | nil : Gives c none [] []
  /-- The value stands after an equals sign. -/
  | attached {argument name value : String} {rest : List String} {o : Opt} {given : List Occurrence} :
      Argument.ofText argument = .option name (some value) → c.Names name o → o.Takes value →
        Gives c none rest given → Gives c none (argument :: rest) ((o, value) :: given)
  /-- The option waits for its value. -/
  | waiting {argument name : String} {rest : List String} {o : Opt} {given : List Occurrence} :
      Argument.ofText argument = .option name none → c.Names name o →
        Gives c (some o) rest given → Gives c none (argument :: rest) given
  /-- The next argument is the value. -/
  | next {argument : String} {rest : List String} {o : Opt} {given : List Occurrence} :
      isValue argument → o.Takes argument → Gives c none rest given →
        Gives c (some o) (argument :: rest) ((o, argument) :: given)
  /-- No value follows, and the option has the one that it stands for alone. -/
  | alone {rest : List String} {o : Opt} {absent : String} {given : List Occurrence} :
      (∀ argument ∈ rest.head?, ¬isValue argument) → o.arity = .optional absent → o.Takes absent →
        Gives c none rest given → Gives c (some o) rest ((o, absent) :: given)

/-! ## Last values -/

/-- The value of the last occurrence of an option. -/
def lastOf (given : List Occurrence) (name : String) : Option String :=
  ((given.filter (·.1.name = name)).getLast?).map (·.2)

/-- The settings that the last occurrence of each option makes. -/
def RouteSettings.ofLast (given : List Occurrence) : RouteSettings where
  omitEmpty := (lastOf given "omitempty").all (· == "true")
  omitEmptyPrefix := (lastOf given "omitempty_prefix").getD ""
  authLine := (lastOf given "swagger_auth_header").getD defaultAuthLine

/-! ## Keys of a parameter -/

/-- The key of a part of a parameter: what stands before the equals sign, without dashes before it. -/
def partKey (part : List Char) : List Char :=
  let part := part.dropWhile (· == '-')
  match splitOnce '=' part with
  | some (key, _) => trim key
  | none => part

/-- The keys that a parameter mentions, one for each of its parts that is not blank. -/
def parameterKeys (parameter : String) : List String :=
  (((splitAt ',' parameter.toList).map trim).filter (· ≠ [])).map
    fun part => String.ofList (partKey part)

end ProtoRest.Setting
