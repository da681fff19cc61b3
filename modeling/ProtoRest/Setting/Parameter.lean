import ProtoRest.Text.Blank

/-! # The plugin parameter
A plugin gets one parameter text. `parameterArguments` turns it into arguments of a command line:
one long option per comma-separated part that is not blank. -/

namespace ProtoRest.Setting

open ProtoRest.Text

/-- A part of the parameter as a long option; dashes before the key do not count, and the blanks
around a key and its value do not either. -/
def partArgument (part : List Char) : List Char :=
  let part := part.dropWhile (· == '-')
  match splitOnce '=' part with
  | some (key, value) => "--".toList ++ trim key ++ '=' :: trim value
  | none => "--".toList ++ part

/-- The arguments that a parameter stands for. -/
def parameterArguments (parameter : String) : List String :=
  (((splitAt ',' parameter.toList).map trim).filter (· ≠ [])).map
    fun part => String.ofList (partArgument part)

/-- A documentation line without a comment marker and without blanks around it. -/
def plainLine (line : String) : String :=
  String.ofList (trim ((trim line.toList).dropWhile (· == '/')))

end ProtoRest.Setting
