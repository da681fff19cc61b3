import ProtoRest.Fault
import ProtoRest.Setting.Argument
import ProtoRest.Setting.Parameter

/-! # Settings of the two commands
`RouteSettings` steer the route bindings; the error sets have no settings. Both are read from the
arguments of the process followed by those of the plugin parameter, so that the parameter wins. -/

namespace ProtoRest.Setting

open ProtoRest.Text

/-- The documentation line of methods that need authentication, unless another one is set. -/
def defaultAuthLine : String := "@Param Authorization header string false \"Bearer token\""

/-- What steers the route bindings. -/
structure RouteSettings where
  /-- Whether query values equal to their default are skipped. -/
  omitEmpty : Bool := true
  /-- The routes that this applies to start with this text. -/
  omitEmptyPrefix : String := ""
  /-- The documentation line of methods that need authentication. -/
  authLine : String := defaultAuthLine
  deriving DecidableEq, Repr

namespace RouteSettings

/-- The documentation line without a comment marker. -/
def plainAuthLine (s : RouteSettings) : String := plainLine s.authLine

/-- Whether default values are skipped in the query of a documented path. -/
def omitEmptyFor (s : RouteSettings) (path : String) : Bool :=
  s.omitEmpty && s.omitEmptyPrefix.toList.isPrefixOf path.toList

end RouteSettings

/-! ## The commands -/

/-- Whether to skip default values. -/
def omitEmptyOpt : Opt :=
  ⟨"omitempty", none, .optional "true", .note, ["true", "false"], some "true",
    "Skip binding query values equal to their type's default"⟩

/-- Where to skip default values. -/
def omitEmptyPrefixOpt : Opt :=
  ⟨"omitempty_prefix", none, .one, .note, [], some "",
    "Only apply `omitempty` to routes starting with this prefix"⟩

/-- The documentation line of methods that need authentication. -/
def authLineOpt : Opt :=
  ⟨"swagger_auth_header", none, .one, .note, [], some defaultAuthLine,
    "Swagger line emitted for methods that require authentication"⟩

/-- The command that writes route bindings. -/
def routesCommand : Command where
  name := "protoc-gen-sphere"
  about := "Generate axum route bindings from google.api.http annotations"
  own := [omitEmptyOpt, omitEmptyPrefixOpt, authLineOpt]

/-- The command that writes error sets. -/
def errorsCommand : Command where
  name := "protoc-gen-sphere-errors"
  about := "Generate typed error taxonomies from sphere.errors enum annotations"
  own := []

/-! ## Reading settings -/

/-- The arguments of the process, the program's name first, and those of the parameter. -/
def mergedArguments (arguments : List String) (parameter : Option String) : List String :=
  arguments ++ (parameter.map parameterArguments).getD []

/-- The fault of arguments; by now help and version can only come from the parameter. -/
def settingFault (c : Command) (shown : String) : ArgumentFault → Fault
  | .help | .version =>
    .setting "`help` and `version` cannot be used as plugin parameters"
  | fault => .setting (fault.message c shown)

/-- Reads arguments of which the first is the program's name. -/
def Command.readProcess (c : Command) (arguments : List String) : Except ArgumentFault Progress :=
  c.read arguments.tail

/-- The options that the process and the parameter give to a command. -/
def Command.readSources (c : Command) (arguments : List String) (parameter : Option String) :
    Except Fault Progress :=
  let merged := mergedArguments arguments parameter
  match c.readProcess merged with
  | .ok given => .ok given
  | .error fault => .error (settingFault c (c.shownName merged.head?) fault)

/-- The settings that given options stand for. -/
def RouteSettings.ofGiven (given : Progress) : RouteSettings where
  omitEmpty := (given.value? "omitempty").all (· == "true")
  omitEmptyPrefix := (given.value? "omitempty_prefix").getD ""
  authLine := (given.value? "swagger_auth_header").getD defaultAuthLine

/-- The settings of the route bindings. -/
def RouteSettings.ofSources (arguments : List String) (parameter : Option String) :
    Except Fault RouteSettings :=
  (routesCommand.readSources arguments parameter).map RouteSettings.ofGiven

/-- Checks that nothing is set for the error sets. -/
def checkErrorSources (arguments : List String) (parameter : Option String) :
    Except Fault Unit :=
  (errorsCommand.readSources arguments parameter).map fun _ => ()

end ProtoRest.Setting
