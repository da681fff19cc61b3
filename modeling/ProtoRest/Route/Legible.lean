import ProtoRest.Code.PathText
import ProtoRest.Route.Site
import ProtoRest.Schema.Name

/-! # Legible sites
Generated code mentions some names and types of the schema as they are. They are **legible** where
they can be read back: a name has to start with a letter after its underscores, and the path of a
type has to be one. -/

namespace ProtoRest.Route

open ProtoRest.Code ProtoRest.Schema ProtoRest.Setting

/-- Whether a type stands for a kind wherever a type can stand. -/
def isLegible : FieldKind → Bool
  | .scalar _ | .enum _ => true
  | .message type => isTypeText type.path

/-- Whether a kind can stand alone between angle brackets. -/
def isLegibleArgs : FieldKind → Bool
  | .scalar _ | .enum _ => true
  | .message type => isArgsText type.path

/-- Whether a kind can be one of several arguments. -/
def isLegibleArg : FieldKind → Bool
  | .scalar _ | .enum _ => true
  | .message type => isArgText type.path

/-- Whether the type that a field is read into from a body is legible. -/
def isLegibleBody (f : Field) : Bool :=
  match f.label with
  | .singular | .optional => isLegible f.kind
  | .repeated => isLegibleArgs f.kind
  | .map key value => isLegibleArg key && isLegibleArgs value

/-- Whether the type that a field is returned in is legible. -/
def isLegibleResponse (f : Field) : Bool :=
  match f.label with
  | .singular | .optional | .repeated => isLegibleArgs f.kind
  | .map key value => isLegibleArg key && isLegibleArgs value

/-- Whether the field that a body fills is legible. -/
def BodySource.isLegible (request : Message) : BodySource → Bool
  | .none | .whole => true
  | .field name _ _ _ => leadsWithLetter name && (request.field? name).any isLegibleBody

/-- Whether the field that is returned is legible. -/
def ResponseSource.isLegible (reply : Message) : ResponseSource → Bool
  | .whole => true
  | .field name _ _ _ => leadsWithLetter name && (reply.field? name).any isLegibleResponse

/-- Whether the fields that a binding takes and returns are legible. -/
def Binding.isLegible (request reply : Message) (b : Binding) : Bool :=
  (b.pathParams ++ b.queryParams).all (leadsWithLetter ·.name) && b.body.isLegible request &&
    b.response.isLegible reply

/-- Whether the names and the types around the rules of a method are legible. -/
def isLegibleMethod (m : Method) : Bool :=
  isTypeText m.input.type.path && isTypeText m.output.type.path && leadsWithLetter m.name

/-- Whether everything that the code of a site mentions is legible. -/
def Site.isLegible (settings : RouteSettings) (package : String) (site : Site) : Bool :=
  !leadsWithDigit site.service.name && isLegibleMethod site.method &&
    match site.binding settings package with
    | .ok b => b.isLegible site.method.input site.method.output
    | .error _ => true

end ProtoRest.Route
