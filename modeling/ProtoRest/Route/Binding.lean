import ProtoRest.Route.Verb
import ProtoRest.Schema.Field

/-! # Bindings
A binding answers one route with one method: which request fields come from the path, the body and
the query, and what is returned. The bindings of a file are grouped by method and service. -/

namespace ProtoRest.Route

open ProtoRest.Schema

/-- A request field that is read from the path or from the query. -/
structure BoundField where
  /-- The name in the schema, which is also the name in paths and queries. -/
  name : String
  /-- The name in generated code, before keywords are escaped. -/
  ident : String
  /-- The type of one value in generated code. -/
  codeType : String
  /-- The type of one value in the documentation. -/
  docType : String
  /-- Whether the request may lack the field. -/
  optional : Bool
  deriving DecidableEq, Repr

/-- Where the body goes. -/
inductive BodySource
  /-- No body is read. -/
  | none
  /-- The body is the request. -/
  | whole
  /-- The body is one field of the request; `wrap` says that the field may be absent. -/
  | field (name ident codeType : String) (wrap : Bool)
  deriving DecidableEq, Repr

/-- The field that a body fills. -/
def BodySource.name? : BodySource → Option String
  | .none | .whole => Option.none
  | .field name _ _ _ => some name

/-- What is returned. -/
inductive ResponseSource
  /-- The reply. -/
  | whole
  /-- One field of the reply. -/
  | field (name ident codeType docType : String)
  deriving DecidableEq, Repr

/-- One HTTP binding of a method. -/
structure Binding where
  /-- The position of its rule; the annotation itself is at zero. -/
  index : Nat
  /-- The verb. -/
  verb : Verb
  /-- The path in the notation of the router. -/
  route : String
  /-- The path in the notation of the documentation. -/
  docPath : String
  /-- The fields read from the path, in path order. -/
  pathParams : List BoundField
  /-- Where the body goes. -/
  body : BodySource
  /-- The fields read from the query, in declaration order. -/
  queryParams : List BoundField
  /-- What is returned. -/
  response : ResponseSource
  /-- Whether query values equal to their default are skipped. -/
  omitEmpty : Bool
  /-- The documentation line for authentication, when it is needed. -/
  authLine : Option String
  /-- The documentation lines. -/
  doc : List String
  deriving DecidableEq, Repr

/-- A method with its bindings. -/
structure MethodRoutes where
  /-- The last part of the name. -/
  name : String
  /-- The name with package and service. -/
  fullName : String
  /-- The comment before the declaration. -/
  comment : String
  /-- The type of the request. -/
  request : TypeRef
  /-- The type of the reply. -/
  reply : TypeRef
  /-- The bindings in the order of the rules. -/
  bindings : List Binding
  deriving DecidableEq, Repr

/-- A service with its bound methods. -/
structure ServiceRoutes where
  /-- The last part of the name. -/
  name : String
  /-- The name with the package. -/
  fullName : String
  /-- The comment before the declaration. -/
  comment : String
  /-- The methods with at least one binding, in declaration order. -/
  methods : List MethodRoutes
  deriving DecidableEq, Repr

/-- The bindings of a service. -/
def ServiceRoutes.bindings (s : ServiceRoutes) : List Binding := s.methods.flatMap (·.bindings)

/-- The bindings of a file. -/
structure Table where
  /-- The path of the file. -/
  file : String
  /-- The package of the file. -/
  package : String
  /-- The services with at least one binding, in declaration order. -/
  services : List ServiceRoutes
  deriving DecidableEq, Repr

/-- The bindings of all services. -/
def Table.bindings (t : Table) : List Binding := t.services.flatMap (·.bindings)

/-- Whether there is nothing to generate. -/
def Table.isEmpty (t : Table) : Bool := t.services.isEmpty

end ProtoRest.Route
