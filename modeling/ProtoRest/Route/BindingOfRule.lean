import ProtoRest.Path.Parse
import ProtoRest.Route.Binding
import ProtoRest.Schema.File
import ProtoRest.Setting.Settings
import ProtoRest.Text.Words

/-! # The binding of a rule
`bindingOfRule` builds the binding of one HTTP rule: it reads the pattern, looks up the path
parameters, the body field and the response field in the messages of the method, and leaves the
other fields that fit to the query. `BindingFault` lists the reasons why a rule has no binding. -/

namespace ProtoRest.Route

open ProtoRest.Schema ProtoRest.Text ProtoRest.Setting

/-- Why a rule gets no binding. -/
inductive BindingFault
  /-- The rule has no pattern. -/
  | noPattern
  /-- A custom pattern for a verb that cannot be bound that way. -/
  | unsupportedVerb (kind : String)
  /-- The path template cannot be used. -/
  | badPath (path : String) (fault : Path.Template.Fault)
  /-- A path parameter that is no field of the request. -/
  | unknownPathField (name message : String)
  /-- A path parameter whose field cannot be read from a path segment. -/
  | unfitPathField (name : String)
  /-- A body that is no field of the request. -/
  | unknownBodyField (name message : String)
  /-- A body that is also a path parameter. -/
  | bodyInPath (name : String)
  /-- A body that is one alternative of a choice. -/
  | bodyInOneof (name oneof : String)
  /-- A response that is no field of the reply. -/
  | unknownResponseField (name message : String)
  /-- A response that is one alternative of a choice. -/
  | responseInOneof (name oneof : String)
  /-- The same verb and route are bound by another method. -/
  | alreadyBound (verb : Verb) (route owner : String)
  /-- A route of the same shape is bound by another method. -/
  | conflicting (route other owner : String)
  deriving DecidableEq, Repr

/-- The text shown for a fault. -/
def BindingFault.message : BindingFault → String
  | .noPattern => "http rule has no pattern"
  | .unsupportedVerb kind => "unsupported custom HTTP method `" ++ kind ++ "`"
  | .badPath path fault => "invalid path `" ++ path ++ "`: " ++ fault.message
  | .unknownPathField name message =>
    "path parameter `" ++ name ++ "` is not a field of " ++ message
  | .unfitPathField name =>
    "field `" ++ name ++
      "` cannot be bound to the path, only singular string, number and enum fields can"
  | .unknownBodyField name message => "body field `" ++ name ++ "` is not a field of " ++ message
  | .bodyInPath name => "body field `" ++ name ++ "` is also bound to the path"
  | .bodyInOneof name oneof => "body field `" ++ name ++ "` is a member of oneof `" ++ oneof ++ "`"
  | .unknownResponseField name message =>
    "response body field `" ++ name ++ "` is not a field of " ++ message
  | .responseInOneof name oneof =>
    "response body field `" ++ name ++ "` is a member of oneof `" ++ oneof ++ "`"
  | .alreadyBound verb route owner =>
    "route " ++ verb.name ++ " " ++ route ++ " is already bound by " ++ owner
  | .conflicting route other owner =>
    "route " ++ route ++ " conflicts with route " ++ other ++ " of " ++ owner

/-! ## The pattern -/

/-- The verb and the path of a pattern; a custom pattern is for the verbs that have no other. -/
def targetOfPattern : Option Pattern → Except BindingFault (Verb × String)
  | none => .error .noPattern
  | some (.get path) => .ok (.get, path)
  | some (.post path) => .ok (.post, path)
  | some (.put path) => .ok (.put, path)
  | some (.patch path) => .ok (.patch, path)
  | some (.delete path) => .ok (.delete, path)
  | some (.custom kind path) =>
    match (Verb.ofName? kind).filter Verb.isCustom with
    | some verb => .ok (verb, path)
    | none => .error (.unsupportedVerb kind)

/-! ## Fields of the request -/

/-- The bound form of a field. -/
def BoundField.ofField (f : Field) : BoundField where
  name := f.name
  ident := snakeCase f.name
  codeType := f.kind.codeType
  docType := f.kind.docType
  optional := f.label == .optional

/-- Whether a field can be read from a path segment. -/
def fitsPath (f : Field) : Bool := f.oneof.isNone && f.label.isSingle && f.kind.fitsPath

/-- Whether a field can be read from a query value. -/
def fitsQuery (f : Field) : Bool := f.oneof.isNone && f.label.isSingle && f.kind.fitsQuery

/-- The bound field of a path parameter. -/
def pathParam (request : Message) (name : String) : Except BindingFault BoundField :=
  match request.field? name with
  | none => .error (.unknownPathField name request.type.fullName)
  | some f => if fitsPath f then .ok (.ofField f) else .error (.unfitPathField name)

/-- The bound fields of all path parameters. -/
def pathParams (request : Message) (names : List String) : Except BindingFault (List BoundField) :=
  names.mapM (pathParam request)

/-- The type that a repeated field holds its values in. -/
def listType (type : String) : String := "::prost::alloc::vec::Vec<" ++ type ++ ">"

/-- The type that a map field holds its entries in. -/
def mapType (key value : String) : String :=
  "::std::collections::HashMap<" ++ key ++ ", " ++ value ++ ">"

/-- The type of a field that may be absent. -/
def optionType (type : String) : String := "::core::option::Option<" ++ type ++ ">"

/-- Whether a kind is a message. -/
def isMessage : FieldKind → Bool
  | .message _ => true
  | .scalar _ | .enum _ => false

/-- The type that a body is read into, and whether the field may be absent. -/
def bodyType (f : Field) : String × Bool :=
  match f.label with
  | .repeated => (listType f.kind.codeType, false)
  | .map key value => (mapType key.codeType value.codeType, false)
  | .optional => (f.kind.codeType, true)
  | .singular => (f.kind.codeType, isMessage f.kind)

/-- Where the body of a rule goes. -/
def bodySource (request : Message) (body : String) (params : List BoundField) :
    Except BindingFault BodySource :=
  let name := trimmed body
  if name = "" then .ok .none
  else if name = "*" then .ok .whole
  else
    match request.field? name with
    | none => .error (.unknownBodyField name request.type.fullName)
    | some f =>
      -- a field in the path is reported as such, also when it is one alternative of a choice
      if params.any (·.name == name) then .error (.bodyInPath name)
      else
        match f.oneof with
        | some oneof => .error (.bodyInOneof name oneof)
        | none =>
          let (type, wrap) := bodyType f
          .ok (.field f.name (snakeCase f.name) type wrap)

/-- The fields left to the query: none when the body is the whole request. -/
def queryParams (request : Message) (params : List BoundField) (body : BodySource) :
    List BoundField :=
  match body with
  | .whole => []
  | _ =>
    let rest := request.fields.filter fun f =>
      !params.any (·.name == f.name) && body.name? != some f.name
    (rest.filter fitsQuery).map .ofField

/-! ## The response -/

/-- The type of a response field in generated code and in the documentation. -/
def responseType (f : Field) : String × String :=
  let element :=
    match f.kind with
    | .message type => type.name
    | kind => kind.docType
  let braced (kind : String) := "\x7b" ++ kind ++ "\x7d "
  match f.label with
  | .repeated => (listType f.kind.codeType, braced "array" ++ element)
  | .map key value => (mapType key.codeType value.codeType, braced "object" ++ "object")
  | .optional => (optionType f.kind.codeType, braced f.kind.docType ++ element)
  | .singular =>
    if isMessage f.kind then (optionType f.kind.codeType, braced "object" ++ element)
    else (f.kind.codeType, braced f.kind.docType ++ element)

/-- What a rule returns. -/
def responseSource (reply : Message) (responseBody : String) :
    Except BindingFault ResponseSource :=
  let name := trimmed responseBody
  if name = "" ∨ name = "*" then .ok .whole
  else
    match reply.field? name with
    | none => .error (.unknownResponseField name reply.type.fullName)
    | some f =>
      match f.oneof with
      | some oneof => .error (.responseInOneof name oneof)
      | none =>
        let (codeType, docType) := responseType f
        .ok (.field f.name (snakeCase f.name) codeType docType)

/-! ## The documentation -/

/-- The documentation line for authentication: the line of the method unless it is empty, and the
line of the settings when the method or its service asks for authentication. -/
def authLine (settings : RouteSettings) (service : Service) (method : Method) : Option String :=
  let own := (method.authLine.map plainLine).filter (· ≠ "")
  match own with
  | some line => some line
  | none =>
    if method.auth || service.auth || method.authLine.isSome then some settings.plainAuthLine
    else none

/-- The documentation line of a parameter. -/
def paramLine (place required : String) (p : BoundField) : String :=
  "@Param " ++ p.name ++ " " ++ place ++ " " ++ p.docType ++ " " ++ required ++ " \"" ++ p.name ++
    "\""

/-- The documentation lines of a binding. -/
def docLines (package : String) (service : Service) (method : Method) (b : Binding) :
    List String :=
  ["@Summary " ++ method.name] ++
    (if method.comment = "" then [] else ["@Description " ++ method.comment]) ++
    ["@Tags " ++ package ++ "," ++ package ++ "." ++ service.name, "@Accept json",
      "@Produce json"] ++
    b.authLine.toList ++
    b.pathParams.map (paramLine "path" "true") ++
    b.queryParams.map (paramLine "query" "false") ++
    (if b.verb.carriesBody then
      ["@Param request body " ++ method.input.type.name ++ " true \"request body\""] else []) ++
    [match b.response with
      | .whole => "@Success 200 \x7bobject\x7d " ++ method.output.type.name
      | .field _ _ _ docType => "@Success 200 " ++ docType] ++
    ["@Failure 400,401,403,500,default \x7bobject\x7d ErrorResponse",
      "@Router " ++ b.docPath ++ " [" ++ b.verb.routingName ++ "]"]

/-! ## The binding -/

/-- The binding of the rule at a position. -/
def bindingOfRule (settings : RouteSettings) (package : String) (service : Service)
    (method : Method) (index : Nat) (rule : HttpRule) : Except BindingFault Binding := do
  let (verb, path) ← targetOfPattern rule.pattern
  let template ← (Path.Template.parse path).mapError (.badPath path)
  let params ← pathParams method.input template.parameters
  let body ← bodySource method.input rule.body params
  let response ← responseSource method.output rule.responseBody
  let binding : Binding :=
    { index, verb
      route := template.route
      docPath := template.docPath
      pathParams := params
      body
      queryParams := queryParams method.input params body
      response
      omitEmpty := settings.omitEmptyFor template.docPath
      authLine := authLine settings service method
      doc := [] }
  return { binding with doc := docLines package service method binding }

end ProtoRest.Route
