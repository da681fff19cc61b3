import ProtoRest.Code.Item
import ProtoRest.Route.Names

/-! # Server code
The code that is generated for the services of a file: a trait that the application implements, for
each binding a handler with the structures of its parameters, and a function that mounts the
handlers on a router. -/

namespace ProtoRest.Route

/-! ## Mounts
The router has one mount per route of a service. A mount holds the handlers of the bindings with
that route, in the order of the bindings; mounts are in the order in which their routes appear
first. -/

/-- The verb and the handler of a binding. -/
structure Handler where
  /-- The verb that it answers. -/
  verb : Verb
  /-- Its name. -/
  name : String
  deriving DecidableEq, Repr

/-- A route with its handlers. -/
structure Mount where
  /-- The route. -/
  route : String
  /-- The handlers in the order of the bindings. -/
  handlers : List Handler
  deriving DecidableEq, Repr

/-- Adds a handler for a route. -/
def mountAt (route : String) (handler : Handler) : List Mount → List Mount
  | [] => [⟨route, [handler]⟩]
  | m :: ms =>
    if m.route = route then { m with handlers := m.handlers ++ [handler] } :: ms
    else m :: mountAt route handler ms

@[simp] theorem mountAt_nil (route : String) (handler : Handler) :
    mountAt route handler [] = [⟨route, [handler]⟩] := rfl

/-- The routes of a service with their handlers, in the order of the bindings. -/
def ServiceRoutes.handlers (s : ServiceRoutes) : List (String × Handler) :=
  s.methods.flatMap fun m =>
    m.bindings.map fun b => (b.route, ⟨b.verb, handlerName s.name m.name b.index⟩)

/-- The mounts of a service. -/
def ServiceRoutes.mounts (s : ServiceRoutes) : List Mount :=
  s.handlers.foldl (fun ms h => mountAt h.1 h.2 ms) []

open ProtoRest.Code

/-! ## Paths of the generated code -/

/-- The type for a value that may be absent. -/
def optionOf (ty : Ty) : Ty := .path (.generic true ["core", "option"] "Option" [.type ty])

/-- The type for a result. -/
def resultOf (ty error : Ty) : Ty :=
  .path (.generic true ["core", "result"] "Result" [.type ty, .type error])

/-- A type of the web framework around another. -/
def framed (modules : List String) (name : String) (ty : Ty) : Ty :=
  .path (.generic true ("axum" :: modules) name [.type ty])

/-- A path from the root as an expression. -/
def rootExpr (names : List String) : Expr := .path (.path (.root names))

/-- A path from the root as a bound. -/
def rootBound (names : List String) : Bound := .of (.root names)

/-- A present value. -/
def someOf (value : Expr) : Expr := .call (rootExpr ["core", "option", "Option", "Some"]) [value]

/-- The value of a type that stands for nothing. -/
def defaultOf (ty : Ty) : Expr :=
  .call (.path (.qualified ty (some (.root ["core", "default", "Default"])) [.plain "default"])) []

/-- An assignment. -/
def assignment (left right : Expr) : Stmt := .expr (.assign left right) true

/-! ## Parameter structures -/

/-- How a parameter may be absent. -/
inductive Presence
  /-- It is always there, as in a path. -/
  | required
  /-- It may be absent. -/
  | optional
  /-- It takes the default of its type when it is absent. -/
  | defaulted
  deriving DecidableEq, Repr

/-- A parameter with the name and the type that generated code has for it. -/
structure Param where
  /-- The parameter. -/
  field : BoundField
  /-- The name. -/
  ident : Ident
  /-- The type. -/
  ty : Ty

/-- The name and the type of a parameter. -/
def Param.ofField (field : BoundField) : Except Failure Param := do
  let ident ← Ident.ofField field.ident
  let ty ← tyOfText field.codeType
  return ⟨field, ident, ty⟩

/-- The field of a parameter; it is renamed when its name in the schema is another. -/
def Param.structField (presence : Presence) (p : Param) : StructField :=
  let rename :=
    if p.ident.text = p.field.name then []
    else
      [Attr.call "serde"
        [[.word "rename", .mark '=' false, .literal (Text.literal p.field.name)]]]
  let absent := if presence = .required then [] else [Attr.call "serde" [[.word "default"]]]
  .visible (rename ++ absent) p.ident (if presence = .optional then optionOf p.ty else p.ty)

/-- Names of the standard library that can be derived, and what makes a structure readable. -/
def derivable (names : List String) : List PlainPath :=
  names.map (fun name => ⟨false, [name]⟩) ++ [⟨true, ["serde", "Deserialize"]⟩]

/-- The structure for parameters; there is none for no parameters. -/
def paramsItem (kind : String) (derived : List PlainPath) (route : String) (name : Ident)
    (presence : Presence) (params : List Param) : List Item :=
  if params.isEmpty then []
  else
    [.record
      [.docLine (kind ++ " parameters of `" ++ route ++ "`"), .call "derive" (derived.map (·.tokens))]
      name (params.map (·.structField presence))]

/-! ## Handlers -/

/-- An input that takes the value out of a pattern. -/
def extractor (modules : List String) (name : String) (pat : String) (ty : Ty) : Input :=
  .of (.tupleStruct (.path (.root ("axum" :: (modules ++ [name])))) [.named pat])
    (framed modules name ty)

/-- The input for parameters; there is none for no parameters. -/
def paramsInput (name pat : String) (type : Ident) (params : List Param) : List Input :=
  if params.isEmpty then [] else [extractor ["extract"] name pat (.named type.text)]

/-- A field of the request. -/
def requestField (ident : Ident) : Expr := .field (.named "request") ident.text

/-- The assignment of a path parameter. -/
def pathAssignment (p : Param) : Stmt :=
  let value := Expr.field (.named "path") p.ident.text
  assignment (requestField p.ident) (if p.field.optional then someOf value else value)

/-- The assignment of a query parameter; a default value is skipped if `omitEmpty` is set. -/
def queryAssignment (omitEmpty : Bool) (p : Param) : List Stmt :=
  let value := Expr.named "value"
  let assigned :=
    assignment (requestField p.ident) (if p.field.optional then someOf value else value)
  let given := Expr.field (.named "query") p.ident.text
  -- neither an absent value nor the default of its type is assigned
  if omitEmpty then
    let some_ : Pat :=
      .tupleStruct (.path (.root ["core", "option", "Option", "Some"])) [.named "value"]
    [.expr
      (.ite (.matches some_ given)
        [.expr (.ite (.binary value "!=" (defaultOf p.ty)) [assigned] none) false] none)
      false]
  else [.let_ "value" given, assigned]

/-- What a body contributes: an input, an assignment and the first value of the request. -/
structure BodyCode where
  /-- The input. -/
  inputs : List Input
  /-- The assignment. -/
  assignments : List Stmt
  /-- The first value of the request. -/
  init : Expr

/-- The code for a body. -/
def bodyCode (request : Ty) : BodySource → Except Failure BodyCode
  | .none => .ok ⟨[], [], defaultOf request⟩
  | .whole => .ok ⟨[extractor [] "Json" "body" request], [], .named "body"⟩
  | .field _ ident codeType wrap => do
    let ty ← tyOfText codeType
    let ident ← Ident.ofField ident
    let value := if wrap then someOf (.named "body") else .named "body"
    return ⟨[extractor [] "Json" "body" ty], [assignment (requestField ident) value],
      defaultOf request⟩

/-- The type of what is returned, and its value. -/
def responseCode (reply : Ty) : ResponseSource → Except Failure (Ty × Expr)
  | .whole => .ok (reply, .named "reply")
  | .field _ ident codeType _ => do
    let ty ← tyOfText codeType
    let ident ← Ident.ofField ident
    return (ty, .field (.named "reply") ident.text)

/-- The names that belong to one binding. -/
structure BindingIdents where
  /-- The handler. -/
  handler : Ident
  /-- The structure for path parameters. -/
  pathParams : Ident
  /-- The structure for query parameters. -/
  queryParams : Ident

/-- The names of a binding. -/
def BindingIdents.make (service method : String) (index : Nat) : Except Failure BindingIdents := do
  let handler ← Ident.make (handlerName service method index)
  let pathParams ← Ident.make (pathParamsName service method index)
  let queryParams ← Ident.make (queryParamsName service method index)
  return { handler, pathParams, queryParams }

/-- A method with the names and types that generated code has for it. -/
structure MethodCode where
  /-- The name of the trait. -/
  service : Ident
  /-- The name of the method. -/
  name : Ident
  /-- The type of the request. -/
  request : Ty
  /-- The type of the reply. -/
  reply : Ty

/-- The bound of generated code that takes any implementation of a trait. -/
def serverBound (service : Ident) : Requirement := .of "S" (.of (.relative [service.text]))

/-- The type of the shared implementation. -/
def sharedServer : Ty := .path (.generic true ["std", "sync"] "Arc" [.type (.named "S")])

/-- An underscore alone is a name that cannot be accessed. -/
def memberFaults (ident : String) : List String :=
  if ident = "_" then ["expected identifier or integer"] else []

/-- A type that ends in a plus sign cannot be named as the type of a default value. -/
def defaultFaults (ty : Ty) : List String :=
  if ty.isOpen then ["expected identifier, found keyword `as`"] else []

/-- What the handler of a binding cannot be read back as, in the order of its code. -/
def handlerFaults (request : Ty) (path query : List Param) (b : Binding) : List String :=
  (match b.body with
   | .none => defaultFaults request
   | .whole => []
   | .field _ ident _ _ => defaultFaults request ++ memberFaults ident) ++
    path.flatMap (fun p => memberFaults p.field.ident) ++
    query.flatMap (fun p =>
      memberFaults p.field.ident ++ if b.omitEmpty then defaultFaults p.ty else []) ++
    (match b.response with
     | .field _ ident _ _ => memberFaults ident
     | .whole => [])

/-- What is generated for a part of a service. -/
structure Generated where
  /-- The items in order. -/
  items : List Item
  /-- What they cannot be read back as. -/
  faults : List String

/-- The items of several parts. -/
def Generated.join (parts : List Generated) : Generated :=
  ⟨parts.flatMap (·.items), parts.flatMap (·.faults)⟩

/-- What is generated for a binding: the structures of its parameters and its handler. -/
def generateBinding (names : BindingIdents) (method : MethodCode) (b : Binding) :
    Except Failure Generated := do
  let path ← b.pathParams.mapM Param.ofField
  let query ← b.queryParams.mapM Param.ofField
  let body ← bodyCode method.request b.body
  let (responseType, response) ← responseCode method.reply b.response
  let assignments :=
    body.assignments ++ path.map pathAssignment ++ query.flatMap (queryAssignment b.omitEmpty)
  let head : Signature :=
    { intro := "pub async fn "
      name := names.handler
      generics := ["S"]
      inputs :=
        extractor ["extract"] "State" "server" sharedServer ::
          (paramsInput "Path" "path" names.pathParams path ++
            paramsInput "Query" "query" names.queryParams query ++ body.inputs)
      output := resultOf (framed [] "Json" responseType) (.path (.relative ["S", "Error"]))
      requirements := [serverBound method.service] }
  -- the request is mutable only when something is assigned to its fields
  let request : Stmt :=
    .bind [] (.typed (.name false (!assignments.isEmpty) "request" none) method.request)
      (some body.init) none
  let reply : Stmt :=
    .let_ "reply"
      (.try_ (.await (.method (.named "server") method.name.text [] [.named "request"])))
  let result : Stmt :=
    .expr (.call (rootExpr ["core", "result", "Result", "Ok"])
      [.call (rootExpr ["axum", "Json"]) [response]]) false
  return {
    items :=
      paramsItem "Path" (derivable ["Debug", "Clone"]) b.route names.pathParams .required path ++
        paramsItem "Query" (derivable ["Debug", "Clone", "Default"]) b.route names.queryParams
          (if b.omitEmpty then .optional else .defaulted) query ++
        [head.item (b.doc.map Attr.docLine) (some (request :: (assignments ++ [reply, result])))]
    faults := handlerFaults method.request path query b }

/-! ## Services -/

/-- The method of the trait. -/
def traitMethod (m : MethodRoutes) (code : MethodCode) : Item :=
  let head : Signature :=
    { intro := "fn "
      name := code.name
      inputs := [.byRef, .of (.named "request") code.request]
      output := .impl
        [.of (.generic true ["core", "future"] "Future"
          [.assoc (.plain "Output") (resultOf code.reply (.path (.relative ["Self", "Error"])))]),
         .of (.relative ["Send"])] false }
  head.item (if m.comment = "" then [] else [.docLine m.comment]) none

/-- The method of the trait for a method of the schema, with what is generated for its bindings. -/
def generateMethod (service : ServiceRoutes) (server : Ident) (m : MethodRoutes) :
    Except Failure (Item × Generated) := do
  let request ← tyOfText m.request.path
  let reply ← tyOfText m.reply.path
  let name ← Ident.ofField (Text.snakeCase m.name)
  let code : MethodCode := { service := server, name, request, reply }
  let parts ← m.bindings.mapM fun b => do
    let names ← BindingIdents.make service.name m.name b.index
    generateBinding names code b
  return (traitMethod m code, .join parts)

/-- The constant that names a method. -/
def operationItem (package : String) (service : ServiceRoutes) (m : MethodRoutes) :
    Except Failure Item := do
  let name ← Ident.make (operationName service.name m.name)
  return .const [] name (.reference none false (.named "str"))
    (.literal (Text.literal (operationPath package service.name m.name)))

/-- The trait of a service. -/
def traitItem (service : ServiceRoutes) (name : Ident) (methods : List Item) : Item :=
  let comment :=
    if service.comment = "" then "Server API for the `" ++ service.fullName ++ "` service"
    else service.comment
  .trait [.docLine comment] "pub trait " name.text []
    [rootBound ["core", "marker", "Send"], rootBound ["core", "marker", "Sync"], .lifetime "static"] []
    (.type [.docLine "Error returned by every method, rendered as the HTTP response"] "type "
        "Error" [] [rootBound ["axum", "response", "IntoResponse"],
          rootBound ["core", "marker", "Send"]] none [] ::
      methods)

/-- A handler as an argument of the router. -/
def handlerExpr (name : String) : Expr :=
  .path (.path (.generic false [] name [.type (.named "S")]))

/-- The handlers of a mount, chained. -/
def Mount.chain (m : Mount) : Option Expr :=
  match m.handlers with
  | [] => none
  | h :: hs =>
    some (hs.foldl (fun chain h => .method chain h.verb.routingName [] [handlerExpr h.name])
      (.call (rootExpr ["axum", "routing", h.verb.routingName]) [handlerExpr h.name]))

/-- Adds a mount to the router. -/
def Mount.register (router : Expr) (m : Mount) : Expr :=
  .method router "route" [] (.literal (Text.literal m.route) :: m.chain.toList)

/-- The function that mounts the handlers of a service. -/
def registerItem (service : ServiceRoutes) (name server : Ident) : Item :=
  let router : Ty := .path (.root ["axum", "Router"])
  let routes :=
    service.mounts.foldl Mount.register (.call (rootExpr ["axum", "Router", "new"]) [])
  let head : Signature :=
    { intro := "pub fn "
      name
      generics := ["S"]
      inputs := [.of (.named "router") router, .of (.named "server") sharedServer]
      output := router
      requirements := [serverBound server] }
  head.item [.docLine ("Mount the HTTP bindings of `" ++ service.fullName ++ "` on `router`")]
    (some
      [.let_ "routes" (.method routes "with_state" [] [.named "server"]),
       .expr (.method (.named "router") "merge" [] [.named "routes"]) false])

/-- What is generated for a service. -/
def generateService (package : String) (service : ServiceRoutes) : Except Failure Generated := do
  let server ← Ident.make (traitName service.name)
  let register ← Ident.make (registerName service.name)
  let methods ← service.methods.mapM (generateMethod service server)
  -- the constants stand before the methods in the code, but what they lack is found after them
  let operations ← service.methods.mapM (operationItem package service)
  let handlers := Generated.join (methods.map (·.2))
  return { handlers with
    items := operations ++ traitItem service server (methods.map (·.1)) ::
      (handlers.items ++ [registerItem service register server]) }

/-! ## Files -/

/-- The items of a file, which have to be readable. -/
def Table.items (t : Table) : Except Failure (List Item) := do
  let parts ← t.services.mapM (generateService t.package)
  match (Generated.join parts).faults with
  | [] => return (Generated.join parts).items
  | text :: _ => .error (.fault (.template ("generated code does not parse: " ++ text)))

/-- The text of a file after its header. -/
def Table.render (header : String) (t : Table) : Except Failure String := do
  return header ++ (← Code.render (← t.items))

end ProtoRest.Route
