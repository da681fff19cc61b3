import ProtoRest.Route.Binding
import ProtoRest.Text.Words

/-! # Names of generated items
The names that the code of a service has at the top of its file: one trait and one registering
function per service, one constant per method, and per binding a handler and up to two structures
for its parameters. Bindings after the first carry their number. -/

namespace ProtoRest.Route

open ProtoRest.Text

/-- The name of the trait of a service. -/
def traitName (service : String) : String := upperCamelCase service ++ "HttpServer"

/-- The name of the function that mounts the handlers of a service. -/
def registerName (service : String) : String := "register_" ++ snakeCase service ++ "_http_server"

/-- The name of the constant of a method. -/
def operationName (service method : String) : String :=
  "OPERATION_" ++ shoutyCase service ++ "_" ++ shoutyCase method

/-- The value of the constant of a method. -/
def operationPath (package service method : String) : String :=
  if package = "" then "/" ++ service ++ "/" ++ method
  else "/" ++ package ++ "." ++ service ++ "/" ++ method

/-- The name of the handler of a binding. -/
def handlerName (service method : String) (index : Nat) : String :=
  snakeCase service ++ "_" ++ snakeCase method ++ "_handler" ++
    (if index = 0 then "" else "_" ++ toString index)

/-- What the names of the structures of a binding start with. -/
def paramsStem (service method : String) (index : Nat) : String :=
  upperCamelCase service ++ upperCamelCase method ++ (if index = 0 then "" else toString index)

/-- The name of the structure for the path parameters of a binding. -/
def pathParamsName (service method : String) (index : Nat) : String :=
  paramsStem service method index ++ "PathParams"

/-- The name of the structure for the query parameters of a binding. -/
def queryParamsName (service method : String) (index : Nat) : String :=
  paramsStem service method index ++ "QueryParams"

end ProtoRest.Route
