import ProtoRest.Code.Syntax

/-! # Registrations and assignments
What the code of a service does, read off its syntax: `registrations?` follows the calls that add a
route to a router, `answers?` those that add a handler to a route, and `assignedBy?` lists the fields
of the request that the statements of a handler assign, in order. -/

namespace ProtoRest.Route

open ProtoRest.Code

/-! ## Registrations -/

/-- A route that a router has, with its handlers. -/
structure Registration where
  /-- The route as a literal. -/
  route : String
  /-- The functions that handlers are given to, each with the name of the handler, in order. -/
  answers : List (String × String)
  deriving DecidableEq, Repr

/-- The name of a function that is mentioned with its type arguments. -/
def functionName? : Expr → Option String
  | .path (.path (.mk false [.angle name _])) => some name
  | _ => none

/-- The handlers of a route: the first is given to a function of the framework and each further one
to a method of what comes before it. -/
def answers? : Expr → Option (List (String × String))
  | .call (.path (.path (.mk true [.plain "axum", .plain "routing", .plain verb]))) [handler] => do
    return [(verb, ← functionName? handler)]
  | .method chain verb [] [handler] => do
    return (← answers? chain) ++ [(verb, ← functionName? handler)]
  | _ => none

/-- The routes that are added to a new router. -/
def registrations? : Expr → Option (List Registration)
  | .call (.path (.path (.mk true [.plain "axum", .plain "Router", .plain "new"]))) [] => some []
  | .method router "route" [] [.literal route, chain] => do
    return (← registrations? router) ++ [⟨route, ← answers? chain⟩]
  | _ => none

/-- The routes that a function adds to a new router before it merges it into the router it is
given. -/
def mountedBy? : Item → Option (List Registration)
  | .fn _ _ _ _ _ _ _ (some (.block none _
      [.bind [] (.name false false "routes" none) (some (.method routes "with_state" [] _)) none,
        .expr (.method _ "merge" [] _) false])) => registrations? routes
  | _ => none

/-! ## Assignments -/

/-- The field of the request that an expression assigns, also when it does so on conditions. -/
def assignedField? : Expr → Option String
  | .assign (.field (.path (.path (.mk false [.plain "request"]))) field) _ => some field
  | .ite _ [.expr inner _] none => assignedField? inner
  | _ => none

/-- The field of the request that a statement assigns. -/
def assignedIn? : Stmt → Option String
  | .expr value _ => assignedField? value
  | _ => none

/-- The fields of the request that a function assigns. -/
def assignedBy? : Item → Option (List String)
  | .fn _ _ _ _ _ _ _ (some (.block none _ body)) => some (body.filterMap assignedIn?)
  | _ => none

end ProtoRest.Route
