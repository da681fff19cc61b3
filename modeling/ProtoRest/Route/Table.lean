import ProtoRest.Fault.Collector
import ProtoRest.Route.BindingOfRule

/-! # The route table of a file
`Table.ofFile` builds the bindings of all rules of a file in declaration order. A rule is refused
when it has no binding or when its binding **clashes** with one that was accepted before: both
routes have one shape, and they differ or are for the same verb. All refusals are reported
together. -/

namespace ProtoRest.Route

/-! ## Shapes of routes
The shape of a route is the route without the names of its parameters. Two routes of one shape match
the same paths, so the router cannot keep them apart. -/

/-- The shape of the rest of a route, given whether a brace is open. -/
def shapeFrom (inside : Bool) : List Char → List Char
  | [] => []
  | c :: cs =>
    if c = '{' then c :: shapeFrom true cs
    else if c = '}' then c :: shapeFrom false cs
    else if inside then
      if c = '*' then c :: shapeFrom inside cs else shapeFrom inside cs
    else c :: shapeFrom inside cs

/-- A route without the names of its parameters. -/
def shape (route : String) : String := String.ofList (shapeFrom false route.toList)

/-! ## Tables -/

open ProtoRest.Schema ProtoRest.Setting

/-- A binding that was accepted, with the method that it belongs to. -/
structure Mounted where
  /-- The verb. -/
  verb : Verb
  /-- The route. -/
  route : String
  /-- The full name of the method. -/
  owner : String
  deriving DecidableEq, Repr

/-- Whether a verb and a route cannot stand beside others. -/
def clash (verb : Verb) (route : String) (otherVerb : Verb) (other : String) : Bool :=
  shape route == shape other && (route != other || verb == otherVerb)

/-- Two bindings clash exactly when they share a shape and differ in their routes or share the verb.
-/
theorem clash_eq_true_iff {verb other : Verb} {route otherRoute : String} :
    clash verb route other otherRoute = true ↔
      shape route = shape otherRoute ∧ (route ≠ otherRoute ∨ verb = other) := by
  simp [clash]

/-- The fault of a binding that clashes with an accepted one. -/
def clashFault (b : Binding) (m : Mounted) : BindingFault :=
  if m.route = b.route then .alreadyBound m.verb m.route m.owner
  else .conflicting b.route m.route m.owner

/-- What has been built so far. -/
structure Building where
  /-- The accepted bindings. -/
  mounted : List Mounted := []
  /-- The refusals. -/
  refused : Fault.Collector := {}
  deriving Repr

/-- Applies a function with a state to the elements of a list and keeps what it gives. -/
def collect {α β σ : Type} (f : σ → α → Option β × σ) (s : σ) : List α → List β × σ
  | [] => ([], s)
  | a :: as =>
    let first := f s a
    let rest := collect f first.2 as
    (first.1.toList ++ rest.1, rest.2)

@[simp] theorem collect_nil {α β σ : Type} (f : σ → α → Option β × σ) (s : σ) :
    collect f s [] = ([], s) := rfl

/-- Collecting begins with the step of the first entry and goes on from the state after it. -/
theorem collect_cons {α β σ : Type} (f : σ → α → Option β × σ) (s : σ) (a : α) (as : List α) :
    collect f s (a :: as) =
      ((f s a).1.toList ++ (collect f (f s a).2 as).1, (collect f (f s a).2 as).2) := rfl

/-- Builds one rule. -/
def buildRule (settings : RouteSettings) (file : File) (service : Service) (method : Method)
    (s : Building) (site : HttpRule × Nat) : Option Binding × Building :=
  let refuse (fault : BindingFault) : Option Binding × Building :=
    (none,
      { s with refused := s.refused.add (.schema file.name method.fullName fault.message) })
  match bindingOfRule settings file.package service method site.2 site.1 with
  | .error fault => refuse fault
  | .ok b =>
    -- what was refused is not mounted, so nothing after it clashes with it
    match s.mounted.find? fun m => clash b.verb b.route m.verb m.route with
    | some m => refuse (clashFault b m)
    | none => (some b, { s with mounted := s.mounted ++ [⟨b.verb, b.route, method.fullName⟩] })

/-- Builds the rules of a method. -/
def buildMethod (settings : RouteSettings) (file : File) (service : Service) (s : Building)
    (method : Method) : Option MethodRoutes × Building :=
  let built := collect (buildRule settings file service method) s method.rules.zipIdx
  let routes : MethodRoutes :=
    { name := method.name
      fullName := method.fullName
      comment := method.comment
      request := method.input.type
      reply := method.output.type
      bindings := built.1 }
  (if built.1 = [] then none else some routes, built.2)

/-- Builds the methods of a service. -/
def buildService (settings : RouteSettings) (file : File) (s : Building) (service : Service) :
    Option ServiceRoutes × Building :=
  let built := collect (buildMethod settings file service) s service.methods
  let routes : ServiceRoutes :=
    { name := service.name
      fullName := service.fullName
      comment := service.comment
      methods := built.1 }
  (if built.1 = [] then none else some routes, built.2)

/-- The route table of a file, or every refusal in it. -/
def Table.ofFile (settings : RouteSettings) (file : File) : Except Fault Table :=
  let built := collect (buildService settings file) {} file.services
  match built.2.refused.result with
  | .error fault => .error fault
  | .ok () => .ok { file := file.name, package := file.package, services := built.1 }

end ProtoRest.Route
