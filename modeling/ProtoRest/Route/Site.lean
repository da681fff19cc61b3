import ProtoRest.Route.Table

/-! # Sites of rules
A **site** is a rule at its place in a file: the service, the method and the position among the
rules of the method. `sites` lists the sites of a file in declaration order, and two of them are
`AtOdds` when both have bindings that clash. -/

namespace ProtoRest.Route

open ProtoRest.Schema ProtoRest.Setting

/-- A rule at its place in a file. -/
structure Site where
  /-- The service. -/
  service : Service
  /-- The method. -/
  method : Method
  /-- The position among the rules of the method. -/
  index : Nat
  /-- The rule. -/
  rule : HttpRule
  deriving Repr

/-- The sites of a method. -/
def sitesOfMethod (service : Service) (method : Method) : List Site :=
  method.rules.zipIdx.map fun r => ⟨service, method, r.2, r.1⟩

/-- The sites of a file in declaration order. -/
def sites (file : File) : List Site :=
  file.services.flatMap fun service => service.methods.flatMap (sitesOfMethod service)

/-- The binding of a site. -/
def Site.binding (settings : RouteSettings) (package : String) (site : Site) :
    Except BindingFault Binding :=
  bindingOfRule settings package site.service site.method site.index site.rule

/-- Whether two sites have bindings that clash: their routes have one shape, and they differ or are
for the same verb. -/
def Site.AtOdds (settings : RouteSettings) (package : String) (a b : Site) : Prop :=
  ∃ x y, a.binding settings package = .ok x ∧ b.binding settings package = .ok y ∧
    shape x.route = shape y.route ∧ (x.route ≠ y.route ∨ x.verb = y.verb)

/-- A clash is mutual. -/
theorem Site.AtOdds.symm {settings : RouteSettings} {package : String} {a b : Site}
    (h : a.AtOdds settings package b) : b.AtOdds settings package a := by
  obtain ⟨x, y, hx, hy, hshape, hroute⟩ := h
  exact ⟨y, x, hy, hx, hshape.symm, hroute.imp Ne.symm Eq.symm⟩

end ProtoRest.Route
