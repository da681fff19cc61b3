import ProtoRest.Proofs.Result
import ProtoRest.Route.BindingOfRule

/-! # What the binding of a rule is made of
`bindingOfRule_eq_ok` takes a binding apart into the parts it was built from, and `ruleTarget` is the
part of it that decides about clashes: the verb and the route, which depend on the messages of the
method and on nothing else around the rule. -/

namespace ProtoRest.Route

open ProtoRest.Schema ProtoRest.Setting ProtoRest.Result

variable {settings : RouteSettings} {package : String} {service : Service} {method : Method}
  {index : Nat} {rule : HttpRule}

/-- A rule has a binding only when each of its parts can be built, and then the binding holds just
these parts. -/
theorem bindingOfRule_eq_ok {b : Binding}
    (h : bindingOfRule settings package service method index rule = .ok b) :
    ∃ verb path template params body response,
      targetOfPattern rule.pattern = .ok (verb, path) ∧
      Path.Template.parse path = .ok template ∧
      pathParams method.input template.parameters = .ok params ∧
      bodySource method.input rule.body params = .ok body ∧
      responseSource method.output rule.responseBody = .ok response ∧
      b.index = index ∧ b.verb = verb ∧ b.route = template.route ∧ b.docPath = template.docPath ∧
      b.pathParams = params ∧ b.body = body ∧
      b.queryParams = queryParams method.input params body ∧ b.response = response := by
  rw [bindingOfRule, bind_eq_ok_iff] at h
  obtain ⟨⟨verb, path⟩, htarget, h⟩ := h
  obtain ⟨template, htemplate, h⟩ := bind_eq_ok_iff.mp h
  obtain ⟨params, hparams, h⟩ := bind_eq_ok_iff.mp h
  obtain ⟨body, hbody, h⟩ := bind_eq_ok_iff.mp h
  obtain ⟨response, hresponse, h⟩ := bind_eq_ok_iff.mp h
  -- a bound rule passed every step, and holds the result of each
  obtain rfl := pure_eq_ok_iff.mp h
  exact ⟨verb, path, template, params, body, response, htarget, mapError_eq_ok_iff.mp htemplate,
    hparams, hbody, hresponse, rfl, rfl, rfl, rfl, rfl, rfl, rfl, rfl⟩

/-- A bound rule has the index it was bound at. -/
theorem index_of_bindingOfRule {b : Binding}
    (h : bindingOfRule settings package service method index rule = .ok b) : b.index = index := by
  obtain ⟨_, _, _, _, _, _, _, _, _, _, _, hindex, _⟩ := bindingOfRule_eq_ok h
  exact hindex

/-- The documentation is written last, from the other parts of the binding. -/
theorem doc_of_bindingOfRule {b : Binding}
    (h : bindingOfRule settings package service method index rule = .ok b) :
    b.doc = docLines package service method b := by
  rw [bindingOfRule, bind_eq_ok_iff] at h
  obtain ⟨⟨verb, path⟩, -, h⟩ := h
  obtain ⟨template, -, h⟩ := bind_eq_ok_iff.mp h
  obtain ⟨params, -, h⟩ := bind_eq_ok_iff.mp h
  obtain ⟨body, -, h⟩ := bind_eq_ok_iff.mp h
  obtain ⟨response, -, h⟩ := bind_eq_ok_iff.mp h
  obtain rfl := pure_eq_ok_iff.mp h
  rfl

/-- The verb and the route of a rule. -/
def ruleTarget (input output : Message) (rule : HttpRule) :
    Except BindingFault (Verb × String) := do
  let (verb, path) ← targetOfPattern rule.pattern
  let template ← (Path.Template.parse path).mapError (BindingFault.badPath path)
  let params ← pathParams input template.parameters
  let _ ← bodySource input rule.body params
  let _ ← responseSource output rule.responseBody
  return (verb, template.route)

/-- The verb and the route of a binding depend on the rule and on the messages of the method only. -/
theorem map_bindingOfRule (settings : RouteSettings) (package : String) (service : Service)
    (method : Method) (index : Nat) (rule : HttpRule) :
    (bindingOfRule settings package service method index rule).map (fun b => (b.verb, b.route)) =
      ruleTarget method.input method.output rule := by
  -- both sides run the same steps, and fail at the same one
  rw [ruleTarget, bindingOfRule]
  cases targetOfPattern rule.pattern with
  | error => rfl
  | ok target =>
    obtain ⟨verb, path⟩ := target
    cases htemplate : (Path.Template.parse path).mapError (BindingFault.badPath path) with
    | error => simp only [bind, Except.bind, htemplate, Except.map]
    | ok template =>
      simp only [bind, Except.bind, htemplate]
      cases pathParams method.input template.parameters with
      | error => rfl
      | ok params =>
        simp only
        cases bodySource method.input rule.body params with
        | error => rfl
        | ok body =>
          simp only
          cases responseSource method.output rule.responseBody <;> rfl

end ProtoRest.Route
