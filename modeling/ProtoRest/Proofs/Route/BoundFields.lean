import Mathlib.Tactic.SplitIfs
import ProtoRest.Proofs.Related
import ProtoRest.Proofs.Route.RuleBinding

/-! # Fields of bindings
A binding takes its parameters, its body and its response from fields of the messages of the method
(`takesFields_of_bindingOfRule`). -/

namespace ProtoRest.Route

open ProtoRest.Schema ProtoRest.Setting ProtoRest.Result ProtoRest.Text

variable {request reply : Message}

/-- A parameter stands for a field of the request that is no message. -/
def TakesParam (request : Message) (p : BoundField) : Prop :=
  ∃ f ∈ request.fields, isMessage f.kind = false ∧ p = .ofField f

/-- A body that is a field stands for one of the request. -/
def TakesBody (request : Message) : BodySource → Prop
  | .none | .whole => True
  | .field name ident codeType wrap => ∃ f ∈ request.fields, request.field? name = some f ∧
      f.name = name ∧ ident = snakeCase name ∧ (codeType, wrap) = bodyType f

/-- A response that is a field stands for one of the reply. -/
def TakesResponse (reply : Message) : ResponseSource → Prop
  | .whole => True
  | .field name ident codeType docType => ∃ f ∈ reply.fields, reply.field? name = some f ∧
      f.name = name ∧ ident = snakeCase name ∧ (codeType, docType) = responseType f

/-- A binding stands for fields of the messages. -/
structure TakesFields (request reply : Message) (b : Binding) : Prop where
  /-- Its path parameters. -/
  pathParams : ∀ p ∈ b.pathParams, TakesParam request p
  /-- Its query parameters. -/
  queryParams : ∀ p ∈ b.queryParams, TakesParam request p
  /-- Its body. -/
  body : TakesBody request b.body
  /-- Its response. -/
  response : TakesResponse reply b.response

/-- A field found under a name is a field of the message and has that name. -/
theorem field?_eq_some {m : Message} {name : String} {f : Field} (h : m.field? name = some f) :
    f ∈ m.fields ∧ f.name = name :=
  ⟨List.mem_of_find?_eq_some h, by simpa using List.find?_some h⟩

/-- A kind that fits into a query is no message. -/
theorem isMessage_of_fitsQuery {kind : FieldKind} (h : kind.fitsQuery = true) :
    isMessage kind = false := by
  cases kind with
  | scalar => rfl
  | enum => rfl
  | message => cases h

/-- The path parameters are the fields with their names, and these fit. -/
theorem pathParams_eq_ok {names : List String} {params : List BoundField}
    (h : pathParams request names = .ok params) :
    ∃ fields : List Field, fields.map (·.name) = names ∧ params = fields.map .ofField ∧
      ∀ f ∈ fields, f ∈ request.fields ∧ fitsPath f = true := by
  rw [pathParams, mapM_eq_ok_iff] at h
  induction h with
  | nil => exact ⟨[], rfl, rfl, by simp⟩
  | cons hname _ ih =>
    obtain ⟨fields, rfl, rfl, hfields⟩ := ih
    rw [pathParam] at hname
    split at hname
    · cases hname
    · next f hf =>
      split_ifs at hname with hfits
      obtain rfl := Except.ok.inj hname
      obtain ⟨hmem, rfl⟩ := field?_eq_some hf
      exact ⟨f :: fields, rfl, rfl, List.forall_mem_cons.mpr ⟨⟨hmem, hfits⟩, hfields⟩⟩

/-- A body is no field, or one that is neither in the path nor one alternative of a choice. -/
theorem bodySource_eq_ok {body : String} {params : List BoundField} {source : BodySource}
    (h : bodySource request body params = .ok source) :
    source.name? = none ∨
      ∃ f ∈ request.fields, request.field? f.name = some f ∧
        source = .field f.name (snakeCase f.name) (bodyType f).1 (bodyType f).2 ∧
        f.name ∉ params.map (·.name) ∧ f.oneof = none := by
  simp only [bodySource] at h
  split at h
  · obtain rfl := Except.ok.inj h
    exact .inl rfl
  · split at h
    · obtain rfl := Except.ok.inj h
      exact .inl rfl
    · split at h
      · cases h
      · next f hf =>
        -- the field is no parameter of the path and in no oneof, since both are refused
        split_ifs at h with hpath
        split at h
        · cases h
        · next honeof =>
          obtain rfl := Except.ok.inj h
          obtain ⟨hmem, hname⟩ := field?_eq_some hf
          refine .inr ⟨f, hmem, hname ▸ hf, rfl, ?_, honeof⟩
          simpa [hname] using hpath

/-- A body that is a field is one of the request, and neither in the path nor an alternative. -/
theorem exists_field_of_bodySource {body : String} {params : List BoundField} {source : BodySource}
    (h : bodySource request body params = .ok source) : ∀ name ∈ source.name?,
      ∃ f ∈ request.fields, f.name = name ∧ f.oneof = none ∧ name ∉ params.map (·.name) := by
  intro name hname
  obtain hnone | ⟨f, hf, -, rfl, hnot, honeof⟩ := bodySource_eq_ok h
  · rw [hnone] at hname
    cases hname
  · obtain rfl := Option.some.inj hname
    exact ⟨f, hf, rfl, honeof, hnot⟩

/-- A response is the reply, or a field of it that is no alternative of a choice. -/
theorem responseSource_eq_ok {responseBody : String} {source : ResponseSource}
    (h : responseSource reply responseBody = .ok source) :
    source = .whole ∨
      ∃ f ∈ reply.fields, reply.field? f.name = some f ∧
        source = .field f.name (snakeCase f.name) (responseType f).1 (responseType f).2 ∧
        f.oneof = none := by
  simp only [responseSource] at h
  split at h
  · exact .inl (Except.ok.inj h).symm
  · split at h
    · cases h
    · next f hf =>
      split at h
      · cases h
      · next honeof =>
        obtain rfl := Except.ok.inj h
        obtain ⟨hmem, hname⟩ := field?_eq_some hf
        exact .inr ⟨f, hmem, hname ▸ hf, rfl, honeof⟩

/-- The query parameters are the fields that fit and that are bound nowhere else, in declaration
order. -/
theorem queryParams_eq (request : Message) (params : List BoundField) (body : BodySource) :
    ∃ fields : List Field, fields.Sublist request.fields ∧
      queryParams request params body = fields.map .ofField ∧
      ∀ f, f ∈ fields ↔ f ∈ request.fields ∧ body ≠ .whole ∧ fitsQuery f = true ∧
        f.name ∉ params.map (·.name) ∧ f.name ∉ body.name? := by
  -- with the whole request as its body a binding has no query
  have hrest (hbody : body ≠ .whole) :
      queryParams request params body =
        ((request.fields.filter fun f =>
          !params.any (·.name == f.name) && body.name? != some f.name).filter fitsQuery).map
            .ofField := by
    cases body with
    | whole => exact absurd rfl hbody
    | none | field => rfl
  by_cases hbody : body = .whole
  · subst hbody
    exact ⟨[], List.nil_sublist _, rfl, by simp⟩
  · refine ⟨_, List.filter_sublist.trans List.filter_sublist, hrest hbody, fun f => ?_⟩
    simp only [List.mem_filter, Bool.and_eq_true, Bool.not_eq_true', List.any_eq_false, bne_iff_ne,
      beq_iff_eq, Option.mem_def, ne_eq, hbody, not_false_eq_true, true_and, List.mem_map,
      not_exists, not_and]
    tauto

/-- Path parameters stand for fields of the request that fit, also in a query. -/
theorem exists_field_of_pathParams {names : List String} {params : List BoundField}
    (h : pathParams request names = .ok params) :
    ∀ p ∈ params, ∃ f ∈ request.fields, fitsQuery f = true ∧ p = .ofField f := by
  obtain ⟨fields, -, rfl, hfields⟩ := pathParams_eq_ok h
  intro p hp
  obtain ⟨f, hf, rfl⟩ := List.mem_map.mp hp
  obtain ⟨hmem, hfits⟩ := hfields f hf
  rw [fitsPath, Bool.and_eq_true] at hfits
  refine ⟨f, hmem, ?_, rfl⟩
  rw [fitsQuery, hfits.1, FieldKind.fitsQuery_of_fitsPath hfits.2, Bool.and_self]

/-- Query parameters stand for fields of the request that fit. -/
theorem exists_field_of_mem_queryParams {params : List BoundField} {body : BodySource}
    {p : BoundField} (hp : p ∈ queryParams request params body) :
    ∃ f ∈ request.fields, fitsQuery f = true ∧ p = .ofField f := by
  obtain ⟨fields, -, heq, hfields⟩ := queryParams_eq request params body
  rw [heq] at hp
  obtain ⟨f, hf, rfl⟩ := List.mem_map.mp hp
  obtain ⟨hmem, -, hfits, -⟩ := (hfields f).mp hf
  exact ⟨f, hmem, hfits, rfl⟩

/-- A field that fits into a query is taken as a parameter. -/
theorem takesParam_of_fitsQuery {p : BoundField}
    (h : ∃ f ∈ request.fields, fitsQuery f = true ∧ p = .ofField f) : TakesParam request p := by
  obtain ⟨f, hmem, hfits, rfl⟩ := h
  rw [fitsQuery, Bool.and_eq_true] at hfits
  exact ⟨f, hmem, isMessage_of_fitsQuery hfits.2, rfl⟩

/-- The body of a bound rule stands for a field of the request, if for one at all. -/
theorem takesBody_of_bodySource {body : String} {params : List BoundField} {source : BodySource}
    (h : bodySource request body params = .ok source) : TakesBody request source := by
  obtain hname | ⟨f, hmem, hf, rfl, -, -⟩ := bodySource_eq_ok h
  · cases source with
    | none | whole => trivial
    | field => cases hname
  · exact ⟨f, hmem, hf, rfl, rfl, rfl⟩

/-- The response of a bound rule stands for a field of the reply, if for one at all. -/
theorem takesResponse_of_responseSource {responseBody : String} {source : ResponseSource}
    (h : responseSource reply responseBody = .ok source) : TakesResponse reply source := by
  obtain rfl | ⟨f, hmem, hf, rfl, -⟩ := responseSource_eq_ok h
  · trivial
  · exact ⟨f, hmem, hf, rfl, rfl, rfl⟩

/-- The binding of a rule stands for fields of the messages of its method. -/
theorem takesFields_of_bindingOfRule {settings : RouteSettings} {package : String}
    {service : Service} {method : Method} {index : Nat} {rule : HttpRule} {b : Binding}
    (h : bindingOfRule settings package service method index rule = .ok b) :
    TakesFields method.input method.output b := by
  obtain ⟨verb, path, template, params, body, response, -, -, hparams, hbody, hresponse, -, -, -, -,
    hpath, hb, hquery, hr⟩ := bindingOfRule_eq_ok h
  constructor
  · rw [hpath]
    exact fun p hp => takesParam_of_fitsQuery (exists_field_of_pathParams hparams p hp)
  · rw [hquery]
    exact fun p hp => takesParam_of_fitsQuery (exists_field_of_mem_queryParams hp)
  · rw [hb]
    exact takesBody_of_bodySource hbody
  · rw [hr]
    exact takesResponse_of_responseSource hresponse

end ProtoRest.Route
