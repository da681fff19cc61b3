import Mathlib.Data.List.Nodup
import ProtoRest.Proofs.Code.Identifiers
import ProtoRest.Proofs.Path.ReadTemplates
import ProtoRest.Proofs.Route.BoundFields
import ProtoRest.Route.Registration
import ProtoRest.Route.Server

/-! # Parts of requests
Path, body and query of a binding divide the fields of a request among them
(`divides_of_bindingOfRule`), and its handler assigns each field of its share once
(`request_fields_are_assigned_once`). -/

namespace ProtoRest.Route

open ProtoRest.Code ProtoRest.Schema ProtoRest.Setting ProtoRest.Result ProtoRest.Text

/-! ## Shares of the request -/

/-- The names of the request fields that a binding reads from the body, the path and the query. -/
def Binding.boundNames (b : Binding) : List String :=
  b.body.name?.toList ++ (b.pathParams.map (·.name) ++ b.queryParams.map (·.name))

/-- Whether body, path and query of a binding divide the fields of a request among them. -/
structure Binding.Divides (b : Binding) (request : Message) : Prop where
  /-- The body is the request, nothing, or one of its fields that is no alternative of a choice. -/
  body : ∀ name ∈ b.body.name?, ∃ f ∈ request.fields, f.name = name ∧ f.oneof = none
  /-- Path parameters are fields that can be read from a path segment. -/
  path : ∃ fields : List Field, b.pathParams = fields.map .ofField ∧
    ∀ f ∈ fields, f ∈ request.fields ∧ fitsPath f = true
  /-- Query parameters are fields in declaration order, and none of them is an alternative of a
  choice, holds several values, or is a message or bytes. -/
  query : ∃ fields : List Field, fields.Sublist request.fields ∧
    b.queryParams = fields.map .ofField ∧
    ∀ f ∈ fields, f.oneof = none ∧ (f.label = .singular ∨ f.label = .optional) ∧
      isMessage f.kind = false ∧ f.kind ≠ .scalar .bytes
  /-- No field is bound twice. -/
  nodup : b.boundNames.Nodup
  /-- A body that is the request leaves nothing to the query. -/
  whole : b.body = .whole → b.queryParams = []
  /-- Any other body leaves to the query what fits and is not in the path. -/
  covers : b.body ≠ .whole → ∀ f ∈ request.fields, fitsQuery f = true → f.name ∈ b.boundNames

/-- The fields that fit into a query are single ones outside of oneofs, neither messages nor bytes.
-/
theorem fitsQuery_iff {f : Field} : fitsQuery f = true ↔ f.oneof = none ∧
    (f.label = .singular ∨ f.label = .optional) ∧ isMessage f.kind = false ∧
      f.kind ≠ .scalar .bytes := by
  rw [fitsQuery, Bool.and_eq_true, Bool.and_eq_true, and_assoc, Option.isNone_iff_eq_none]
  refine and_congr_right fun _ => and_congr ?_ ?_
  · cases f.label <;> simp [FieldLabel.isSingle]
  · rcases f.kind with (_ | _ | _ | _ | _ | _ | _ | _ | _) | _ | _ <;>
      simp [FieldKind.fitsQuery, isMessage]

/-- Bound fields have the names of their fields. -/
theorem map_name_ofField (fields : List Field) :
    (fields.map BoundField.ofField).map (·.name) = fields.map (·.name) := by
  rw [List.map_map]
  rfl

/-- Names that differ within each part, and from part to part, all differ. -/
theorem nodup_of_parts {body : Option String} {path query : List String} (hpath : path.Nodup)
    (hquery : query.Nodup) (hbody : ∀ name ∈ body, name ∉ path)
    (hrest : ∀ name ∈ query, name ∉ path ∧ name ∉ body) :
    (body.toList ++ (path ++ query)).Nodup := by
  have htail : (path ++ query).Nodup := by
    refine List.nodup_append.mpr ⟨hpath, hquery, ?_⟩
    rintro name hname _ hname' rfl
    exact (hrest name hname').1 hname
  cases body with
  | none => exact htail
  | some name =>
    rw [Option.toList_some, List.singleton_append, List.nodup_cons, List.mem_append, not_or]
    exact ⟨⟨hbody name rfl, fun hmem => (hrest name hmem).2 rfl⟩, htail⟩

section Rules

variable {settings : RouteSettings} {package : String} {service : Service} {method : Method}
  {index : Nat} {rule : HttpRule} {b : Binding}

/-- The binding of a rule divides a request whose fields have different names. -/
theorem divides_of_bindingOfRule (hnames : (method.input.fields.map (·.name)).Nodup)
    (h : bindingOfRule settings package service method index rule = .ok b) :
    b.Divides method.input := by
  obtain ⟨verb, path, template, params, body, response, -, htemplate, hparams, hbody, -, -, -, -, -,
    hb, rfl, hquery, -⟩ := bindingOfRule_eq_ok h
  subst hb
  obtain ⟨pathFields, hpathNames, hpath, hpathFields⟩ := pathParams_eq_ok hparams
  obtain ⟨queryFields, hsub, hqueryFields, hmem⟩ :=
    queryParams_eq method.input b.pathParams b.body
  rw [← hquery] at hqueryFields
  have hqueryNames : b.queryParams.map (·.name) = queryFields.map (·.name) := by
    rw [hqueryFields, map_name_ofField]
  have hbodyField := exists_field_of_bodySource hbody
  constructor
  case body =>
    intro name hname
    obtain ⟨f, hf, hfname, honeof, -⟩ := hbodyField name hname
    exact ⟨f, hf, hfname, honeof⟩
  case path => exact ⟨pathFields, hpath, hpathFields⟩
  case query =>
    exact ⟨queryFields, hsub, hqueryFields, fun f hf => fitsQuery_iff.mp ((hmem f).mp hf).2.2.1⟩
  case nodup =>
    refine nodup_of_parts ?_ ?_ (fun name hname => ?_) (fun name hname => ?_)
    · -- a template binds no name twice, and each name is looked up on its own
      rw [hpath, map_name_ofField, hpathNames]
      exact Path.nodup_parameters_of_parse htemplate
    · rw [hqueryNames]
      exact hnames.sublist (hsub.map _)
    · obtain ⟨f, -, -, -, hnot⟩ := hbodyField name hname
      exact hnot
    · rw [hqueryNames] at hname
      obtain ⟨f, hf, rfl⟩ := List.mem_map.mp hname
      exact ((hmem f).mp hf).2.2.2
  case whole =>
    -- beside a whole body no field is left for the query
    intro hwhole
    rw [hqueryFields, List.map_eq_nil_iff, List.eq_nil_iff_forall_not_mem]
    exact fun f hf => ((hmem f).mp hf).2.1 hwhole
  case covers =>
    -- a field that is neither in the body nor in the path is one of the query, if it fits
    intro hwhole f hf hfits
    rw [Binding.boundNames, List.mem_append, List.mem_append, hqueryNames, Option.mem_toList]
    by_cases hinBody : f.name ∈ b.body.name?
    · exact .inl hinBody
    by_cases hinPath : f.name ∈ b.pathParams.map (·.name)
    · exact .inr (.inl hinPath)
    exact .inr (.inr (List.mem_map_of_mem ((hmem f).mpr ⟨hf, hwhole, hfits, hinPath, hinBody⟩)))

/-- Every name that is bound is that of a field of the request. -/
theorem Binding.Divides.exists_field (h : b.Divides method.input) :
    ∀ name ∈ b.boundNames, ∃ f ∈ method.input.fields, f.name = name := by
  intro name hname
  rw [Binding.boundNames, List.mem_append, List.mem_append, Option.mem_toList] at hname
  obtain hname | hname | hname := hname
  · obtain ⟨f, hf, hfname, -⟩ := h.body name hname
    exact ⟨f, hf, hfname⟩
  · obtain ⟨fields, hpath, hfields⟩ := h.path
    rw [hpath, map_name_ofField] at hname
    obtain ⟨f, hf, hfname⟩ := List.mem_map.mp hname
    exact ⟨f, (hfields f hf).1, hfname⟩
  · obtain ⟨fields, hsub, hquery, -⟩ := h.query
    rw [hquery, map_name_ofField] at hname
    obtain ⟨f, hf, hfname⟩ := List.mem_map.mp hname
    exact ⟨f, hsub.mem hf, hfname⟩

end Rules

/-! ## Assignments of the handler -/

/-- Whether a name is assigned as a field of the request: it is its identifier in generated code. -/
def IsAssignedAs (name field : String) : Prop := Ident.ofField (snakeCase name) = .ok ⟨field⟩

/-- The assignments of path parameters assign the fields named after them, in order. -/
theorem filterMap_pathAssignments (params : List Param) :
    (params.map pathAssignment).filterMap assignedIn? = params.map (·.ident.text) := by
  rw [List.filterMap_map]
  exact congrFun List.filterMap_eq_map params

/-- A query parameter is assigned once, with a condition and without one. -/
theorem filterMap_queryAssignments (omitEmpty : Bool) (params : List Param) :
    (params.flatMap (queryAssignment omitEmpty)).filterMap assignedIn? =
      params.map (·.ident.text) := by
  have hone (p : Param) : (queryAssignment omitEmpty p).filterMap assignedIn? = [p.ident.text] := by
    cases omitEmpty <;> rfl
  rw [List.filterMap_flatMap, ← List.flatMap_pure_eq_map]
  exact List.flatMap_congr fun p _ => hone p

/-- Parameters have the identifiers of the fields that they stand for. -/
theorem forall₂_of_params {request : Message} {fields : List BoundField} {params : List Param}
    (h : fields.mapM Param.ofField = .ok params) (htakes : ∀ p ∈ fields, TakesParam request p) :
    List.Forall₂ IsAssignedAs (fields.map (·.name)) (params.map (·.ident.text)) := by
  rw [List.forall₂_map_left_iff, List.forall₂_map_right_iff]
  replace h := mapM_eq_ok_iff.mp h
  induction h with
  | nil => exact .nil
  | cons hparam _ ih =>
    rw [List.forall_mem_cons] at htakes
    refine .cons ?_ (ih htakes.2)
    obtain ⟨f, -, -, rfl⟩ := htakes.1
    obtain ⟨ident, hident, hparam⟩ := bind_eq_ok_iff.mp hparam
    obtain ⟨ty, -, hparam⟩ := bind_eq_ok_iff.mp hparam
    obtain rfl := pure_eq_ok_iff.mp hparam
    exact hident

/-- A body that is a field is assigned to it. -/
theorem forall₂_of_bodyCode {request : Message} {ty : Ty} {source : BodySource} {code : BodyCode}
    (h : bodyCode ty source = .ok code) (htakes : TakesBody request source) :
    List.Forall₂ IsAssignedAs source.name?.toList (code.assignments.filterMap assignedIn?) := by
  cases source with
  | none =>
    obtain rfl := Except.ok.inj h
    exact .nil
  | whole =>
    obtain rfl := Except.ok.inj h
    exact .nil
  | field name identText codeType wrap =>
    obtain ⟨f, -, -, -, rfl, -⟩ := htakes
    obtain ⟨fieldTy, -, h⟩ := bind_eq_ok_iff.mp h
    obtain ⟨ident, hident, h⟩ := bind_eq_ok_iff.mp h
    obtain rfl := pure_eq_ok_iff.mp h
    exact .cons hident .nil

/-- The handler of a binding assigns the fields that are bound, in order. -/
theorem assignedBy?_handler {request reply : Message} {b : Binding} {names : BindingIdents}
    {code : MethodCode} {g : Generated} (htakes : TakesFields request reply b)
    (hg : generateBinding names code b = .ok g) :
    ∃ handler fields, g.items.getLast? = some handler ∧ assignedBy? handler = some fields ∧
      List.Forall₂ IsAssignedAs b.boundNames fields := by
  rw [generateBinding, bind_eq_ok_iff] at hg
  obtain ⟨path, hpath, hg⟩ := hg
  obtain ⟨query, hquery, hg⟩ := bind_eq_ok_iff.mp hg
  obtain ⟨body, hbody, hg⟩ := bind_eq_ok_iff.mp hg
  obtain ⟨⟨responseType, response⟩, -, hg⟩ := bind_eq_ok_iff.mp hg
  obtain rfl := pure_eq_ok_iff.mp hg
  refine ⟨_, _, List.getLast?_concat, rfl, ?_⟩
  -- nothing is assigned before the assignments of the three parts, and nothing behind them
  rw [List.filterMap_cons_none rfl, List.filterMap_append, List.filterMap_append,
    List.filterMap_append, filterMap_pathAssignments, filterMap_queryAssignments,
    List.filterMap_cons_none rfl, List.filterMap_cons_none rfl, List.filterMap_nil, List.append_nil,
    List.append_assoc]
  exact List.rel_append (forall₂_of_bodyCode hbody htakes.body)
    (List.rel_append (forall₂_of_params hpath htakes.pathParams)
      (forall₂_of_params hquery htakes.queryParams))

/-- Names with different texts in snake case are assigned as different fields. -/
theorem nodup_of_isAssignedAs {names fields : List String} (hnames : (names.map snakeCase).Nodup)
    (h : List.Forall₂ IsAssignedAs names fields) : fields.Nodup := by
  refine pairwise_of_forall₂ ?_ h (List.pairwise_map.mp hnames)
  rintro name name' field _ hname hname' hne rfl
  exact hne (snakeCase_eq_of_ofField hname hname')

/-! ## Main statement -/

section Rules

variable {settings : RouteSettings} {package : String} {service : Service} {method : Method}
  {index : Nat} {rule : HttpRule} {b : Binding}

/-- When the fields of a request have different names in snake case, body, path and query of a binding
divide them, and the handler that is generated for the binding assigns the fields that are bound,
each once: body, path and query in this order. -/
theorem request_fields_are_assigned_once
    (hnames : (method.input.fields.map fun f => snakeCase f.name).Nodup)
    (h : bindingOfRule settings package service method index rule = .ok b) :
    b.Divides method.input ∧
    ∀ names code g, generateBinding names code b = .ok g →
      ∃ handler fields, g.items.getLast? = some handler ∧ assignedBy? handler = some fields ∧
        List.Forall₂ IsAssignedAs b.boundNames fields ∧ fields.Nodup := by
  have hfields : ((method.input.fields.map (·.name)).map snakeCase).Nodup := by
    rwa [List.map_map]
  have hdivides := divides_of_bindingOfRule (List.Nodup.of_map _ hfields) h
  refine ⟨hdivides, fun names code g hg => ?_⟩
  obtain ⟨handler, fields, hlast, hassigned, hall⟩ :=
    assignedBy?_handler (takesFields_of_bindingOfRule h) hg
  refine ⟨handler, fields, hlast, hassigned, hall, nodup_of_isAssignedAs ?_ hall⟩
  -- the names that are bound are different names of fields, so they stay different
  refine List.Nodup.map_on (fun name hname name' hname' heq => ?_) hdivides.nodup
  obtain ⟨f, hf, rfl⟩ := hdivides.exists_field name hname
  obtain ⟨f', hf', rfl⟩ := hdivides.exists_field name' hname'
  exact List.inj_on_of_nodup_map hfields (List.mem_map_of_mem hf) (List.mem_map_of_mem hf') heq

end Rules

/-- A method whose request has fields for the path, the body and the query, and one for none. -/
def moveShelf : Method where
  name := "Move"
  fullName := "shelves.v1.Shelves.Move"
  comment := ""
  input :=
    ⟨⟨"shelves.v1.Move", "Move", "Move"⟩,
      [⟨"id", 1, .scalar .string, .singular, none⟩,
        ⟨"type", 2, .scalar .int32, .optional, none⟩,
        ⟨"shelf", 3, .message ⟨"shelves.v1.Shelf", "Shelf", "Shelf"⟩, .singular, none⟩,
        ⟨"tags", 4, .scalar .string, .repeated, none⟩]⟩
  output := ⟨⟨"shelves.v1.Shelf", "Shelf", "Shelf"⟩, []⟩
  rule := none
  auth := false
  authLine := none
  clientStreaming := false
  serverStreaming := false

/-- Three fields are bound and assigned, one of them under an escaped name. -/
theorem parts_of_moveShelf :
    ∃ b g handler, bindingOfRule {} "shelves.v1" ⟨"Shelves", "shelves.v1.Shelves", "", false, []⟩
        moveShelf 0 (.mk "" (some (.post "/shelves/{id}")) "shelf" "" []) = .ok b ∧
      b.Divides moveShelf.input ∧ b.boundNames = ["shelf", "id", "type"] ∧
      generateBinding ⟨⟨"move"⟩, ⟨"Path"⟩, ⟨"Query"⟩⟩
        ⟨⟨"Shelves"⟩, ⟨"move"⟩, .named "Move", .named "Shelf"⟩ b = .ok g ∧
      g.items.getLast? = some handler ∧ assignedBy? handler = some ["shelf", "id", "r#type"] := by
  have hrun : ((bindingOfRule {} "shelves.v1" ⟨"Shelves", "shelves.v1.Shelves", "", false, []⟩
      moveShelf 0 (.mk "" (some (.post "/shelves/{id}")) "shelf" "" [])).toOption.bind fun b =>
        (generateBinding ⟨⟨"move"⟩, ⟨"Path"⟩, ⟨"Query"⟩⟩
          ⟨⟨"Shelves"⟩, ⟨"move"⟩, .named "Move", .named "Shelf"⟩ b).toOption.map fun g =>
            (b.boundNames, g.items.getLast?.bind assignedBy?)) =
      some (["shelf", "id", "type"], some ["shelf", "id", "r#type"]) := by
    decide +kernel
  obtain ⟨b, hb, hrun⟩ := Option.bind_eq_some_iff.mp hrun
  obtain ⟨g, hg, hrun⟩ := Option.map_eq_some_iff.mp hrun
  obtain ⟨hbound, hassigned⟩ := Prod.mk.inj hrun
  rw [toOption_eq_some_iff] at hb hg
  -- the identifiers of the fields differ, which is all the general statement asks for
  have hnames : (moveShelf.input.fields.map fun f => snakeCase f.name).Nodup := by decide +kernel
  obtain ⟨hdivides, hassigns⟩ := request_fields_are_assigned_once hnames hb
  obtain ⟨handler, _, hlast, -⟩ := hassigns _ _ g hg
  rw [hlast, Option.bind_some] at hassigned
  exact ⟨b, g, handler, hb, hdivides, hbound, hg, hlast, hassigned⟩

end ProtoRest.Route
