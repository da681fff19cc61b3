import Mathlib.Data.Option.Defs
import ProtoRest.Proofs.Route.Acceptance

/-! # Files under other settings
The settings are asked in two places of a binding: whether default values are skipped in the query,
and which line documents the authentication. Nothing else in a table depends on them, and neither do
the refusals (`settings_leave_routes_alone`), since clashes are decided by verbs and routes. Whether a
binding has an authentication line at all is up to its method and its service. -/

namespace ProtoRest.Route

open ProtoRest.Schema ProtoRest.Setting ProtoRest.Result

/-! ## The documentation around the authentication line -/

/-- The lines of the documentation before the one for authentication. -/
def leadLines (package : String) (service : Service) (method : Method) : List String :=
  ["@Summary " ++ method.name] ++
    (if method.comment = "" then [] else ["@Description " ++ method.comment]) ++
    ["@Tags " ++ package ++ "," ++ package ++ "." ++ service.name, "@Accept json", "@Produce json"]

/-- The lines of the documentation behind the one for authentication. -/
def detailLines (method : Method) (b : Binding) : List String :=
  b.pathParams.map (paramLine "path" "true") ++
    b.queryParams.map (paramLine "query" "false") ++
    (if b.verb.carriesBody then
      ["@Param request body " ++ method.input.type.name ++ " true \"request body\""] else []) ++
    [match b.response with
      | .whole => "@Success 200 \x7bobject\x7d " ++ method.output.type.name
      | .field _ _ _ docType => "@Success 200 " ++ docType] ++
    ["@Failure 400,401,403,500,default \x7bobject\x7d ErrorResponse",
      "@Router " ++ b.docPath ++ " [" ++ b.verb.routingName ++ "]"]

/-- The documentation of a binding holds its authentication line, if any, between lines that the
settings leave alone. -/
theorem docLines_eq (package : String) (service : Service) (method : Method) (b : Binding) :
    docLines package service method b =
      leadLines package service method ++ b.authLine.toList ++ detailLines method b := by
  have hassoc (front p q r s t : List String) :
      front ++ p ++ q ++ r ++ s ++ t = front ++ (p ++ q ++ r ++ s ++ t) := by
    simp only [List.append_assoc]
  exact hassoc (leadLines package service method ++ b.authLine.toList) _ _ _ _ _

/-- A method or its service asks for authentication, or the method has a line for it. -/
theorem isSome_authLine (settings : RouteSettings) (service : Service) (method : Method) :
    (authLine settings service method).isSome =
      (method.auth || service.auth || method.authLine.isSome) := by
  rw [authLine]
  cases hline : method.authLine with
  | none => cases method.auth || service.auth <;> rfl
  | some line =>
    rw [Option.isSome_some, Bool.or_true]
    cases (Option.map plainLine (some line)).filter (· ≠ "") <;> rfl

/-! ## One binding -/

/-- The binding with what other settings say in place of what its own did. -/
def Binding.under (settings : RouteSettings) (package : String) (service : Service) (method : Method)
    (b : Binding) : Binding :=
  let settled : Binding :=
    { b with
      omitEmpty := settings.omitEmptyFor b.docPath
      authLine := ProtoRest.Route.authLine settings service method }
  { settled with doc := docLines package service method settled }

/-- Two bindings that differ at most in what settings say. In the documentation the authentication
lines stand between the same other lines. -/
structure Binding.SameButSettings (a b : Binding) : Prop where
  /-- All but the two answers of the settings and the documentation is the same. -/
  same : { a with omitEmpty := b.omitEmpty, authLine := b.authLine, doc := b.doc } = b
  /-- The documentation differs in the authentication line. -/
  doc : ∃ front back, a.doc = front ++ a.authLine.toList ++ back ∧
    b.doc = front ++ b.authLine.toList ++ back

section

variable (settings other : RouteSettings) (package : String) (service : Service) (method : Method)
  (index : Nat) (rule : HttpRule)

/-- A rule has the same binding under other settings, with what these say, and the same fault. -/
theorem bindingOfRule_under :
    bindingOfRule other package service method index rule =
      (bindingOfRule settings package service method index rule).map
        (·.under other package service method) := by
  refine bind_eq_map_of_eq rfl fun target => ?_
  refine bind_eq_map_of_eq rfl fun template => ?_
  refine bind_eq_map_of_eq rfl fun params => ?_
  refine bind_eq_map_of_eq rfl fun body => ?_
  exact bind_eq_map_of_eq rfl fun response => rfl

variable {settings package service method index rule} {b : Binding}

/-- A binding taken to other settings is the same but for these. -/
theorem sameButSettings_under
    (h : bindingOfRule settings package service method index rule = .ok b) :
    b.SameButSettings (b.under other package service method) := by
  refine ⟨rfl, leadLines package service method, detailLines method b, ?_, ?_⟩
  · rw [doc_of_bindingOfRule h, docLines_eq]
  · exact docLines_eq package service method _

/-- The authentication line of a bound rule is that of the settings. -/
theorem authLine_of_bindingOfRule
    (h : bindingOfRule settings package service method index rule = .ok b) :
    b.authLine = authLine settings service method := by
  rw [bindingOfRule_under settings settings, map_eq_ok_iff] at h
  obtain ⟨b, -, rfl⟩ := h
  rfl

end

/-! ## Passes under other settings -/

/-- Two passes that take the same states give related values if their steps do. -/
theorem collect_rel {α β σ : Type} {f g : σ → α → Option β × σ} {R : β → β → Prop}
    (h : ∀ s a, Option.Rel R (f s a).1 (g s a).1 ∧ (f s a).2 = (g s a).2) (s : σ) (as : List α) :
    List.Forall₂ R (collect f s as).1 (collect g s as).1 ∧
      (collect f s as).2 = (collect g s as).2 := by
  induction as generalizing s with
  | nil => exact ⟨.nil, rfl⟩
  | cons a as ih =>
    obtain ⟨hfirst, hstate⟩ := h s a
    obtain ⟨hrest, hlast⟩ := ih (g s a).2
    rw [collect_cons, collect_cons, hstate]
    refine ⟨List.rel_append ?_ hrest, hlast⟩
    generalize (f s a).1 = b, (g s a).1 = b' at hfirst
    cases hfirst with
    | some hab => exact .cons hab .nil
    | none => exact .nil

/-- What is kept when parts are left is kept alike for parts that are related. -/
theorem rel_of_forall₂ {α β : Type} {R : α → α → Prop} {S : β → β → Prop} [DecidableEq α]
    {as bs : List α} (h : List.Forall₂ R as bs) {x y : β} (hxy : S x y) :
    Option.Rel S (if as = [] then none else some x) (if bs = [] then none else some y) := by
  cases h with
  | nil => exact .none
  | cons => exact .some hxy

/-- The routes of one method under two settings. -/
structure MethodRoutes.SameButSettings (a b : MethodRoutes) : Prop where
  /-- All but the bindings is the same. -/
  same : { a with bindings := [] } = { b with bindings := [] }
  /-- The bindings are the same but for the settings. -/
  bindings : List.Forall₂ Binding.SameButSettings a.bindings b.bindings

/-- The routes of one service under two settings. -/
structure ServiceRoutes.SameButSettings (a b : ServiceRoutes) : Prop where
  /-- All but the methods is the same. -/
  same : { a with methods := [] } = { b with methods := [] }
  /-- The methods are the same but for the settings. -/
  methods : List.Forall₂ MethodRoutes.SameButSettings a.methods b.methods

/-- The tables of one file under two settings. -/
structure Table.SameButSettings (a b : Table) : Prop where
  /-- All but the services is the same. -/
  same : { a with services := [] } = { b with services := [] }
  /-- The services are the same but for the settings. -/
  services : List.Forall₂ ServiceRoutes.SameButSettings a.services b.services

section

variable (settings other : RouteSettings) (file : File)

/-- One rule is accepted or refused alike under two settings. -/
theorem buildRule_rel (service : Service) (method : Method) (s : Building) (site : HttpRule × Nat) :
    Option.Rel Binding.SameButSettings (buildRule settings file service method s site).1
        (buildRule other file service method s site).1 ∧
      (buildRule settings file service method s site).2 =
        (buildRule other file service method s site).2 := by
  have hother := bindingOfRule_under settings other file.package service method site.2 site.1
  cases hb : bindingOfRule settings file.package service method site.2 site.1 with
  | error fault =>
    rw [hb] at hother
    simp only [buildRule, hb, hother, Except.map]
    exact ⟨.none, trivial⟩
  | ok b =>
    have hsame := sameButSettings_under other hb
    rw [hb] at hother
    -- the verb and the route are the same, so the same accepted binding is found
    have hfind : (s.mounted.find? fun m => clash (b.under other file.package service method).verb
        (b.under other file.package service method).route m.verb m.route) =
      s.mounted.find? fun m => clash b.verb b.route m.verb m.route := rfl
    simp only [buildRule, hb, hother, Except.map, hfind]
    cases s.mounted.find? fun m => clash b.verb b.route m.verb m.route with
    | some m => exact ⟨.none, rfl⟩
    | none => exact ⟨.some hsame, rfl⟩

/-- Under other settings a method is built to the same routes but for these, and leaves the same
building. -/
theorem buildMethod_rel (service : Service) (s : Building) (method : Method) :
    Option.Rel MethodRoutes.SameButSettings (buildMethod settings file service s method).1
        (buildMethod other file service s method).1 ∧
      (buildMethod settings file service s method).2 =
        (buildMethod other file service s method).2 := by
  obtain ⟨hbindings, hstate⟩ :=
    collect_rel (buildRule_rel settings other file service method) s method.rules.zipIdx
  exact ⟨rel_of_forall₂ hbindings ⟨rfl, hbindings⟩, hstate⟩

/-- Under other settings a service is built to the same routes but for these, and leaves the same
building. -/
theorem buildService_rel (s : Building) (service : Service) :
    Option.Rel ServiceRoutes.SameButSettings (buildService settings file s service).1
        (buildService other file s service).1 ∧
      (buildService settings file s service).2 = (buildService other file s service).2 := by
  obtain ⟨hmethods, hstate⟩ :=
    collect_rel (buildMethod_rel settings other file service) s service.methods
  exact ⟨rel_of_forall₂ hmethods ⟨rfl, hmethods⟩, hstate⟩

/-- The settings have no part in the refusals of a file. -/
theorem refusals_eq : refusals settings file = refusals other file :=
  congrArg (·.refused.faults)
    (collect_rel (buildService_rel settings other file) {} file.services).2

/-- What is built of a file under other settings is the same but for these. -/
theorem sameButSettings_built : (built settings file).SameButSettings (built other file) :=
  ⟨rfl, (collect_rel (buildService_rel settings other file) {} file.services).1⟩

/-- Whether callers of a site have to be authenticated: its method or its service says so, or the
method has a line for the documentation of it. -/
def Site.NeedsAuth (site : Site) : Prop :=
  site.method.auth = true ∨ site.method.authLine.isSome = true ∨ site.service.auth = true

/-- In an accepted file the bindings with an authentication line are those of the sites that need
authentication. -/
theorem forall₂_needsAuth (h : refusals settings file = []) :
    List.Forall₂ (fun site b => b.authLine.isSome = true ↔ site.NeedsAuth) (sites file)
      (built settings file).bindings := by
  refine (forall₂_bindings settings file h).imp fun site b hb => ?_
  rw [authLine_of_bindingOfRule hb, isSome_authLine, Bool.or_eq_true, Bool.or_eq_true,
    Site.NeedsAuth, or_assoc, or_comm (a := site.service.auth = true)]

/-! ## Main statement -/

/-- The settings do not decide which routes there are. A file is accepted under all settings or under
none, and refused with the same faults; two of its tables are the same but for the answers of the
settings, in each binding and in its documentation. In every table the bindings are those of the
sites, and a binding has an authentication line exactly when its site needs authentication. -/
theorem settings_leave_routes_alone :
    (∀ fault, Table.ofFile settings file = .error fault ↔ Table.ofFile other file = .error fault) ∧
    ((∃ table, Table.ofFile settings file = .ok table) ↔ ∃ table, Table.ofFile other file = .ok table) ∧
    (∀ table table', Table.ofFile settings file = .ok table → Table.ofFile other file = .ok table' →
      table.SameButSettings table' ∧
        List.Forall₂ (fun site b => b.authLine.isSome = true ↔ site.NeedsAuth) (sites file)
          table.bindings ∧
        List.Forall₂ (fun site b => b.authLine.isSome = true ↔ site.NeedsAuth) (sites file)
          table'.bindings) := by
  have hrefusals := refusals_eq settings other file
  refine ⟨fun fault => ?_, ?_, fun table table' h h' => ?_⟩
  · rw [ofFile_eq_error_iff, ofFile_eq_error_iff, hrefusals]
  · simp only [ofFile_eq_ok_iff, hrefusals, exists_and_left, exists_eq]
  · obtain ⟨hclean, rfl⟩ := (ofFile_eq_ok_iff settings file).mp h
    obtain ⟨hclean', rfl⟩ := (ofFile_eq_ok_iff other file).mp h'
    exact ⟨sameButSettings_built settings other file, forall₂_needsAuth settings file hclean,
      forall₂_needsAuth other file hclean'⟩

end

end ProtoRest.Route
