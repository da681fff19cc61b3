import Mathlib.Data.List.Perm.Basic
import ProtoRest.Code.ItemName
import ProtoRest.Proofs.Route.Acceptance
import ProtoRest.Proofs.Route.EqualNames
import ProtoRest.Route.Server

/-! # Distinct names of items
When the items that are generated for a file have distinct names. `names_items` lists the names,
`perm_valueNames` and `perm_typeNames` sort them by kind, and `item_names_are_distinct_iff` says that
only items of one kind can share a name, and which of them do. -/

namespace ProtoRest.Route

open ProtoRest.Code ProtoRest.Schema ProtoRest.Setting ProtoRest.Result ProtoRest.Text

/-! ## The names that are generated -/

/-- The names of items among values. -/
def valueNames (items : List Item) : List String := items.filterMap Item.valueName?

/-- The names of items among types. -/
def typeNames (items : List Item) : List String := items.filterMap Item.typeName?

/-- The names of values among items are those of the items one after the other. -/
theorem valueNames_append (items items' : List Item) :
    valueNames (items ++ items') = valueNames items ++ valueNames items' := List.filterMap_append

/-- The names of types among items are those of the items one after the other. -/
theorem typeNames_append (items items' : List Item) :
    typeNames (items ++ items') = typeNames items ++ typeNames items' := List.filterMap_append

/-- The methods of a table with their services. -/
def Table.places (t : Table) : List (ServiceRoutes × MethodRoutes) :=
  t.services.flatMap fun s => s.methods.map (s, ·)

/-- Whether a binding has path parameters. -/
def Binding.hasPath (b : Binding) : Bool := !b.pathParams.isEmpty

/-- Whether a binding has query parameters. -/
def Binding.hasQuery (b : Binding) : Bool := !b.queryParams.isEmpty

/-- The names of the handlers of a method. -/
def handlerNames (p : ServiceRoutes × MethodRoutes) : List String :=
  p.2.bindings.map fun b => handlerName p.1.name p.2.name b.index

/-- The names of the structures of a method, binding by binding. -/
def paramsNames (p : ServiceRoutes × MethodRoutes) : List String :=
  p.2.bindings.flatMap fun b =>
    (if b.hasPath then [pathParamsName p.1.name p.2.name b.index] else []) ++
      if b.hasQuery then [queryParamsName p.1.name p.2.name b.index] else []

/-- An identifier has the text that it was made of. -/
theorem text_of_make {text : String} {ident : Ident} (h : Ident.make text = .ok ident) :
    ident.text = text := by
  rw [Ident.make] at h
  split_ifs at h
  obtain rfl := Except.ok.inj h
  rfl

/-- The identifiers of a binding are its handler and its two structures. -/
theorem text_of_bindingIdents {service method : String} {index : Nat} {names : BindingIdents}
    (h : BindingIdents.make service method index = .ok names) :
    names.handler.text = handlerName service method index ∧
      names.pathParams.text = pathParamsName service method index ∧
      names.queryParams.text = queryParamsName service method index := by
  rw [BindingIdents.make, bind_eq_ok_iff] at h
  obtain ⟨handler, hhandler, h⟩ := h
  obtain ⟨path, hpath, h⟩ := bind_eq_ok_iff.mp h
  obtain ⟨query, hquery, h⟩ := bind_eq_ok_iff.mp h
  obtain rfl := pure_eq_ok_iff.mp h
  exact ⟨text_of_make hhandler, text_of_make hpath, text_of_make hquery⟩

/-- The structure of parameters is one type, where there are parameters. -/
theorem names_paramsItem (kind : String) (derived : List PlainPath) (route : String) (name : Ident)
    (presence : Presence) (params : List Param) :
    valueNames (paramsItem kind derived route name presence params) = [] ∧
      typeNames (paramsItem kind derived route name presence params) =
        if params.isEmpty then [] else [name.text] := by
  rw [paramsItem]
  split <;> exact ⟨rfl, rfl⟩

/-- The items of a binding are one function and up to two structures. -/
theorem names_generateBinding {names : BindingIdents} {method : MethodCode} {b : Binding}
    {g : Generated} (h : generateBinding names method b = .ok g) :
    valueNames g.items = [names.handler.text] ∧
      typeNames g.items =
        (if b.hasPath then [names.pathParams.text] else []) ++
          if b.hasQuery then [names.queryParams.text] else [] := by
  rw [generateBinding, bind_eq_ok_iff] at h
  obtain ⟨path, hpath, h⟩ := h
  obtain ⟨query, hquery, h⟩ := bind_eq_ok_iff.mp h
  obtain ⟨body, -, h⟩ := bind_eq_ok_iff.mp h
  obtain ⟨⟨responseType, response⟩, -, h⟩ := bind_eq_ok_iff.mp h
  obtain rfl := pure_eq_ok_iff.mp h
  -- each field becomes one parameter, so the structures are left out in the same cases
  have hisEmpty {fields : List BoundField} {params : List Param}
      (h : fields.mapM Param.ofField = .ok params) : params.isEmpty = fields.isEmpty := by
    have hlength := (mapM_eq_ok_iff.mp h).length_eq
    rw [Bool.eq_iff_iff, List.isEmpty_iff_length_eq_zero, List.isEmpty_iff_length_eq_zero, hlength]
  constructor
  · rw [valueNames_append, valueNames_append, (names_paramsItem ..).1, (names_paramsItem ..).1]
    rfl
  · rw [typeNames_append, typeNames_append, (names_paramsItem ..).2, (names_paramsItem ..).2,
      hisEmpty hpath, hisEmpty hquery, Binding.hasPath, Binding.hasQuery]
    cases b.pathParams.isEmpty <;> cases b.queryParams.isEmpty <;> rfl

/-- The items of a method. -/
theorem names_generateMethod {s : ServiceRoutes} {server : Ident} {m : MethodRoutes}
    {code : Item × Generated} (h : generateMethod s server m = .ok code) :
    valueNames code.2.items = handlerNames (s, m) ∧ typeNames code.2.items = paramsNames (s, m) := by
  rw [generateMethod, bind_eq_ok_iff] at h
  obtain ⟨request, -, h⟩ := h
  obtain ⟨reply, -, h⟩ := bind_eq_ok_iff.mp h
  obtain ⟨name, -, h⟩ := bind_eq_ok_iff.mp h
  obtain ⟨parts, hparts, h⟩ := bind_eq_ok_iff.mp h
  obtain rfl := pure_eq_ok_iff.mp h
  -- each binding gives one handler and its structs, under the names of its identifiers
  have hbindings := (mapM_eq_ok_iff.mp hparts).imp fun b g hg => by
    obtain ⟨names, hnames, hg⟩ := bind_eq_ok_iff.mp hg
    obtain ⟨hhandler, hpath, hquery⟩ := text_of_bindingIdents hnames
    have hitems := names_generateBinding hg
    rw [hhandler, hpath, hquery] at hitems
    exact hitems
  constructor
  · rw [valueNames, Generated.join, List.filterMap_flatMap, handlerNames, ← List.flatMap_pure_eq_map]
    exact flatMap_eq_of_forall₂ (hbindings.imp fun _ _ h => h.1)
  · rw [typeNames, Generated.join, List.filterMap_flatMap]
    exact flatMap_eq_of_forall₂ (hbindings.imp fun _ _ h => h.2)

/-- The constant of a method is one value. -/
theorem names_operationItem {package : String} {s : ServiceRoutes} {m : MethodRoutes} {item : Item}
    (h : operationItem package s m = .ok item) :
    item.valueName? = some (operationName s.name m.name) ∧ item.typeName? = none := by
  rw [operationItem, bind_eq_ok_iff] at h
  obtain ⟨name, hname, h⟩ := h
  obtain rfl := pure_eq_ok_iff.mp h
  exact ⟨congrArg some (text_of_make hname), rfl⟩

/-- The items of a service: its constants, its trait, the items of its methods and the function that
registers its handlers. -/
theorem names_generateService {package : String} {s : ServiceRoutes} {g : Generated}
    (h : generateService package s = .ok g) :
    valueNames g.items = s.methods.map (fun m => operationName s.name m.name) ++
        (s.methods.flatMap fun m => handlerNames (s, m)) ++ [registerName s.name] ∧
      typeNames g.items = traitName s.name :: s.methods.flatMap fun m => paramsNames (s, m) := by
  rw [generateService, bind_eq_ok_iff] at h
  obtain ⟨server, hserver, h⟩ := h
  obtain ⟨register, hregister, h⟩ := bind_eq_ok_iff.mp h
  obtain ⟨methods, hmethods, h⟩ := bind_eq_ok_iff.mp h
  obtain ⟨operations, hoperations, h⟩ := bind_eq_ok_iff.mp h
  obtain rfl := pure_eq_ok_iff.mp h
  have hoperations := (mapM_eq_ok_iff.mp hoperations).imp fun _ _ h => names_operationItem h
  have hmethods := (mapM_eq_ok_iff.mp hmethods).imp fun _ _ h => names_generateMethod h
  -- functions and constants are values; traits and structures are types
  constructor
  · have hconstants : valueNames operations = s.methods.map fun m => operationName s.name m.name := by
      rw [valueNames, List.filterMap_eq_flatMap_toList, ← List.flatMap_pure_eq_map]
      exact flatMap_eq_of_forall₂ (hoperations.imp fun _ _ h => by rw [h.1]; rfl)
    have hhandlers : valueNames (Generated.join (methods.map (·.2))).items =
        s.methods.flatMap fun m => handlerNames (s, m) := by
      rw [valueNames, Generated.join, List.filterMap_flatMap, List.flatMap_map]
      exact flatMap_eq_of_forall₂ (hmethods.imp fun _ _ h => h.1)
    have hregister : valueNames [registerItem s register server] = [registerName s.name] :=
      congrArg (fun name => [name]) (text_of_make hregister)
    have htrait (items : List Item) :
        valueNames (traitItem s server (methods.map (·.1)) :: items) = valueNames items := rfl
    rw [valueNames_append, htrait, valueNames_append, hconstants, hhandlers, hregister,
      List.append_assoc]
  · have hconstants : typeNames operations = [] := by
      rw [typeNames, List.filterMap_eq_nil_iff]
      intro item hitem
      obtain ⟨_, -, h⟩ := exists_left_of_forall₂ hoperations item hitem
      exact h.2
    have hhandlers : typeNames (Generated.join (methods.map (·.2))).items =
        s.methods.flatMap fun m => paramsNames (s, m) := by
      rw [typeNames, Generated.join, List.filterMap_flatMap, List.flatMap_map]
      exact flatMap_eq_of_forall₂ (hmethods.imp fun _ _ h => h.2)
    have htrait (items : List Item) : typeNames (traitItem s server (methods.map (·.1)) :: items) =
        traitName s.name :: typeNames items := by
      rw [← text_of_make hserver]
      rfl
    have hregister : typeNames [registerItem s register server] = [] := rfl
    rw [typeNames_append, htrait, typeNames_append, hconstants, hhandlers, hregister,
      List.append_nil, List.nil_append]

/-- The items of a file are those of its services. -/
theorem names_items {table : Table} {items : List Item} (h : table.items = .ok items) :
    valueNames items = (table.services.flatMap fun s =>
        s.methods.map (fun m => operationName s.name m.name) ++
          (s.methods.flatMap fun m => handlerNames (s, m)) ++ [registerName s.name]) ∧
      typeNames items = table.services.flatMap fun s =>
        traitName s.name :: s.methods.flatMap fun m => paramsNames (s, m) := by
  rw [Table.items, bind_eq_ok_iff] at h
  obtain ⟨parts, hparts, h⟩ := h
  split at h
  · obtain rfl := pure_eq_ok_iff.mp h
    have hservices := (mapM_eq_ok_iff.mp hparts).imp fun _ _ h => names_generateService h
    rw [valueNames, typeNames, Generated.join, List.filterMap_flatMap, List.filterMap_flatMap]
    exact ⟨flatMap_eq_of_forall₂ (hservices.imp fun _ _ h => h.1),
      flatMap_eq_of_forall₂ (hservices.imp fun _ _ h => h.2)⟩
  · cases h

/-! ## Names by kind -/

section Places

variable (table : Table) {α : Type}

/-- To go through the places is to go through the methods of each service. -/
theorem map_places (f : ServiceRoutes × MethodRoutes → α) :
    table.places.map f = table.services.flatMap fun s => s.methods.map fun m => f (s, m) := by
  rw [Table.places, List.map_flatMap]
  simp only [List.map_map, Function.comp_def]

/-- To go through the lists of the places is to go through those of the methods of each service. -/
theorem flatMap_places (f : ServiceRoutes × MethodRoutes → List α) :
    table.places.flatMap f = table.services.flatMap fun s => s.methods.flatMap fun m => f (s, m) := by
  rw [Table.places, List.flatMap_assoc]
  simp only [List.flatMap_map]

end Places

/-- The names of the structures of a method for one kind of parameters. -/
def structNames (has : Binding → Bool) (ending : String) (p : ServiceRoutes × MethodRoutes) :
    List String :=
  (p.2.bindings.filter has).map fun b => paramsStem p.1.name p.2.name b.index ++ ending

/-- The structures of one kind are named for the bindings that have the parameters. -/
theorem structNames_eq_flatMap (has : Binding → Bool) (ending : String)
    (p : ServiceRoutes × MethodRoutes) :
    structNames has ending p = p.2.bindings.flatMap fun b =>
      if has b then [paramsStem p.1.name p.2.name b.index ++ ending] else [] := by
  rw [structNames]
  induction p.2.bindings with
  | nil => rfl
  | cons b bindings ih =>
    rw [List.flatMap_cons, ← ih]
    cases hb : has b with
    | true => rw [List.filter_cons_of_pos hb]; rfl
    | false => rw [List.filter_cons_of_neg (by simp [hb])]; rfl

/-- The structures of a method are those for the path and those for the query. -/
theorem perm_paramsNames (p : ServiceRoutes × MethodRoutes) :
    (paramsNames p).Perm
      (structNames Binding.hasPath "PathParams" p ++ structNames Binding.hasQuery "QueryParams" p) := by
  rw [structNames_eq_flatMap, structNames_eq_flatMap]
  exact (List.flatMap_append_perm _ _ _).symm

/-- The names of constants, those of handlers and those of registering functions. -/
def Table.valueKinds (t : Table) : List (List String) :=
  [t.places.map fun p => operationName p.1.name p.2.name, t.places.flatMap handlerNames,
    t.services.map fun s => registerName s.name]

/-- The names of traits, and those of structures for parameters from the path and from the query. -/
def Table.typeKinds (t : Table) : List (List String) :=
  [t.services.map fun s => traitName s.name,
    t.places.flatMap (structNames Binding.hasPath "PathParams"),
    t.places.flatMap (structNames Binding.hasQuery "QueryParams")]

/-- The name of a handler is made of a service, a method and an index. -/
theorem exists_handler_of_mem {places : List (ServiceRoutes × MethodRoutes)} {name : String}
    (h : name ∈ places.flatMap handlerNames) : ∃ s m i, name = handlerName s m i := by
  obtain ⟨p, -, h⟩ := List.mem_flatMap.mp h
  obtain ⟨b, -, rfl⟩ := List.mem_map.mp h
  exact ⟨_, _, _, rfl⟩

/-- The name of a structure is a stem with the ending of its kind. -/
theorem exists_struct_of_mem {places : List (ServiceRoutes × MethodRoutes)} {has : Binding → Bool}
    {ending name : String} (h : name ∈ places.flatMap (structNames has ending)) :
    ∃ s m i, name = paramsStem s m i ++ ending := by
  obtain ⟨p, -, h⟩ := List.mem_flatMap.mp h
  obtain ⟨b, -, rfl⟩ := List.mem_map.mp h
  exact ⟨_, _, _, rfl⟩

/-- A constant, a handler and a registering function never share a name. -/
theorem disjoint_valueKinds (t : Table) : t.valueKinds.Pairwise List.Disjoint := by
  simp only [Table.valueKinds, List.pairwise_cons, List.forall_mem_cons, List.not_mem_nil,
    List.Pairwise.nil, false_imp_iff, implies_true, and_true]
  refine ⟨⟨fun name hconstant hhandler => ?_, fun name hconstant hregister => ?_⟩,
    fun name hhandler hregister => ?_⟩
  · obtain ⟨p, -, rfl⟩ := List.mem_map.mp hconstant
    obtain ⟨_, _, _, hname⟩ := exists_handler_of_mem hhandler
    exact operationName_ne_handlerName hname
  · obtain ⟨p, -, rfl⟩ := List.mem_map.mp hconstant
    obtain ⟨s, -, hname⟩ := List.mem_map.mp hregister
    exact operationName_ne_registerName hname.symm
  · obtain ⟨_, _, _, rfl⟩ := exists_handler_of_mem hhandler
    obtain ⟨s, -, hname⟩ := List.mem_map.mp hregister
    exact handlerName_ne_registerName hname.symm

/-- No structure for the path is called like one for the query, since the endings differ. -/
theorem disjoint_structNames (places : List (ServiceRoutes × MethodRoutes)) :
    List.Disjoint (places.flatMap (structNames Binding.hasPath "PathParams"))
      (places.flatMap (structNames Binding.hasQuery "QueryParams")) := by
  intro name hpath hquery
  obtain ⟨_, _, _, rfl⟩ := exists_struct_of_mem hpath
  obtain ⟨_, _, _, hname⟩ := exists_struct_of_mem hquery
  exact path_ne_query hname

/-- A trait and the structures for the two kinds of parameters never share a name. -/
theorem disjoint_typeKinds (t : Table) : t.typeKinds.Pairwise List.Disjoint := by
  simp only [Table.typeKinds, List.pairwise_cons, List.forall_mem_cons, List.not_mem_nil,
    List.Pairwise.nil, false_imp_iff, implies_true, and_true]
  refine ⟨⟨fun name htrait hpath => ?_, fun name htrait hquery => ?_⟩, disjoint_structNames t.places⟩
  · obtain ⟨s, -, rfl⟩ := List.mem_map.mp htrait
    obtain ⟨_, _, _, hname⟩ := exists_struct_of_mem hpath
    exact traitName_ne_path hname
  · obtain ⟨s, -, rfl⟩ := List.mem_map.mp htrait
    obtain ⟨_, _, _, hname⟩ := exists_struct_of_mem hquery
    exact traitName_ne_query hname

/-- Whether items of two kinds have different names, and with them registering functions, the handlers
of one service and the structures of one method. -/
structure Table.KeepsApart (t : Table) (items : List Item) : Prop where
  /-- Each name among values belongs to one kind. -/
  values : (valueNames items).Perm t.valueKinds.flatten ∧ t.valueKinds.Pairwise List.Disjoint
  /-- Each name among types belongs to one kind. -/
  types : (typeNames items).Perm t.typeKinds.flatten ∧ t.typeKinds.Pairwise List.Disjoint
  /-- Registering functions have different names. -/
  registers : (t.services.map fun s => registerName s.name).Nodup
  /-- The handlers of one service have different names. -/
  handlers : ∀ s ∈ t.services, (s.methods.flatMap fun m => handlerNames (s, m)).Nodup
  /-- The structures of one method have different names. -/
  structs : ∀ p ∈ t.places, (paramsNames p).Nodup

variable {table : Table} {items : List Item} (h : table.items = .ok items)

include h

/-- The names among values are those of constants, of handlers and of registering functions. -/
theorem perm_valueNames : (valueNames items).Perm table.valueKinds.flatten := by
  have hflatten : table.valueKinds.flatten =
      (table.places.map (fun p => operationName p.1.name p.2.name) ++
        table.places.flatMap handlerNames) ++ table.services.map fun s => registerName s.name := by
    simp [Table.valueKinds]
  rw [hflatten, (names_items h).1, map_places, flatMap_places, ← List.flatMap_pure_eq_map]
  refine (List.flatMap_append_perm _ _ _).symm.trans (List.Perm.append_right _ ?_)
  exact (List.flatMap_append_perm _ _ _).symm

/-- The names among types are those of traits and of the structures for two kinds of parameters. -/
theorem perm_typeNames : (typeNames items).Perm table.typeKinds.flatten := by
  have hflatten : table.typeKinds.flatten = table.services.map (fun s => traitName s.name) ++
      (table.places.flatMap (structNames Binding.hasPath "PathParams") ++
        table.places.flatMap (structNames Binding.hasQuery "QueryParams")) := by
    simp [Table.typeKinds]
  have hparams : (table.places.flatMap paramsNames).Perm
      (table.places.flatMap (structNames Binding.hasPath "PathParams") ++
        table.places.flatMap (structNames Binding.hasQuery "QueryParams")) :=
    (List.Perm.flatMap_left _ fun p _ => perm_paramsNames p).trans
      (List.flatMap_append_perm _ _ _).symm
  rw [hflatten]
  refine List.Perm.trans ?_ (hparams.append_left _)
  rw [(names_items h).2, flatMap_places, ← List.flatMap_pure_eq_map]
  exact (List.flatMap_append_perm table.services (fun s => [traitName s.name]) _).symm

omit h

/-! ## Names of one kind -/

/-- The register functions have distinct names exactly when the services have in snake case. -/
theorem nodup_registerNames_iff :
    (table.services.map fun s => registerName s.name).Nodup ↔
      table.services.Pairwise fun s t => snakeCase s.name ≠ snakeCase t.name := by
  rw [List.Nodup, List.pairwise_map]
  exact List.Pairwise.iff fun s t => not_congr registerName_inj

section Table

variable {settings : RouteSettings} {file : File}
  (htable : Table.ofFile settings file = .ok table)

include htable

/-- The routes of every place are those of a method of the file. -/
theorem exists_coversMethod {p : ServiceRoutes × MethodRoutes} (hp : p ∈ table.places) :
    ∃ s m, CoversMethod settings file.package s m p.2 := by
  obtain ⟨hclean, rfl⟩ := (ofFile_eq_ok_iff settings file).mp htable
  obtain ⟨r, hr, hp⟩ := List.mem_flatMap.mp hp
  obtain ⟨routes, hroutes, rfl⟩ := List.mem_map.mp hp
  obtain ⟨s, -, hs⟩ := exists_left_of_forall₂ (forall₂_services settings file hclean) r hr
  obtain ⟨m, -, hm⟩ := exists_left_of_forall₂ hs.methods routes hroutes
  exact ⟨s, m, hm⟩

/-- The bindings of a method are numbered by their positions, and there is one at least. -/
theorem indices_of_place {p : ServiceRoutes × MethodRoutes} (hp : p ∈ table.places) :
    p.2.bindings.map (·.index) = List.range p.2.bindings.length ∧
      ∃ b ∈ p.2.bindings, b.index = 0 := by
  obtain ⟨s, m, hm⟩ := exists_coversMethod htable hp
  have hindex : p.2.bindings.map (·.index) = m.rules.zipIdx.map (·.2) := by
    rw [← List.flatMap_pure_eq_map, ← List.flatMap_pure_eq_map]
    exact flatMap_eq_of_forall₂ (hm.bindings.imp fun _ _ h => congrArg (fun i => [i]) h.1)
  -- a table holds all bindings of a method, so no index is left out
  have hlength := hm.bindings.length_eq
  rw [List.length_zipIdx] at hlength
  have hrange : p.2.bindings.map (·.index) = List.range p.2.bindings.length := by
    rw [hindex, List.zipIdx_map_snd, hlength, List.range_eq_range']
  refine ⟨hrange, ?_⟩
  obtain ⟨rule, -, hcount⟩ := hm.length
  have hzero : 0 ∈ p.2.bindings.map (·.index) := by
    rw [hrange, List.mem_range, hcount]
    omega
  simpa using hzero

/-- The bindings of a method have distinct indices. -/
theorem nodup_indices {p : ServiceRoutes × MethodRoutes} (hp : p ∈ table.places) :
    p.2.bindings.Pairwise fun b c => b.index ≠ c.index := by
  have hrange := (indices_of_place htable hp).1
  exact List.pairwise_map.mp (hrange ▸ List.nodup_range)

/-- The handlers of a method have distinct names, since their index is set off at the end. -/
theorem nodup_handlerNames {p : ServiceRoutes × MethodRoutes} (hp : p ∈ table.places) :
    (handlerNames p).Nodup := by
  refine List.pairwise_map.mpr ((nodup_indices htable hp).imp fun hne hname => hne ?_)
  exact (handlerName_inj.mp hname).2

/-- The structures of one kind of a method have distinct names. -/
theorem nodup_structNames (has : Binding → Bool) (ending : String)
    {p : ServiceRoutes × MethodRoutes} (hp : p ∈ table.places) : (structNames has ending p).Nodup := by
  refine List.pairwise_map.mpr (((nodup_indices htable hp).filter has).imp fun hne hname => hne ?_)
  exact paramsStem_inj.mp ((String.append_left_inj _).mp hname)

/-- Handlers have distinct names when no two of their methods have one stem. -/
theorem nodup_handlerNames_iff {places : List (ServiceRoutes × MethodRoutes)}
    (hplaces : ∀ p ∈ places, p ∈ table.places) :
    (places.flatMap handlerNames).Nodup ↔
      places.Pairwise fun p q =>
        handlerStem p.1.name p.2.name ≠ handlerStem q.1.name q.2.name := by
  have hplace : ∀ p ∈ places, (handlerNames p).Nodup :=
    fun p hp => nodup_handlerNames htable (hplaces p hp)
  rw [List.nodup_flatMap, and_iff_right hplace]
  refine List.Pairwise.iff_of_mem fun {p q} hp hq => ?_
  constructor
  · intro hnames hstem
    -- both methods have a first binding, and the two have one name
    obtain ⟨-, b, hb, hbzero⟩ := indices_of_place htable (hplaces p hp)
    obtain ⟨-, c, hc, hczero⟩ := indices_of_place htable (hplaces q hq)
    have hname := handlerName_inj.mpr ⟨hstem, hbzero.trans hczero.symm⟩
    exact hnames (List.mem_map_of_mem hb) (List.mem_map.mpr ⟨c, hc, hname.symm⟩)
  · intro hstem name hname hname'
    obtain ⟨b, -, rfl⟩ := List.mem_map.mp hname
    obtain ⟨c, -, hsame⟩ := List.mem_map.mp hname'
    exact hstem (handlerName_inj.mp hsame).1.symm

/-- Structures have distinct names when no two bindings of two methods have one stem. -/
theorem nodup_structNames_iff (has : Binding → Bool) (ending : String) :
    (table.places.flatMap (structNames has ending)).Nodup ↔
      table.places.Pairwise fun p q => ∀ b ∈ p.2.bindings, ∀ c ∈ q.2.bindings,
        has b = true → has c = true →
          paramsStem p.1.name p.2.name b.index ≠ paramsStem q.1.name q.2.name c.index := by
  -- within one method the indices keep the names apart, so only methods can clash
  have hplace : ∀ p ∈ table.places, (structNames has ending p).Nodup :=
    fun p hp => nodup_structNames htable has ending hp
  rw [List.nodup_flatMap, and_iff_right hplace]
  refine List.Pairwise.iff fun p q => ?_
  constructor
  · intro hnames b hb c hc hhas hhas' hstem
    refine hnames (List.mem_map_of_mem (List.mem_filter.mpr ⟨hb, hhas⟩)) ?_
    rw [hstem]
    exact List.mem_map_of_mem (List.mem_filter.mpr ⟨hc, hhas'⟩)
  · intro hstem name hname hname'
    obtain ⟨b, hb, rfl⟩ := List.mem_map.mp hname
    obtain ⟨c, hc, hsame⟩ := List.mem_map.mp hname'
    rw [List.mem_filter] at hb hc
    exact hstem b hb.1 c hc.1 hb.2 hc.2 ((String.append_left_inj _).mp hsame).symm

/-- The structures of one method have distinct names. -/
theorem nodup_paramsNames {p : ServiceRoutes × MethodRoutes} (hp : p ∈ table.places) :
    (paramsNames p).Nodup := by
  rw [(perm_paramsNames p).nodup_iff, List.nodup_append']
  refine ⟨nodup_structNames htable _ _ hp, nodup_structNames htable _ _ hp, ?_⟩
  simpa using disjoint_structNames [p]

variable {items : List Item} (hitems : table.items = .ok items)

include hitems

/-- Only constants share names with constants, handlers with handlers, and registering functions with
registering functions. -/
theorem nodup_valueNames_iff :
    (valueNames items).Nodup ↔
      (table.places.Pairwise fun p q =>
        operationName p.1.name p.2.name ≠ operationName q.1.name q.2.name) ∧
      (table.places.Pairwise fun p q =>
        handlerStem p.1.name p.2.name ≠ handlerStem q.1.name q.2.name) ∧
      table.services.Pairwise fun s t => snakeCase s.name ≠ snakeCase t.name := by
  have hconstants : (table.places.map fun p => operationName p.1.name p.2.name).Nodup ↔
      table.places.Pairwise fun p q =>
        operationName p.1.name p.2.name ≠ operationName q.1.name q.2.name := List.pairwise_map
  -- names of two kinds differ, so only the conditions within a kind are left
  rw [(perm_valueNames hitems).nodup_iff, List.nodup_flatten,
    and_iff_left (disjoint_valueKinds table), Table.valueKinds, List.forall_mem_cons,
    List.forall_mem_cons, List.forall_mem_singleton, hconstants,
    nodup_handlerNames_iff htable fun _ hp => hp, nodup_registerNames_iff]

/-- Only traits share names with traits, and structures with structures for the same kind of
parameters. -/
theorem nodup_typeNames_iff :
    (typeNames items).Nodup ↔
      (table.services.Pairwise fun s t => upperCamelCase s.name ≠ upperCamelCase t.name) ∧
      table.places.Pairwise fun p q => ∀ b ∈ p.2.bindings, ∀ c ∈ q.2.bindings,
        b.hasPath = true ∧ c.hasPath = true ∨ b.hasQuery = true ∧ c.hasQuery = true →
          paramsStem p.1.name p.2.name b.index ≠ paramsStem q.1.name q.2.name c.index := by
  have htraits : (table.services.map fun s => traitName s.name).Nodup ↔
      table.services.Pairwise fun s t => upperCamelCase s.name ≠ upperCamelCase t.name := by
    rw [List.Nodup, List.pairwise_map]
    exact List.Pairwise.iff fun s t => not_congr traitName_inj
  have hsplit : (table.places.Pairwise fun p q => ∀ b ∈ p.2.bindings, ∀ c ∈ q.2.bindings,
      b.hasPath = true ∧ c.hasPath = true ∨ b.hasQuery = true ∧ c.hasQuery = true →
        paramsStem p.1.name p.2.name b.index ≠ paramsStem q.1.name q.2.name c.index) ↔
      (table.places.Pairwise fun p q => ∀ b ∈ p.2.bindings, ∀ c ∈ q.2.bindings,
        b.hasPath = true → c.hasPath = true →
          paramsStem p.1.name p.2.name b.index ≠ paramsStem q.1.name q.2.name c.index) ∧
      table.places.Pairwise fun p q => ∀ b ∈ p.2.bindings, ∀ c ∈ q.2.bindings,
        b.hasQuery = true → c.hasQuery = true →
          paramsStem p.1.name p.2.name b.index ≠ paramsStem q.1.name q.2.name c.index := by
    rw [← List.pairwise_and_iff]
    refine List.Pairwise.iff fun p q => ?_
    constructor
    · exact fun h => ⟨fun b hb c hc hp hp' => h b hb c hc (.inl ⟨hp, hp'⟩),
        fun b hb c hc hq hq' => h b hb c hc (.inr ⟨hq, hq'⟩)⟩
    · rintro ⟨hpath, hquery⟩ b hb c hc (⟨hp, hp'⟩ | ⟨hq, hq'⟩)
      · exact hpath b hb c hc hp hp'
      · exact hquery b hb c hc hq hq'
  -- as for values, only the conditions within a kind are left
  rw [(perm_typeNames hitems).nodup_iff, List.nodup_flatten,
    and_iff_left (disjoint_typeKinds table), Table.typeKinds, List.forall_mem_cons,
    List.forall_mem_cons, List.forall_mem_singleton, htraits, nodup_structNames_iff htable,
    nodup_structNames_iff htable, hsplit]

omit hitems

/-! ## Names of files -/

/-- The services of a table have distinct names in snake case when those of the file have. -/
theorem pairwise_services (hservices : (file.services.map fun s => snakeCase s.name).Nodup) :
    table.services.Pairwise fun s t => snakeCase s.name ≠ snakeCase t.name := by
  obtain ⟨hclean, rfl⟩ := (ofFile_eq_ok_iff settings file).mp htable
  refine pairwise_of_forall₂ (fun s s' r r' hs hs' hne => ?_) (forall₂_services settings file hclean)
    ((List.pairwise_map.mp hservices).filter Service.isBound)
  rw [hs.same.1, hs'.same.1]
  exact hne

/-- The methods of a service in a table have distinct names in snake case when those of the file
have. -/
theorem pairwise_methods
    (hmethods : ∀ s ∈ file.services, (s.methods.map fun m => snakeCase m.name).Nodup)
    {r : ServiceRoutes} (hr : r ∈ table.services) :
    r.methods.Pairwise fun m n => snakeCase m.name ≠ snakeCase n.name := by
  obtain ⟨hclean, rfl⟩ := (ofFile_eq_ok_iff settings file).mp htable
  obtain ⟨s, hs, hcovers⟩ := exists_left_of_forall₂ (forall₂_services settings file hclean) r hr
  refine pairwise_of_forall₂ (fun m m' x x' hm hm' hne => ?_) hcovers.methods
    ((List.pairwise_map.mp (hmethods s (List.mem_of_mem_filter hs))).filter Method.isBound)
  rw [hm.same.1, hm'.same.1]
  exact hne

/-- Methods of one service have distinct stems. -/
theorem pairwise_stems_of_service
    (hservices : (file.services.map fun s => snakeCase s.name).Nodup)
    (hmethods : ∀ s ∈ file.services, (s.methods.map fun m => snakeCase m.name).Nodup) :
    table.places.Pairwise fun p q =>
      p.1.name = q.1.name → handlerStem p.1.name p.2.name ≠ handlerStem q.1.name q.2.name := by
  rw [Table.places, List.pairwise_flatMap]
  constructor
  · intro s hs
    refine List.pairwise_map.mpr ((pairwise_methods htable hmethods hs).imp fun hne _ hstem => hne ?_)
    exact (String.append_right_inj _).mp hstem
  · refine (pairwise_services htable hservices).imp fun hne p hp q hq hname => ?_
    obtain ⟨_, -, rfl⟩ := List.mem_map.mp hp
    obtain ⟨_, -, rfl⟩ := List.mem_map.mp hq
    exact absurd (congrArg snakeCase hname) hne

/-- The handlers of one service have distinct names. -/
theorem nodup_handlers_of_service
    (hmethods : ∀ s ∈ file.services, (s.methods.map fun m => snakeCase m.name).Nodup)
    {s : ServiceRoutes} (hs : s ∈ table.services) :
    (s.methods.flatMap fun m => handlerNames (s, m)).Nodup := by
  have hplaces : ∀ p ∈ s.methods.map (s, ·), p ∈ table.places :=
    fun p hp => List.mem_flatMap_of_mem hs hp
  rw [← List.flatMap_map (f := (s, ·)) (g := handlerNames), nodup_handlerNames_iff htable hplaces,
    List.pairwise_map]
  exact (pairwise_methods htable hmethods hs).imp fun hne hstem =>
    hne ((String.append_right_inj _).mp hstem)

/-! ## Main statement -/

include hitems

/-- In a file whose services have distinct names in snake case, and whose methods have within each
service, items of two kinds have different names. The names among values are distinct exactly when no
handlers of methods of two services have one stem and no constants of two methods have names that are
equal in capitals; and the names among types exactly when no traits of two services have names that are
equal in camel case, nor structures for one kind of parameters of bindings of two methods one stem. -/
theorem item_names_are_distinct_iff
    (hservices : (file.services.map fun s => snakeCase s.name).Nodup)
    (hmethods : ∀ s ∈ file.services, (s.methods.map fun m => snakeCase m.name).Nodup) :
    table.KeepsApart items ∧
    ((valueNames items).Nodup ↔
      (table.places.Pairwise fun p q => p.1.name ≠ q.1.name →
        handlerStem p.1.name p.2.name ≠ handlerStem q.1.name q.2.name) ∧
      table.places.Pairwise fun p q =>
        operationName p.1.name p.2.name ≠ operationName q.1.name q.2.name) ∧
    ((typeNames items).Nodup ↔
      (table.services.Pairwise fun s t => upperCamelCase s.name ≠ upperCamelCase t.name) ∧
      table.places.Pairwise fun p q => ∀ b ∈ p.2.bindings, ∀ c ∈ q.2.bindings,
        b.hasPath = true ∧ c.hasPath = true ∨ b.hasQuery = true ∧ c.hasQuery = true →
          paramsStem p.1.name p.2.name b.index ≠ paramsStem q.1.name q.2.name c.index) := by
  have hregisters := pairwise_services htable hservices
  have hapart : table.KeepsApart items :=
    { values := ⟨perm_valueNames hitems, disjoint_valueKinds table⟩
      types := ⟨perm_typeNames hitems, disjoint_typeKinds table⟩
      registers := nodup_registerNames_iff.mpr hregisters
      handlers := fun s hs => nodup_handlers_of_service htable hmethods hs
      structs := fun p hp => nodup_paramsNames htable hp }
  refine ⟨hapart, ?_, nodup_typeNames_iff htable hitems⟩
  have hvalues := nodup_valueNames_iff htable hitems
  have hsame := pairwise_stems_of_service htable hservices hmethods
  -- two methods of one service have two stems already, so only those of two services matter
  have hstems : (table.places.Pairwise fun p q =>
      handlerStem p.1.name p.2.name ≠ handlerStem q.1.name q.2.name) ↔
      table.places.Pairwise fun p q => p.1.name ≠ q.1.name →
        handlerStem p.1.name p.2.name ≠ handlerStem q.1.name q.2.name := by
    constructor
    · intro h
      refine h.imp ?_
      intro p q hne _
      exact hne
    · intro h
      refine (List.pairwise_and_iff.mpr ⟨h, hsame⟩).imp fun {p q} hne => ?_
      by_cases hname : p.1.name = q.1.name
      · exact hne.2 hname
      · exact hne.1 hname
  rw [hstems] at hvalues
  rw [hvalues]
  constructor
  · rintro ⟨hconstants, hhandlers, -⟩
    exact ⟨hhandlers, hconstants⟩
  · rintro ⟨hhandlers, hconstants⟩
    exact ⟨hconstants, hhandlers, hregisters⟩

end Table

/-- A method that reads a shelf by its number. -/
def shelfMethod (name path : String) (others : List HttpRule) : Method where
  name
  fullName := "shelves.v1.Shelf." ++ name
  comment := ""
  input := ⟨⟨"shelves.v1.Key", "Key", "Key"⟩,
    [{ name := "id", number := 1, kind := .scalar .string, label := .singular, oneof := none }]⟩
  output := ⟨⟨"shelves.v1.Shelf", "Shelf", "Shelf"⟩, []⟩
  rule := some (.mk "" (some (.get path)) "" "" others)
  auth := false
  authLine := none
  clientStreaming := false
  serverStreaming := false

/-- A file in which the second binding of a method and the first of another have one stem. -/
def shelfFile : File where
  name := "shelf.proto"
  package := "shelves.v1"
  services :=
    [{ name := "Shelf", fullName := "shelves.v1.Shelf", comment := "", auth := false
       methods :=
        [shelfMethod "Get" "/shelves/\x7bid\x7d" [.mk "" (some (.get "/v1/shelves/\x7bid\x7d")) "" "" []],
          shelfMethod "Get1" "/old/\x7bid\x7d" []] }]
  enums := []

/-- What the file is rendered as: its constants and handlers differ, and two of its structures share
a name. -/
theorem exists_items_of_shelfFile :
    ∃ table items, Table.ofFile {} shelfFile = .ok table ∧ table.items = .ok items ∧
      (shelfFile.services.map fun s => snakeCase s.name).Nodup ∧
      (∀ s ∈ shelfFile.services, (s.methods.map fun m => snakeCase m.name).Nodup) ∧
      (table.places.map fun p => (p.1.name, handlerStem p.1.name p.2.name,
        operationName p.1.name p.2.name)) =
          [("Shelf", "shelf_get", "OPERATION_SHELF_GET"),
            ("Shelf", "shelf_get1", "OPERATION_SHELF_GET1")] ∧
      typeNames items =
        ["ShelfHttpServer", "ShelfGetPathParams", "ShelfGet1PathParams", "ShelfGet1PathParams"] := by
  -- the further binding of one method and the binding of the next share the name of their struct
  have hrun : ((Table.ofFile {} shelfFile).toOption.bind fun table =>
      table.items.toOption.map fun items =>
        ((table.places.map fun p => (p.1.name, handlerStem p.1.name p.2.name,
          operationName p.1.name p.2.name)), typeNames items)) =
      some ([("Shelf", "shelf_get", "OPERATION_SHELF_GET"),
            ("Shelf", "shelf_get1", "OPERATION_SHELF_GET1")],
        ["ShelfHttpServer", "ShelfGetPathParams", "ShelfGet1PathParams", "ShelfGet1PathParams"]) := by
    decide +kernel
  obtain ⟨table, htable, hrun⟩ := Option.bind_eq_some_iff.mp hrun
  obtain ⟨items, hitems, hnames⟩ := Option.map_eq_some_iff.mp hrun
  obtain ⟨hplaces, htypes⟩ := Prod.mk.inj hnames
  exact ⟨table, items, toOption_eq_some_iff.mp htable, toOption_eq_some_iff.mp hitems,
    by decide +kernel, by decide +kernel, hplaces, htypes⟩

/-- The functions and the constants of the file have distinct names. -/
theorem valueNames_of_shelfFile :
    ∃ table items, Table.ofFile {} shelfFile = .ok table ∧ table.items = .ok items ∧
      (valueNames items).Nodup := by
  obtain ⟨table, items, htable, hitems, hservices, hmethods, hplaces, -⟩ := exists_items_of_shelfFile
  have hdistinct : (table.places.map fun p => (p.1.name, handlerStem p.1.name p.2.name,
      operationName p.1.name p.2.name)).Pairwise fun x y =>
        (x.1 ≠ y.1 → x.2.1 ≠ y.2.1) ∧ x.2.2 ≠ y.2.2 := by
    rw [hplaces]
    decide
  rw [List.pairwise_map, List.pairwise_and_iff] at hdistinct
  exact ⟨table, items, htable, hitems,
    (item_names_are_distinct_iff htable hitems hservices hmethods).2.1.mpr hdistinct⟩

/-- Distinct names of services and methods in snake case do not make the names of items distinct. -/
theorem item_names_can_repeat :
    ¬ ∀ (settings : RouteSettings) (file : File) (table : Table) (items : List Item),
      Table.ofFile settings file = .ok table → table.items = .ok items →
      (file.services.map fun s => snakeCase s.name).Nodup →
      (∀ s ∈ file.services, (s.methods.map fun m => snakeCase m.name).Nodup) →
      (valueNames items).Nodup ∧ (typeNames items).Nodup := by
  intro h
  obtain ⟨table, items, htable, hitems, hservices, hmethods, -, htypes⟩ := exists_items_of_shelfFile
  have hnodup := (h {} shelfFile table items htable hitems hservices hmethods).2
  rw [htypes] at hnodup
  exact absurd hnodup (by decide)

end ProtoRest.Route
