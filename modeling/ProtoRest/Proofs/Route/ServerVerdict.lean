import ProtoRest.Proofs.Route.Acceptance
import ProtoRest.Proofs.Route.BoundFields
import ProtoRest.Proofs.Route.CompleteServer
import ProtoRest.Proofs.Route.FieldTypes
import ProtoRest.Proofs.Route.ItemNames

/-! # When server code can be generated
Legible names and types decide whether code is generated for a binding (`decides_generateBinding`),
for a method and for a service (`decides_generateService`): where one of them is not legible, the
work ends the whole run. -/

namespace ProtoRest.Route

open ProtoRest.Code ProtoRest.Schema ProtoRest.Setting ProtoRest.Text

/-- A message whose names and types are made of names. -/
structure HasNamedFields (m : Message) : Prop where
  /-- Its own path. -/
  path : IsNamedText m.type.path
  /-- The names of its fields. -/
  names : ∀ f ∈ m.fields, HasNameChars f.name
  /-- The types of its fields. -/
  kinds : ∀ f ∈ m.fields, HasNamedKinds f

section Bindings

variable {request reply : Message} (hrequest : HasNamedFields request)
  (hreply : HasNamedFields reply)

/-! ## Bindings -/

include hrequest in
/-- A parameter is made exactly when its name leads with a letter. -/
theorem decides_param {p : BoundField} (hp : TakesParam request p) :
    Decides (leadsWithLetter p.name = true) (Param.IsGood ·) (Param.ofField p) := by
  obtain ⟨f, hf, hmessage, rfl⟩ := hp
  have hname := hrequest.names f hf
  have hlegible : isLegible f.kind = true := by
    cases hkind : f.kind with
    | scalar => rfl
    | enum => rfl
    | message => rw [hkind] at hmessage; cases hmessage
  have hty := (decides_codeType (hrequest.kinds f hf).1).congr (iff_true_intro hlegible)
  refine ((decides_ofField hname).bind fun _ ident _ => hty.map fun ty hty => ?_).congr
    (by simp [BoundField.ofField])
  exact ⟨hty, snakeCase_ne_underscore hname⟩

include hrequest in
/-- The parameters are made exactly when all their names lead with a letter. -/
theorem decides_params {params : List BoundField} (h : ∀ p ∈ params, TakesParam request p) :
    Decides (params.all (leadsWithLetter ·.name) = true) (fun params => ∀ p ∈ params, p.IsGood)
      (params.mapM Param.ofField) := by
  refine ((Decides.mapM fun p hp => decides_param hrequest (h p hp)).imp ?_).congr (by simp)
  intro ps hps p hp
  obtain ⟨_, -, hgood⟩ := exists_left_of_forall₂ hps p hp
  exact hgood

include hrequest in
/-- The code of a body is made exactly when its source is legible. -/
theorem decides_bodyCode {ty : Ty} (hty : ty.IsPlain) {source : BodySource}
    (h : TakesBody request source) :
    Decides (source.isLegible request = true) BodyCode.IsGood (bodyCode ty source) := by
  cases source with
  | none =>
    refine (Decides.of_eq_ok rfl ⟨rfl, by simp, ?_⟩).congr (by simp [BodySource.isLegible])
    simp [hty.complete]
  | whole =>
    refine (Decides.of_eq_ok rfl ⟨?_, by simp, ?_⟩).congr (by simp [BodySource.isLegible])
    · simp [isComplete_extractor, hty.complete]
    · simp
  | field name ident codeType wrap =>
    obtain ⟨f, hf, hfield, rfl, rfl, htype⟩ := h
    obtain ⟨rfl, rfl⟩ := Prod.ext_iff.mp htype
    -- the type and the name of the field are all that can fail
    refine ((decides_bodyType (hrequest.kinds f hf)).bind fun _ fieldTy hfieldTy =>
      (decides_ofField (hrequest.names f hf)).map fun fieldIdent _ => ?_).congr ?_
    · refine ⟨?_, fun s hs => ?_, ?_⟩
      · simp [isComplete_extractor, hfieldTy.complete]
      · obtain rfl := List.mem_singleton.mp hs
        rw [isComplete_assignment]
        split_ifs <;> simp
      · simp [hty.complete]
    · simp [BodySource.isLegible, hfield, and_comm]

/-- The type of a response is plain, and its value has a layout. -/
def IsGoodResponse (response : Ty × Expr) : Prop :=
  response.1.IsPlain ∧ isComplete (response.2.pieces {}) = true

include hreply in
/-- The code of a response is made exactly when its source is legible. -/
theorem decides_responseCode {ty : Ty} (hty : ty.IsPlain) {source : ResponseSource}
    (h : TakesResponse reply source) :
    Decides (source.isLegible reply = true) IsGoodResponse (responseCode ty source) := by
  cases source with
  | whole =>
    exact (Decides.of_eq_ok rfl ⟨hty, by simp⟩).congr (by simp [ResponseSource.isLegible])
  | field name ident codeType docType =>
    obtain ⟨f, hf, hfield, rfl, rfl, htype⟩ := h
    obtain ⟨rfl, rfl⟩ := Prod.ext_iff.mp htype
    refine ((decides_responseType (hreply.kinds f hf)).bind fun _ fieldTy hfieldTy =>
      (decides_ofField (hreply.names f hf)).map fun fieldIdent _ => ⟨hfieldTy, by simp⟩).congr ?_
    simp [ResponseSource.isLegible, hfield, and_comm]

/-- The default of a plain type has no faults. -/
theorem defaultFaults_eq_nil {ty : Ty} (hty : ty.IsPlain) : defaultFaults ty = [] := by
  rw [defaultFaults, hty.closed]
  rfl

/-- A member with a name has no faults. -/
theorem memberFaults_eq_nil {ident : String} (h : ident ≠ "_") : memberFaults ident = [] :=
  if_neg h

include hrequest hreply in
/-- The handler of a binding can be read back. -/
theorem handlerFaults_eq_nil {ty : Ty} (hty : ty.IsPlain) {path query : List Param}
    (hpath : ∀ p ∈ path, p.IsGood) (hquery : ∀ p ∈ query, p.IsGood) {b : Binding}
    (hb : TakesFields request reply b) : handlerFaults ty path query b = [] := by
  rw [handlerFaults]
  simp only [List.append_eq_nil_iff, List.flatMap_eq_nil_iff]
  -- the body, the fields in the path, those in the query, and the response
  refine ⟨⟨⟨?_, fun p hp => memberFaults_eq_nil (hpath p hp).ident⟩, fun p hp => ⟨?_, ?_⟩⟩, ?_⟩
  · have htakes := hb.body
    cases hsource : b.body with
    | none => exact defaultFaults_eq_nil hty
    | whole => rfl
    | field name ident codeType wrap =>
      rw [hsource] at htakes
      obtain ⟨f, hf, -, rfl, rfl, -⟩ := htakes
      simp only [defaultFaults_eq_nil hty,
        memberFaults_eq_nil (snakeCase_ne_underscore (hrequest.names f hf)), List.append_nil]
  · exact memberFaults_eq_nil (hquery p hp).ident
  · rw [defaultFaults_eq_nil (hquery p hp).ty, ite_self]
  · have htakes := hb.response
    cases hsource : b.response with
    | whole => rfl
    | field name ident codeType docType =>
      rw [hsource] at htakes
      obtain ⟨f, hf, -, rfl, rfl, -⟩ := htakes
      exact memberFaults_eq_nil (snakeCase_ne_underscore (hreply.names f hf))

include hrequest hreply in
/-- Legible fields decide what is generated for a binding. -/
theorem decides_generateBinding (names : BindingIdents) {code : MethodCode} (hcode : code.IsGood)
    {b : Binding} (hb : TakesFields request reply b) :
    Decides (b.isLegible request reply = true) Generated.IsGood (generateBinding names code b) := by
  have hpath := decides_params hrequest hb.pathParams
  have hquery := decides_params hrequest hb.queryParams
  have hbody := decides_bodyCode hrequest hcode.request hb.body
  have hresponse := decides_responseCode hreply hcode.reply hb.response
  rw [generateBinding]
  refine (hpath.bind fun _ path hpath => hquery.bind fun _ query hquery =>
    hbody.bind fun _ body hbody => hresponse.map fun response hresponse => ?_).congr ?_
  · refine ⟨?_, handlerFaults_eq_nil hrequest hreply hcode.request hpath hquery hb⟩
    -- all parts are generated here, and the handler is put together from them
    have hassignments : ∀ s ∈ body.assignments ++ path.map pathAssignment ++
        query.flatMap (queryAssignment b.omitEmpty), s.IsComplete := by
      intro s hs
      rw [List.mem_append, List.mem_append, List.mem_map, List.mem_flatMap] at hs
      obtain (hs | ⟨p, hp, rfl⟩) | ⟨p, hp, hs⟩ := hs
      · exact hbody.assignments s hs
      · exact isComplete_pathAssignment p
      · exact isComplete_queryAssignment b.omitEmpty (hquery p hp) s hs
    have hdoc : (b.doc.map Attr.docLine).all (isComplete <| ·.pieces false) = true := by
      simp [Attr.docLine]
    have hhandler := isComplete_handler names path query hcode hdoc hbody hassignments
      hresponse.1 hresponse.2
    rw [List.all_append, List.all_append, isComplete_paramsItem _ _ _ _ _ hpath,
      isComplete_paramsItem _ _ _ _ _ hquery, List.all_cons, hhandler]
    rfl
  · simp [Binding.isLegible, List.all_append, and_assoc]

end Bindings

/-! ## Methods and services -/

section Services

variable (settings : RouteSettings) (package : String) (s : Service)

/-- Whether the fields that the binding of a rule takes and returns are legible. -/
def IsLegibleRule (m : Method) (rule : HttpRule × Nat) : Prop :=
  ∀ b, bindingOfRule settings package s m rule.2 rule.1 = .ok b →
    b.isLegible m.input m.output = true

/-- Whether everything that the code of a method mentions is legible. -/
def IsLegibleMethod (m : Method) : Prop :=
  isLegibleMethod m = true ∧ ∀ rule ∈ m.rules.zipIdx, IsLegibleRule settings package s m rule

/-- Whether everything that the code of a service mentions is legible. -/
def IsLegibleService : Prop :=
  leadsWithDigit s.name = false ∧
    ∀ m ∈ s.methods.filter Method.isBound, IsLegibleMethod settings package s m

/-- A method whose names and types are made of names. -/
structure IsNamedMethod (m : Method) : Prop where
  /-- Its name is one. -/
  name : HasNameChars m.name
  /-- What it takes is made of names. -/
  input : HasNamedFields m.input
  /-- What it gives back is made of names. -/
  output : HasNamedFields m.output

/-- A service whose names and types are made of names. -/
structure IsNamedService (s : Service) : Prop where
  /-- Its name is one. -/
  name : HasNameChars s.name
  /-- Its methods are made of names. -/
  methods : ∀ m ∈ s.methods, IsNamedMethod m

variable {settings package s}

/-- The type of a message is made exactly when its path is the text of a type. -/
theorem decides_messageType {m : Message} (hm : HasNamedFields m) :
    Decides (isTypeText m.type.path = true) Ty.IsPlain (tyOfText m.type.path) :=
  hm.path.decides_tyOfText

variable (hs : HasNameChars s.name)

include hs

/-- Legible fields decide what is generated for the bindings of a method. -/
theorem decides_bindings {m : Method} (hm : IsNamedMethod m) {routes : MethodRoutes}
    (h : CoversMethod settings package s m routes) (hdigit : leadsWithDigit s.name = false)
    (hletter : leadsWithLetter m.name = true) {code : MethodCode} (hcode : code.IsGood) :
    Decides (∀ rule ∈ m.rules.zipIdx, IsLegibleRule settings package s m rule)
      (fun parts => ∀ g ∈ parts, g.IsGood)
      (routes.bindings.mapM fun b => do
        let names ← BindingIdents.make s.name m.name b.index
        generateBinding names code b) := by
  refine (Decides.mapM_of_forall₂ (R := fun _ g => g.IsGood) h.bindings
    fun rule _ b hb => ?_).imp fun parts hparts g hg => ?_
  · refine ((decides_bindingIdents hs hm.name hdigit hletter b.index).bind fun _ names _ =>
      decides_generateBinding hm.input hm.output names hcode
        (takesFields_of_bindingOfRule hb.2)).congr ?_
    simp [IsLegibleRule, hb.2]
  · obtain ⟨_, -, hgood⟩ := exists_left_of_forall₂ hparts g hg
    exact hgood

/-- Legible names and types decide what is generated for a method. -/
theorem decides_generateMethod {m : Method} (hm : IsNamedMethod m) {routes : MethodRoutes}
    (h : CoversMethod settings package s m routes) {service : ServiceRoutes}
    (hservice : service.name = s.name) (hdigit : leadsWithDigit s.name = false) (server : Ident) :
    Decides (IsLegibleMethod settings package s m)
      (fun parts => isComplete parts.1.pieces = true ∧ parts.2.IsGood)
      (generateMethod service server routes) := by
  obtain ⟨hroutes, -, -, hrequest, hreply⟩ := h.same
  rw [generateMethod, hrequest, hreply, hroutes, hservice]
  refine ((decides_messageType hm.input).bind fun _ request hrequest =>
    (decides_messageType hm.output).bind fun _ reply hreply =>
      (decides_ofField hm.name).bind fun hletter ident _ =>
        (decides_bindings hs hm h hdigit hletter ⟨hrequest, hreply⟩).map
          fun parts hparts => ⟨?_, .join hparts⟩).congr ?_
  · simp [IsLegibleMethod, isLegibleMethod, and_assoc]
  · exact isComplete_traitMethod routes ⟨hrequest, hreply⟩

/-- The constant of a method is always made, and complete. -/
theorem decides_operationItem {m : Method} (hm : IsNamedMethod m) {routes : MethodRoutes}
    (hroutes : routes.name = m.name) {service : ServiceRoutes} (hservice : service.name = s.name)
    (package : String) :
    Decides True (fun item => isComplete item.pieces = true)
      (operationItem package service routes) := by
  rw [operationItem, hroutes, hservice]
  exact ((decides_operationName hs hm.name).map fun ident _ => by simp [Item.const]).congr Iff.rfl

omit hs in
/-- Legible names and types decide what is generated for a service. -/
theorem decides_generateService (hs : IsNamedService s) {routes : ServiceRoutes}
    (h : CoversService settings package s routes) (package' : String) :
    Decides (IsLegibleService settings package s) Generated.IsGood
      (generateService package' routes) := by
  obtain ⟨hname, -, -⟩ := h.same
  have hmethods (m : Method) (hm : m ∈ s.methods.filter Method.isBound) : IsNamedMethod m :=
    hs.methods m (List.mem_of_mem_filter hm)
  rw [generateService, hname]
  refine ((decides_traitName hs.name).bind fun hdigit server _ =>
    (decides_registerName hs.name).bind fun _ register _ =>
      (Decides.mapM_of_forall₂
        (R := fun _ parts => isComplete parts.1.pieces = true ∧ parts.2.IsGood) h.methods
        fun m hm r hr => decides_generateMethod hs.name (hmethods m hm) hr hname hdigit server).bind
          fun _ methods hparts =>
            (Decides.mapM_of_forall₂ (R := fun _ item => isComplete item.pieces = true) h.methods
              fun m hm r hr => decides_operationItem hs.name (hmethods m hm) hr.same.1 hname
                package').map fun operations hoperations => ?_).congr ?_
  · -- nothing is left to fail, and the items have layouts since those of the methods do
    have hparts (parts : Item × Generated) (hmem : parts ∈ methods) :
        isComplete parts.1.pieces = true ∧ parts.2.IsGood := by
      obtain ⟨_, -, hgood⟩ := exists_left_of_forall₂ hparts parts hmem
      exact hgood
    have hoperations : operations.all (isComplete ·.pieces) = true := by
      rw [List.all_eq_true]
      intro item hitem
      obtain ⟨_, -, hgood⟩ := exists_left_of_forall₂ hoperations item hitem
      exact hgood
    have htraits : (methods.map (·.1)).all (isComplete ·.pieces) = true := by
      rw [List.all_map, List.all_eq_true]
      exact fun parts hmem => (hparts parts hmem).1
    have hhandlers : (Generated.join (methods.map (·.2))).IsGood := by
      refine .join fun g hg => ?_
      obtain ⟨parts, hmem, rfl⟩ := List.mem_map.mp hg
      exact (hparts parts hmem).2
    refine ⟨?_, hhandlers.faults⟩
    rw [List.all_append, hoperations, List.all_cons, isComplete_traitItem _ _ htraits,
      List.all_append, hhandlers.items, List.all_cons, isComplete_registerItem]
    rfl
  · simp [IsLegibleService]

end Services

end ProtoRest.Route
