import ProtoRest.Plugin.Storage
import ProtoRest.Proofs.Descriptor.Origins
import ProtoRest.Proofs.Plugin.FileFaults
import ProtoRest.Proofs.Route.RequestParts
import ProtoRest.Proofs.Schema.LoadSteps

/-! # Stored fields
The label of a loaded field and its kind say how a message stores the field, except that they do not
tell a message that may not be left out from one that may (`storageOf_eq`). With that exception the
types that a binding reads and returns are those of the stored fields (`bindings_follow_storage`). -/

namespace ProtoRest.Plugin

open ProtoRest.Descriptor ProtoRest.Route ProtoRest.Schema ProtoRest.Setting Result

/-! ## Labels -/

/-- How a loaded field is stored, given whether it is a message that may not be left out. -/
def storedAs (f : Field) (required : Bool) : Storage :=
  match f.label with
  | .map key value => .map key.codeType value.codeType
  | .repeated => .list f.kind.codeType
  | .optional => .option f.kind.codeType
  | .singular =>
    if isMessage f.kind && !required then .option f.kind.codeType else .plain f.kind.codeType

section Loaders

variable {l : Loader} {g : FieldType} {f : Field}

/-- The kind loaded for a type is a message exactly when the type is one. -/
theorem isMessage_of_kind {type : ValueType} {kind : FieldKind} (h : l.kind type = .ok kind) :
    isMessage kind = type.isMessage := by
  cases type with
  | scalar type =>
    obtain rfl := Except.ok.inj h
    rfl
  | enum name =>
    obtain ⟨e, -, rfl⟩ := Loader.kind_enum_eq_ok h
    rfl
  | message name grouped =>
    obtain ⟨m, -, rfl⟩ := Loader.kind_message_eq_ok h
    rfl

/-- A field outside of choices is optional when it is marked, or when the second edition lets it be
left out and it is no message. -/
theorem isOptional_eq {edition : Edition} (hpresence : g.presence = g.hasPresence edition)
    (hsingle : g.isRepeated = false) (hchoice : g.marked = false → g.oneof = none) :
    Loader.isOptional g = (g.marked ||
      (g.cardinality == .optional && !g.type.isMessage && edition == .second)) := by
  have hmessage : Loader.isOptional g = (g.marked || (g.cardinality == .optional &&
      g.presence && g.oneof.isNone && !g.type.isMessage)) := by
    rw [Loader.isOptional]
    cases g.type <;> rfl
  rw [hmessage, hpresence, FieldType.hasPresence, hsingle]
  cases hmarked : g.marked with
  | true => rfl
  | false =>
    rw [hchoice hmarked]
    cases g.cardinality == .optional <;> cases g.type.isMessage <;> simp

/-- The label of a loaded field and its kind say how it is stored. -/
theorem storageOf_eq {edition : Edition} (h : l.field g = .ok f)
    (hpresence : g.presence = g.hasPresence edition) (honeof : f.oneof = none) :
    storageOf l edition g =
      .ok (storedAs f (isRequiredMessage g)) := by
  obtain ⟨-, hlabel, hkind, hchoice⟩ := Loader.field_eq_ok h
  rw [Loader.label] at hlabel
  rw [storageOf, storedAs, isRequiredMessage]
  -- the label and the storage ask for a map first, then for a list, and then for an option
  cases hentry : l.pool.mapEntry? g with
  | some entry =>
    rw [hentry] at hlabel
    obtain ⟨key, hkey, hlabel⟩ := bind_eq_ok_iff.mp hlabel
    obtain ⟨value, hvalue, hlabel⟩ := bind_eq_ok_iff.mp hlabel
    rw [← pure_eq_ok_iff.mp hlabel]
    simp only [hkey, hvalue]
    rfl
  | none =>
    rw [hentry] at hlabel
    dsimp only at hlabel ⊢
    rw [hkind, ok_bind, isMessage_of_kind hkind]
    cases hrepeated : g.isRepeated with
    | true =>
      rw [if_pos hrepeated] at hlabel
      rw [← pure_eq_ok_iff.mp hlabel]
      rfl
    | false =>
      rw [hrepeated, if_neg Bool.false_ne_true] at hlabel
      have hmarked : g.marked = false → g.oneof = none := by
        intro hmarked
        rw [hmarked] at hchoice
        exact hchoice.symm.trans honeof
      rw [isOptional_eq hpresence hrepeated hmarked] at hlabel
      have hlabel : f.label = if g.marked || (g.cardinality == .optional && !g.type.isMessage &&
          edition == .second) then .optional else .singular := by
        split_ifs at hlabel ⊢ <;> exact (pure_eq_ok_iff.mp hlabel).symm
      rw [hlabel, if_neg Bool.false_ne_true]
      -- a field that is not repeated is optional or required
      cases hcardinality : g.cardinality with
      | repeated =>
        rw [FieldType.isRepeated, hcardinality] at hrepeated
        cases hrepeated
      | _ => cases g.marked <;> cases g.type.isMessage <;> cases edition <;> rfl

/-- A message that may not be left out is loaded as a single value. -/
theorem singular_of_isRequiredMessage (h : l.field g = .ok f) (hrequired : isRequiredMessage g = true) :
    f.label = .singular ∧ isMessage f.kind = true := by
  obtain ⟨-, hlabel, hkind, -⟩ := Loader.field_eq_ok h
  simp only [isRequiredMessage, Bool.and_eq_true, beq_iff_eq, Bool.not_eq_true'] at hrequired
  obtain ⟨⟨hcardinality, hmarked⟩, hmessage⟩ := hrequired
  have hsingle : g.isRepeated = false := by
    rw [FieldType.isRepeated, hcardinality]
    rfl
  have hentry : l.pool.mapEntry? g = none := by
    rw [Pool.mapEntry?, hsingle]
    cases g.type <;> rfl
  have hoptional : Loader.isOptional g = false := by
    rw [Loader.isOptional, hmarked, hcardinality]
    rfl
  rw [Loader.label, hentry, hsingle, hoptional] at hlabel
  exact ⟨(pure_eq_ok_iff.mp hlabel).symm, (isMessage_of_kind hkind).trans hmessage⟩

end Loaders

/-! ## Types of bindings -/

section Types

variable {f : Field} {required : Bool}

/-- A field that a parameter can stand for is stored as an option exactly when the parameter is
optional. -/
theorem storedAs_of_fitsQuery (h : fitsQuery f = true) :
    storedAs f required = if (BoundField.ofField f).optional
      then .option (BoundField.ofField f).codeType else .plain (BoundField.ofField f).codeType := by
  obtain ⟨-, hlabel, hmessage, -⟩ := fitsQuery_iff.mp h
  rw [storedAs, BoundField.ofField]
  obtain hlabel | hlabel := hlabel
  · rw [hlabel, hmessage]
    rfl
  · rw [hlabel]
    rfl

/-- An optional type is never written as the type in it. -/
theorem optionType_ne (type : String) : optionType type ≠ type := by
  intro h
  unfold optionType at h
  have hlength := congrArg (·.toList.length) h
  simp only [String.toList_append, List.length_append] at hlength
  have hclose : ">".toList.length = 1 := rfl
  omega

/-- The type of a response is that of a body, as an option when the body may be left out. -/
theorem responseType_eq_bodyType (f : Field) : (responseType f).1 =
    if (bodyType f).2 then optionType (bodyType f).1 else (bodyType f).1 := by
  rw [responseType, bodyType]
  cases f.label with
  | singular => cases isMessage f.kind <;> rfl
  | _ => rfl

/-- The type of a response is the type of the stored field, unless the field is a message that may not
be left out. -/
theorem type_storedAs_eq_iff (h : required = true → f.label = .singular ∧ isMessage f.kind = true) :
    (storedAs f required).type = (responseType f).1 ↔ required = false := by
  cases required with
  | true =>
    obtain ⟨hlabel, hmessage⟩ := h rfl
    rw [storedAs, responseType_eq_bodyType, bodyType, hlabel, hmessage]
    exact iff_of_false (optionType_ne _).symm Bool.noConfusion
  | false =>
    refine iff_of_true ?_ rfl
    rw [storedAs, responseType_eq_bodyType, bodyType]
    cases f.label with
    | singular => cases isMessage f.kind <;> rfl
    | _ => rfl

end Types

/-! ## Loaded messages -/

/-- The messages of a loaded method are messages of the pool. -/
theorem exists_of_mem_methods {l : Loader} {file : File} (h : l.load = .ok file) {service : Service}
    (hservice : service ∈ file.services) {method : Method} (hmethod : method ∈ service.methods) :
    (∃ name, l.message name = .ok method.input) ∧ ∃ name, l.message name = .ok method.output := by
  -- a service of the file and a method of the service are loaded at their positions
  obtain ⟨_, -, hs⟩ := exists_left_of_forall₂ (Loader.load_eq_ok h).1 service hservice
  obtain ⟨-, -, hmethods⟩ := Loader.service_eq_ok hs
  obtain ⟨⟨m, _⟩, -, hm⟩ := exists_left_of_forall₂ hmethods method hmethod
  exact ⟨⟨m.input, hm.input⟩, m.output, hm.output⟩

/-- A loaded message is found by its name. -/
theorem exists_type_of_message {l : Loader} {name : String} {m : Message}
    (h : l.message name = .ok m) :
    ∃ type, l.pool.message? m.type.fullName = some type ∧
      List.Forall₂ (fun g f => l.field g = .ok f) type.fields m.fields := by
  obtain ⟨type, htype, href, hfields⟩ := Loader.message_eq_ok h
  have hname : type.fullName = name := by simpa using List.find?_some htype
  refine ⟨type, ?_, hfields⟩
  rw [href, Loader.messageRef, hname]
  exact htype

section Stored

variable {bs : Wire.Bytes} {job : Job} (hread : Job.read bs = .ok job) {path : String}
  {file : FileType} (hfile : job.pool.file? path = some file) {name : String} {m : Message}
  (hm : Loader.message ⟨job.pool, file⟩ name = .ok m) {f : Field} (hf : f ∈ m.fields)
  (honeof : f.oneof = none)

include hread hfile hm hf honeof

/-- How a field of a loaded message is stored. -/
theorem storage?_eq : job.storage? path m.type.fullName f.name =
      some (storedAs f (job.requiresMessage m.type.fullName f.name)) ∧
    (job.requiresMessage m.type.fullName f.name = true →
      f.label = .singular ∧ isMessage f.kind = true) := by
  obtain ⟨decls, hdecls, hpool⟩ := (exists_of_read hread).1
  obtain ⟨type, htype, hfields⟩ := exists_type_of_message hm
  obtain ⟨edition, hedition, hpresence, hnodup⟩ := exists_origin hpool htype
  obtain ⟨g, hg, hfield⟩ := exists_left_of_forall₂ hfields f hf
  obtain ⟨hname, -, -, hchoice⟩ := Loader.field_eq_ok hfield
  have hedition : job.edition? m.type.fullName = some edition := by
    rw [Job.edition?, hdecls]
    exact hedition
  -- the fields of a message have different names, so the one that was loaded is found
  have hfound : job.field? m.type.fullName f.name = some g := by
    rw [Job.field?, htype, hname]
    exact find?_of_nodup hnodup hg
  have hrequired : job.requiresMessage m.type.fullName f.name = isRequiredMessage g := by
    rw [Job.requiresMessage, hfound, Option.any_some]
  -- the choice that only marks an optional field is none
  have hunchosen : ¬(g.oneof.isSome && !g.marked) = true := by
    rw [honeof] at hchoice
    cases hmarked : g.marked with
    | true => simp
    | false =>
      rw [hmarked, if_neg Bool.false_ne_true] at hchoice
      simp [← hchoice]
  rw [hrequired]
  refine ⟨?_, singular_of_isRequiredMessage hfield⟩
  rw [Job.storage?, hfile, hedition, hfound]
  show (if (g.oneof.isSome && !g.marked) = true then none
    else (storageOf ⟨job.pool, file⟩ edition g).toOption) = _
  rw [if_neg hunchosen, storageOf_eq hfield (hpresence g hg) honeof]
  rfl

/-- The type of a field of a loaded message, against that of a response. -/
theorem exists_storage_of_field :
    ∃ stored, job.storage? path m.type.fullName f.name = some stored ∧
      (stored.type = (responseType f).1 ↔ job.requiresMessage m.type.fullName f.name = false) := by
  obtain ⟨hstored, hsingular⟩ := storage?_eq hread hfile hm hf honeof
  exact ⟨_, hstored, type_storedAs_eq_iff hsingular⟩

end Stored

/-! ## Main statement -/

section Rules

variable {settings : RouteSettings} {package : String} {service : Service} {method : Method}
  {index : Nat} {rule : HttpRule} {b : Binding}

/-- The parameters of a binding stand for fields that can be read from a query. -/
theorem exists_field_of_param
    (h : bindingOfRule settings package service method index rule = .ok b) :
    ∀ p ∈ b.pathParams ++ b.queryParams,
      ∃ f ∈ method.input.fields, fitsQuery f = true ∧ p = .ofField f := by
  obtain ⟨verb, pattern, template, params, body, response, -, -, hparams, -, -, -, -, -, -, hpath, -,
    hquery, -⟩ := bindingOfRule_eq_ok h
  intro p hp
  rw [List.mem_append, hpath, hquery] at hp
  exact hp.elim (exists_field_of_pathParams hparams p) exists_field_of_mem_queryParams

/-- The types of a binding are those of the stored fields. A parameter is stored as it is read: as an
option when the request may lack it, and plainly otherwise. A field that the body fills has the type
of the body, as an option when the body may be left out, and a field that is returned has the type of
the response, except that a message that may not be left out is stored plainly. -/
theorem bindings_follow_storage {bs : Wire.Bytes} {job : Job} (hread : Job.read bs = .ok job)
    {path : String} {file : File} (hfile : job.file path = .ok file)
    (hservice : service ∈ file.services) (hmethod : method ∈ service.methods)
    (h : bindingOfRule settings package service method index rule = .ok b) :
    (∀ p ∈ b.pathParams ++ b.queryParams,
      job.storage? path method.input.type.fullName p.name =
        some (if p.optional then .option p.codeType else .plain p.codeType)) ∧
    (∀ name ident type wrap, b.body = .field name ident type wrap →
      ∃ stored, job.storage? path method.input.type.fullName name = some stored ∧
        (stored.type = (if wrap then optionType type else type) ↔
          job.requiresMessage method.input.type.fullName name = false)) ∧
    ∀ name ident type docType, b.response = .field name ident type docType →
      ∃ stored, job.storage? path method.output.type.fullName name = some stored ∧
        (stored.type = type ↔
          job.requiresMessage method.output.type.fullName name = false) := by
  cases htype : job.pool.file? path with
  | none =>
    rw [Job.file, htype] at hfile
    cases hfile
  | some type =>
    rw [file_eq_load htype] at hfile
    obtain ⟨⟨input, hinput⟩, output, houtput⟩ := exists_of_mem_methods hfile hservice hmethod
    refine ⟨fun p hp => ?_, fun name ident type wrap hbody => ?_,
      fun name ident type docType hresponse => ?_⟩
    · -- a parameter fits into a query, so it is neither in a oneof nor a message
      obtain ⟨f, hf, hfits, rfl⟩ := exists_field_of_param h p hp
      rw [← storedAs_of_fitsQuery hfits]
      exact (storage?_eq hread htype hinput hf (fitsQuery_iff.mp hfits).1).1
    · -- a body that is a field is stored as its type says, unless it must be a message
      obtain ⟨_, _, _, _, source, _, -, -, -, hsource, -, -, -, -, -, -, hb, -⟩ := bindingOfRule_eq_ok h
      rw [← hb, hbody] at hsource
      obtain hnone | ⟨f, hf, -, hfield, -, honeof⟩ := bodySource_eq_ok hsource
      · cases hnone
      · obtain ⟨rfl, -, rfl, rfl⟩ := BodySource.field.inj hfield
        rw [← responseType_eq_bodyType]
        exact exists_storage_of_field hread htype hinput hf honeof
    · -- and so is a response
      obtain ⟨_, _, _, _, _, source, -, -, -, -, hsource, -, -, -, -, -, -, -, hb⟩ :=
        bindingOfRule_eq_ok h
      rw [← hb, hresponse] at hsource
      obtain hwhole | ⟨f, hf, -, hfield, honeof⟩ := responseSource_eq_ok hsource
      · cases hwhole
      · obtain ⟨rfl, -, rfl, rfl⟩ := ResponseSource.field.inj hfield
        exact exists_storage_of_field hread htype houtput hf honeof

end Rules

/-- A request for a file of the second edition, with a method that takes and gives back a message
whose last two fields are messages, of which only the first one may be left out. -/
def lendRequest : Wire.Bytes :=
  Wire.writeFields
    [(1, .text "loans.proto"),
     (15, .message
       [(1, .text "loans.proto"), (2, .text "loans"),
        (4, .message
          [(1, .text "Loan"),
           (2, .message [(1, .text "reader"), (3, .varint 1), (4, .varint 2), (5, .varint 9)]),
           (2, .message [(1, .text "days"), (3, .varint 2), (4, .varint 1), (5, .varint 5)]),
           (2, .message
             [(1, .text "book"), (3, .varint 3), (4, .varint 1), (5, .varint 11),
              (6, .text ".loans.Book")]),
           (2, .message
             [(1, .text "desk"), (3, .varint 4), (4, .varint 2), (5, .varint 11),
              (6, .text ".loans.Desk")])]),
        (4, .message [(1, .text "Book")]),
        (4, .message [(1, .text "Desk")]),
        (6, .message
          [(1, .text "Loans"),
           (2, .message [(1, .text "Lend"), (2, .text ".loans.Loan"), (3, .text ".loans.Loan")])])])]

/-- The parts that a rule of the method is bound with, when the rule has a body. -/
def lendParts? (body : String) : Option (Job × File × Service × Method × Binding) := do
  let job ← (Job.read lendRequest).toOption
  let file ← (job.file "loans.proto").toOption
  let service ← file.services.head?
  let method ← service.methods.head?
  let b ← (bindingOfRule {} "loans" service method 0
    (.mk "" (some (.put "/readers/{reader}")) body "" [])).toOption
  return (job, file, service, method, b)

/-- The parts of the lending request are a job, its file, and a service, a method and a binding in
it. -/
theorem lendParts?_eq_some {body : String} {job : Job} {file : File} {service : Service}
    {method : Method} {b : Binding} (h : lendParts? body = some (job, file, service, method, b)) :
    Job.read lendRequest = .ok job ∧ job.file "loans.proto" = .ok file ∧ service ∈ file.services ∧
      method ∈ service.methods ∧
      bindingOfRule {} "loans" service method 0
        (.mk "" (some (.put "/readers/{reader}")) body "" []) = .ok b := by
  obtain ⟨job, hjob, h⟩ := Option.bind_eq_some_iff.mp h
  obtain ⟨file, hfile, h⟩ := Option.bind_eq_some_iff.mp h
  obtain ⟨service, hservice, h⟩ := Option.bind_eq_some_iff.mp h
  obtain ⟨method, hmethod, h⟩ := Option.bind_eq_some_iff.mp h
  obtain ⟨b, hb, h⟩ := Option.bind_eq_some_iff.mp h
  obtain ⟨rfl, rfl, rfl, rfl, rfl⟩ := Option.some.inj h
  exact ⟨toOption_eq_some_iff.mp hjob, toOption_eq_some_iff.mp hfile, List.mem_of_head? hservice,
    List.mem_of_head? hmethod, toOption_eq_some_iff.mp hb⟩

/-- The reader is stored plainly, and the days and the book are options. -/
theorem storage_of_lendRequest :
    ∃ job file service method b, Job.read lendRequest = .ok job ∧
      job.file "loans.proto" = .ok file ∧ service ∈ file.services ∧ method ∈ service.methods ∧
      bindingOfRule {} "loans" service method 0
        (.mk "" (some (.put "/readers/{reader}")) "book" "" []) = .ok b ∧
      b.body = .field "book" "book" "Book" true ∧
      job.storage? "loans.proto" "loans.Loan" "reader" =
        some (.plain "::prost::alloc::string::String") ∧
      job.storage? "loans.proto" "loans.Loan" "days" = some (.option "i32") ∧
      ∃ stored, job.storage? "loans.proto" "loans.Loan" "book" = some stored ∧
        stored.type = optionType "Book" := by
  -- the binding is evaluated; how its fields are stored follows from it
  have hparts : ((lendParts? "book").map fun (job, _, _, method, b) =>
      (method.input.type.fullName, b.body, b.pathParams ++ b.queryParams,
        job.requiresMessage "loans.Loan" "book")) =
      some ("loans.Loan", .field "book" "book" "Book" true,
        [⟨"reader", "reader", "::prost::alloc::string::String", "string", false⟩,
          ⟨"days", "days", "i32", "integer", true⟩], false) := by
    decide +kernel
  obtain ⟨⟨job, file, service, method, b⟩, h, hparts⟩ := Option.map_eq_some_iff.mp hparts
  simp only [Prod.mk.injEq] at hparts
  obtain ⟨hname, hbody, hparams, hrequired⟩ := hparts
  obtain ⟨hjob, hfile, hservice, hmethod, hb⟩ := lendParts?_eq_some h
  obtain ⟨hparamTypes, hbodyTypes, -⟩ := bindings_follow_storage hjob hfile hservice hmethod hb
  rw [hparams, List.forall_mem_cons, List.forall_mem_singleton, hname] at hparamTypes
  obtain ⟨stored, hstored, htype⟩ := hbodyTypes _ _ _ _ hbody
  rw [hname] at hstored htype
  exact ⟨job, file, service, method, b, hjob, hfile, hservice, hmethod, hb, hbody, hparamTypes.1,
    hparamTypes.2, stored, hstored, htype.mpr hrequired⟩

/-- Not every body that is a field has the type of the stored field. -/
theorem bodies_can_differ_from_storage :
    ¬ ∀ (bs : Wire.Bytes) (job : Job), Job.read bs = .ok job →
      ∀ (path : String) (file : File), job.file path = .ok file →
      ∀ service ∈ file.services, ∀ method ∈ service.methods,
      ∀ settings package index rule b,
        bindingOfRule settings package service method index rule = .ok b →
        ∀ name ident type wrap, b.body = .field name ident type wrap →
          (job.storage? path method.input.type.fullName name).map (·.type) =
            some (if wrap then optionType type else type) := by
  intro hall
  -- the field is a required message: it is stored plainly but assigned as an option
  have hparts : ((lendParts? "desk").map fun (job, _, _, method, b) =>
      (b.body, (job.storage? "loans.proto" method.input.type.fullName "desk").map (·.type))) =
      some (.field "desk" "desk" "Desk" true, some "Desk") := by
    decide +kernel
  obtain ⟨⟨job, file, service, method, b⟩, h, hparts⟩ := Option.map_eq_some_iff.mp hparts
  obtain ⟨hbody, hstored⟩ := Prod.mk.inj hparts
  obtain ⟨hjob, hfile, hservice, hmethod, hb⟩ := lendParts?_eq_some h
  have htype := hall _ job hjob _ file hfile service hservice method hmethod _ _ _ _ b hb _ _ _ _ hbody
  rw [hstored] at htype
  exact optionType_ne "Desk" (Option.some.inj htype).symm

end ProtoRest.Plugin
