import Mathlib.Data.List.Perm.Basic
import ProtoRest.Proofs.Descriptor.DistinctNames
import ProtoRest.Proofs.Descriptor.SettledForms
import ProtoRest.Proofs.Descriptor.SettledOptions
import ProtoRest.Proofs.Plugin.FileFaults
import ProtoRest.Proofs.Plugin.NamedFiles
import ProtoRest.Proofs.Schema.WrittenErrors
import ProtoRest.Proofs.Schema.WrittenRules

/-! # Written options
The annotations that methods and values of enums carry are what files are loaded with: every rule, with
its pattern and its further rules, and every annotation of an error, with what is absent of it
(`written_options_reach_files`). -/

namespace ProtoRest.Plugin

open ProtoRest.Annotation ProtoRest.Descriptor ProtoRest.Schema ProtoRest.Wire Result

/-! ## Settled options of a file -/

/-- Elements are related to those of a list, one by one but in some other order. -/
def InSomeOrder {α β : Type} (R : α → β → Prop) (as : List α) (bs : List β) : Prop :=
  ∃ sorted, sorted.Perm as ∧ List.Forall₂ R sorted bs

/-- Partners in some order are followed through a relation that holds place by place. -/
theorem InSomeOrder.imp {α β γ : Type} {R : α → β → Prop} {S : β → γ → Prop} {T : α → γ → Prop}
    {as : List α} {bs : List β} {cs : List γ} (h : InSomeOrder R as bs) (hcs : List.Forall₂ S bs cs)
    (hT : ∀ a b c, R a b → S b c → T a c) : InSomeOrder T as cs := by
  obtain ⟨sorted, hperm, hrelated⟩ := h
  exact ⟨sorted, hperm, forall₂_trans hrelated hcs hT⟩

/-- Options are settled by a pool. -/
def AreSettled (first : Pool) (owner : OptionOwner) (options settled : Fields) : Prop :=
  ∃ (s : Settler) (scope : String), s.pool = first ∧ s.options owner scope options = .ok settled

/-- The enums of a file: those in messages, then those at the top. -/
def enumTypes (f : FileType) : List EnumType :=
  (flattenTrees f.messages).flatMap (·.enums) ++ f.enums

section Settled

variable {first : Pool} {d : FileDecl} {type : FileType}

/-- The name of a file is kept. -/
theorem name_of_isSettledBy (h : IsSettledBy first d type) : type.name = d.name := by
  obtain ⟨s, settled, -, hsettled, catalog, all, before, edition, htype⟩ := h
  obtain ⟨_, -, _, -, _, -, _, -, _, -, rfl⟩ := settledFile_eq_ok_iff.mp hsettled
  obtain ⟨p, _, _, -, -, -, -, -, -, -, hname, -⟩ := fileType_eq_ok htype
  exact hname

/-- A type of a method has the name of a declared one, with settled options. -/
def HasSettledOptions (first : Pool) (m : MethodDecl) (type : MethodType) : Prop :=
  type.name = m.name ∧ AreSettled first .method m.options type.options

/-- The type built of a settled method holds the method's options as they were settled. -/
theorem hasSettledOptions_of_method {s : Settler} {p : Place} {scope fullName : String}
    {m settled : MethodDecl} {type : MethodType} (hsettled : s.method scope m = .ok settled)
    (htype : methodType p fullName settled = .ok type) : HasSettledOptions s.pool m type := by
  obtain ⟨options, hoptions, rfl⟩ := settledMethod_eq_ok_iff.mp hsettled
  obtain ⟨hname, hkept, -⟩ := methodType_eq_ok htype
  refine ⟨hname, s, inScope scope m.name, rfl, ?_⟩
  rw [hkept]
  exact hoptions

/-- The methods of the type built of a settled service hold their settled options, in order. -/
theorem hasSettledOptions_of_service {s : Settler} {p : Place} {scope : String}
    {service settled : ServiceDecl} {type : ServiceType}
    (hsettled : s.service scope service = .ok settled) (htype : serviceType p settled = .ok type) :
    List.Forall₂ (HasSettledOptions s.pool) service.methods type.methods := by
  obtain ⟨_, -, methods, hmethods, rfl⟩ := settledService_eq_ok_iff.mp hsettled
  exact forall₂_trans (mapM_eq_ok_iff.mp hmethods) (serviceType_eq_ok htype).2
    fun _ _ _ => hasSettledOptions_of_method

/-- The methods of a file have the settled options of those that are declared. -/
theorem methods_of_isSettledBy (h : IsSettledBy first d type) :
    List.Forall₂ (fun (s : ServiceDecl) (t : ServiceType) =>
      List.Forall₂ (HasSettledOptions first) s.methods t.methods) d.services type.services := by
  obtain ⟨s, settled, rfl, hsettled, catalog, all, before, edition, htype⟩ := h
  obtain ⟨_, -, _, -, _, -, services, hservices, _, -, rfl⟩ := settledFile_eq_ok_iff.mp hsettled
  obtain ⟨p, _, _, -, -, -, -, -, htypes, -⟩ := fileType_eq_ok htype
  exact forall₂_trans (mapM_eq_ok_iff.mp hservices) (mapM_eq_ok_iff.mp htypes)
    fun _ _ _ => hasSettledOptions_of_service

/-- A type of an enum has the values of a declared one, with settled options. -/
def HasSettledValues (first : Pool) (e : String × EnumDecl) (type : EnumType) : Prop :=
  type.fullName = e.1 ∧ InSomeOrder (fun v w => w.name = v.name ∧ w.number = v.number ∧
    AreSettled first .enumValue v.options w.options) e.2.values type.values

/-- The type built of a settled enum holds each value with its settled options, in some order. -/
theorem hasSettledValues_of_enum {s : Settler} {p : Place} {scope : String} {e settled : EnumDecl}
    {type : EnumType} (hsettled : s.enum scope e = .ok settled)
    (htype : enumType p scope settled = .ok type) :
    HasSettledValues s.pool (inScope scope e.name, e) type := by
  obtain ⟨_, -, values, hvalues, rfl⟩ := settledEnum_eq_ok_iff.mp hsettled
  obtain ⟨hname, -, hperm⟩ := enumType_eq_ok htype
  have hmade : List.Forall₂ (fun (v : EnumValueDecl) (w : EnumValueType) => w.name = v.name ∧
      w.number = v.number ∧ AreSettled s.pool .enumValue v.options w.options) e.values
      (values.map fun v => .mk v.name (inScope scope v.name) v.number v.options) := by
    rw [List.forall₂_map_right_iff]
    refine (mapM_eq_ok_iff.mp hvalues).imp fun v w hw => ?_
    obtain ⟨options, hoptions, rfl⟩ := settledEnumValue_eq_ok_iff.mp hw
    exact ⟨rfl, rfl, s, _, rfl, hoptions⟩
  obtain ⟨sorted, hsorted, hvaluesPerm⟩ := List.perm_comp_forall₂ hperm hmade.flip
  exact ⟨hname, sorted, hvaluesPerm, hsorted.flip⟩

/-- The types built of settled enums hold the settled values of each, in order. -/
theorem hasSettledValues_of_enums {s : Settler} {p : Place} {scope : String}
    {es settled : List EnumDecl} {types : List EnumType}
    (hsettled : es.mapM (s.enum scope) = .ok settled)
    (htypes : settled.mapM (enumType p scope) = .ok types) :
    List.Forall₂ (HasSettledValues s.pool) (enumsInScope scope es) types := by
  rw [enumsInScope, List.forall₂_map_left_iff]
  exact forall₂_trans (mapM_eq_ok_iff.mp hsettled) (mapM_eq_ok_iff.mp htypes)
    fun _ _ _ => hasSettledValues_of_enum

/-- The enums of a file have the values of those that are declared, with settled options. -/
theorem enums_of_isSettledBy (h : IsSettledBy first d type) :
    List.Forall₂ (HasSettledValues first) d.namedEnums (enumTypes type) := by
  obtain ⟨s, settled, rfl, hsettled, catalog, all, before, edition, htype⟩ := h
  obtain ⟨_, -, messages, hmessages, enums, henums, _, -, _, -, rfl⟩ :=
    settledFile_eq_ok_iff.mp hsettled
  obtain ⟨p, _, _, -, -, -, htrees, htypes, -⟩ := fileType_eq_ok htype
  have hheads : List.Forall₂ (fun (m : String × MessageHead) (type : MessageType) =>
      List.Forall₂ (HasSettledValues s.pool) (enumsInScope m.1 m.2.enums) type.enums)
      (headsInAll d.package d.messages) (flattenTrees type.messages) := by
    refine forall₂_trans (heads_of_settled_messages hmessages) (heads_of_messageTrees htrees) ?_
    intro m settled type hm htype
    have henums := htype.enums
    rw [hm.name] at henums
    exact hasSettledValues_of_enums hm.enums henums
  exact List.rel_append (List.rel_flatMap hheads fun _ _ hmessage => hmessage)
    (hasSettledValues_of_enums henums htypes)

end Settled

/-! ## Reading what options hold -/

section Reading

variable {first pool : Pool} {owner : OptionOwner} {extension message : String} {number : Nat}

/-- A message that options hold is what is read of them. -/
theorem message?_of_values (hholds : pool.HoldsMessage owner extension message number)
    {settled own : Fields} (hvalues : Fields.values settled number = [.message own]) {α : Type}
    {read : Bytes → Except ReadFault α} {a : α} (hread : read (writeFields own) = .ok a) :
    (Options.of pool owner settled).message? extension read = .ok (some a) := by
  obtain ⟨type, f, htype, hf, hmessage, hsingle, -⟩ := hholds.exists_field
  obtain ⟨x, hx, hnumber⟩ := Option.map_eq_some_iff.mp hholds.1
  have hvalue : (Options.of pool owner settled).value? extension = some (.message message own) := by
    simp only [Options.value?, Options.of, Option.bind_eq_bind, hx, htype, hnumber, hf, hvalues,
      Option.bind_some]
    rw [fieldValue, hsingle, if_neg Bool.false_ne_true, lastValue?, hmessage]
    rfl
  rw [Options.message?, hvalue]
  simp only [hread]

/-- A tidy message that options carry is what is read of them when they were settled by a pool with the
same forms, as long as its rearranged forms are read alike. -/
theorem message?_of_settled (hsame : first.SameForms pool)
    (hholds : pool.HoldsMessage owner extension message number) {own options settled : Fields}
    (hown : TidyAt first (maxDepth - 1) message own)
    (hcarries : Carries number (writeFields own) options)
    (hsettled : AreSettled first owner options settled) {α : Type}
    {read : Bytes → Except ReadFault α} {a : α}
    (hread : ∀ {fs}, RearrangedAt (maxDepth - 1) own fs → (writeFields own).length < 2 ^ 64 →
      read (writeFields fs) = .ok a) :
    (Options.of pool owner settled).message? extension read = .ok (some a) := by
  obtain ⟨s, scope, rfl, hsettled⟩ := hsettled
  have hfirst := (hsame.holdsMessage_iff owner extension message number).mp hholds
  obtain ⟨hvalues, hsize⟩ := values_of_settled hfirst hown hcarries.2 hcarries.1 hsettled
  exact message?_of_values hholds hvalues (hread hown.rearranged hsize)

end Reading

/-! ## What is kept -/

/-- A method of a pool has the rule that a declared one carries. -/
structure KeepsRule (p : Pool) (number : Nat) (m : MethodDecl) (type : MethodType) : Prop where
  /-- They have one name. -/
  name : type.name = m.name
  /-- The rule is read as it was written. -/
  rule : ∀ rule, CarriesRule number rule m.options →
    (Options.of p .method type.options).message? ruleName HttpRule.read = .ok (some rule)

/-- A method is loaded with the rule that a declared one carries. -/
structure LoadsRule (number : Nat) (m : MethodDecl) (loaded : Method) : Prop where
  /-- They have one name. -/
  name : loaded.name = m.name
  /-- The rule is as it was written. -/
  rule : ∀ rule, CarriesRule number rule m.options → loaded.rule = some rule

/-- A value of an enum of a pool has the annotation that a declared one carries. -/
structure KeepsError (p : Pool) (number : Nat) (v : EnumValueDecl) (type : EnumValueType) :
    Prop where
  /-- They have one name. -/
  name : type.name = v.name
  /-- They have one number. -/
  sameNumber : type.number = v.number
  /-- The annotation is read as it was written. -/
  error : ∀ e, CarriesError number e v.options →
    (Options.of p .enumValue type.options).message? errorOptionsName ErrorOptions.read = .ok (some e)

/-- A value of an enum is loaded with the annotation that a declared one carries. -/
structure LoadsError (number : Nat) (v : EnumValueDecl) (loaded : EnumValue) : Prop where
  /-- They have one name. -/
  name : loaded.name = v.name
  /-- They have one number. -/
  sameNumber : loaded.number = v.number
  /-- The annotation is as it was written. -/
  error : ∀ e, CarriesError number e v.options → loaded.error = some e

/-- The methods of a file keep the rules that those of its declaration carry. -/
def KeepsRules (p : Pool) (number : Nat) (d : FileDecl) (type : FileType) : Prop :=
  List.Forall₂ (fun s type => List.Forall₂ (KeepsRule p number) s.methods type.methods) d.services
    type.services

/-- The methods of a file are loaded with the rules that those of its declaration carry. -/
def LoadsRules (number : Nat) (d : FileDecl) (file : File) : Prop :=
  List.Forall₂ (fun s loaded => List.Forall₂ (LoadsRule number) s.methods loaded.methods) d.services
    file.services

/-- The enums of a file keep the annotations that the values of those that it declares carry. -/
def KeepsErrors (p : Pool) (number : Nat) (d : FileDecl) (type : FileType) : Prop :=
  List.Forall₂ (fun e type => type.fullName = e.1 ∧
    InSomeOrder (KeepsError p number) e.2.values type.values) d.namedEnums (enumTypes type)

/-- The enums that a file is loaded with have the annotations that the values of declared ones carry. -/
def LoadsErrors (number : Nat) (d : FileDecl) (file : File) : Prop :=
  ∀ loaded ∈ file.enums, ∃ e ∈ d.namedEnums, loaded.fullName = e.1 ∧
    InSomeOrder (LoadsError number) e.2.values loaded.values

section Rules

variable {first pool : Pool} {number : Nat}

/-- No rules of a pool are the entries of a map if none are declared so. -/
theorem mapEntry_of_isTypeOf {decls : List FileDecl} (h : List.Forall₂ IsTypeOf decls first.files)
    (hdecls : RulesAreNoEntries decls) :
    ∀ type ∈ first.message? ruleMessage, type.mapEntry = false := by
  intro type htype
  obtain ⟨f, hf, hmem⟩ := List.mem_flatMap.mp (List.mem_of_find?_eq_some htype)
  have hname : type.fullName = ruleMessage := by simpa using List.find?_some htype
  obtain ⟨d, hd, catalog, all, before, edition, hmade⟩ := exists_left_of_forall₂ h f hf
  obtain ⟨p, _, _, -, -, -, htrees, -⟩ := fileType_eq_ok hmade
  obtain ⟨m, hm, hmadeOf⟩ := exists_left_of_forall₂ (heads_of_messageTrees htrees) type hmem
  rw [hmadeOf.mapEntry]
  exact hdecls d hd m hm (hmadeOf.name.symm.trans hname)

variable (hforms : HasRuleForms first)
  (hentry : ∀ type ∈ first.message? ruleMessage, type.mapEntry = false)

include hforms hentry

/-- A method whose options were settled before the build keeps each rule it was written with: the
encoding settled by the first pool is decoded by the second to the rule. -/
theorem keepsRule_of_settled (hsame : first.SameForms pool)
    (hholds : pool.HoldsMessage .method ruleName ruleMessage number) {m : MethodDecl}
    {type : MethodType} (h : HasSettledOptions first m type) : KeepsRule pool number m type := by
  refine ⟨h.1, fun rule hcarries => ?_⟩
  obtain ⟨hnesting, hcarries⟩ := hcarries
  refine message?_of_settled hsame hholds (HttpRule.tidyAt_fields hforms hentry (by omega)) hcarries h.2
    fun hfs hsize => ?_
  exact HttpRule.read_of_rearranged hfs (by omega) hsize

/-- Every method of a settled file keeps the rules it was written with. -/
theorem keepsRules_of_isSettledBy (hsame : first.SameForms pool)
    (hholds : pool.HoldsMessage .method ruleName ruleMessage number) {d : FileDecl} {type : FileType}
    (h : IsSettledBy first d type) : KeepsRules pool number d type :=
  (methods_of_isSettledBy h).imp fun _ _ hservice => hservice.imp fun _ _ =>
    keepsRule_of_settled hforms hentry hsame hholds

end Rules

section Errors

variable {first pool : Pool} {number : Nat}

/-- An enum value whose options were settled before the build keeps the error it was written with.
-/
theorem keepsError_of_settled (hforms : HasErrorForms first) (hsame : first.SameForms pool)
    (hholds : pool.HoldsMessage .enumValue errorOptionsName errorMessage number) {v : EnumValueDecl}
    {type : EnumValueType} (hname : type.name = v.name) (hnumber : type.number = v.number)
    (hsettled : AreSettled first .enumValue v.options type.options) :
    KeepsError pool number v type := by
  refine ⟨hname, hnumber, fun e hcarries => ?_⟩
  obtain ⟨hfits, hcarries⟩ := hcarries
  exact message?_of_settled hsame hholds (ErrorOptions.tidyAt_fields hforms hfits _) hcarries hsettled
    fun hfs hsize => ErrorOptions.read_of_rearranged hfits hfs hsize

/-- Every enum value of a settled file keeps the error it was written with. -/
theorem keepsErrors_of_isSettledBy (hforms : HasErrorForms first) (hsame : first.SameForms pool)
    (hholds : pool.HoldsMessage .enumValue errorOptionsName errorMessage number) {d : FileDecl}
    {type : FileType} (h : IsSettledBy first d type) : KeepsErrors pool number d type := by
  refine (enums_of_isSettledBy h).imp fun e type he => ?_
  obtain ⟨hname, sorted, hperm, hvalues⟩ := he
  refine ⟨hname, sorted, hperm, hvalues.imp fun v w hv => ?_⟩
  exact keepsError_of_settled hforms hsame hholds hv.1 hv.2.1 hv.2.2

end Errors

/-! ## Loading -/

section Loading

variable {l : Loader} {number : Nat}

/-- A method type that keeps a rule is loaded with that rule. -/
theorem loadsRule_of_method {path : List Int} {m : MethodDecl} {type : MethodType} {loaded : Method}
    (hkeeps : KeepsRule l.pool number m type) (h : l.LoadsMethod path type loaded) :
    LoadsRule number m loaded := by
  refine ⟨h.name.trans hkeeps.name, fun written hcarries => ?_⟩
  have hread := h.rule
  rw [hkeeps.rule written hcarries] at hread
  exact (Except.ok.inj hread).symm

/-- The methods of a service are loaded with the rules their types keep. -/
theorem loadsRules_of_service {index : Nat} {s : ServiceDecl} {type : ServiceType} {loaded : Service}
    (hkeeps : List.Forall₂ (KeepsRule l.pool number) s.methods type.methods)
    (h : l.service index type = .ok loaded) :
    List.Forall₂ (LoadsRule number) s.methods loaded.methods := by
  obtain ⟨-, -, hmethods⟩ := Loader.service_eq_ok h
  have hloaded : List.Forall₂ (fun type loaded => ∃ path, l.LoadsMethod path type loaded)
      type.methods loaded.methods :=
    forall₂_of_zipIdx hmethods fun _ _ hmethod => ⟨_, hmethod⟩
  refine forall₂_trans hkeeps hloaded ?_
  rintro m type loaded hkept ⟨path, hmethod⟩
  exact loadsRule_of_method hkept hmethod

/-- A value type that keeps an error is loaded with that error. -/
theorem loadsError_of_enumValue {v : EnumValueDecl} {type : EnumValueType} {loaded : EnumValue}
    (hkeeps : KeepsError l.pool number v type) (h : l.LoadsEnumValue type loaded) :
    LoadsError number v loaded := by
  refine ⟨h.name.trans hkeeps.name, h.number.trans hkeeps.sameNumber, fun written hcarries => ?_⟩
  have hread := h.error
  rw [hkeeps.error written hcarries] at hread
  exact (Except.ok.inj hread).symm

/-- An enum is loaded under its full name, its values with the errors their types keep. -/
theorem loadsErrors_of_enum {path : List Int} {e : String × EnumDecl} {type : EnumType}
    {loaded : Enum}
    (hkeeps : type.fullName = e.1 ∧ InSomeOrder (KeepsError l.pool number) e.2.values type.values)
    (h : l.LoadsEnum path type loaded) :
    loaded.fullName = e.1 ∧ InSomeOrder (LoadsError number) e.2.values loaded.values :=
  ⟨h.fullName.trans hkeeps.1, hkeeps.2.imp h.values fun _ _ _ => loadsError_of_enumValue⟩

/-- A file is loaded with the rules its types keep. -/
theorem loadsRules_of_load {d : FileDecl} (hkeeps : KeepsRules l.pool number d l.file) {file : File}
    (h : l.load = .ok file) : LoadsRules number d file := by
  have hloaded : List.Forall₂ (fun type loaded => ∃ index, l.service index type = .ok loaded)
      l.file.services file.services :=
    forall₂_of_zipIdx (Loader.load_eq_ok h).1 fun _ _ hservice => ⟨_, hservice⟩
  refine forall₂_trans hkeeps hloaded ?_
  rintro s type loaded hkept ⟨index, hservice⟩
  exact loadsRules_of_service hkept hservice

/-- The enums with places are enums of the file. -/
theorem mem_enumTypes_of_enums {f : FileType} {e : List Int × EnumType} (h : e ∈ Loader.enums f) :
    e.2 ∈ enumTypes f := by
  rw [enumTypes, List.mem_append, List.mem_flatMap]
  exact (exists_of_mem_enums h).symm

/-- A file is loaded with the errors its types keep. -/
theorem loadsErrors_of_load {d : FileDecl} (hkeeps : KeepsErrors l.pool number d l.file) {file : File}
    (h : l.load = .ok file) : LoadsErrors number d file := by
  intro loaded hloaded
  obtain ⟨found, hfound, hload⟩ := exists_left_of_forall₂ (Loader.load_eq_ok h).2 loaded hloaded
  obtain ⟨e, he, hkept⟩ := exists_left_of_forall₂ hkeeps found.2 (mem_enumTypes_of_enums hfound)
  exact ⟨e, he, loadsErrors_of_enum hkept hload⟩

end Loading

/-! ## Main statement -/

/-- A pool that was built has the declared files under their names, with options that were settled by
a pool with the same forms. -/
theorem exists_file_of_decls {decls : List FileDecl} {pool : Pool} (h : Pool.ofDecls decls = .ok pool) :
    ∃ first : Pool, first.SameForms pool ∧ List.Forall₂ IsTypeOf decls first.files ∧
      ∀ d ∈ decls, ∃ type, pool.file? d.name = some type ∧ IsSettledBy first d type := by
  obtain ⟨first, hsame, hmade, hsettled⟩ := exists_first_pool h
  refine ⟨first, hsame, hmade, fun d hd => ?_⟩
  obtain ⟨type, htype, hsettledBy⟩ := exists_right_of_forall₂ hsettled d hd
  have hname := name_of_isSettledBy hsettledBy
  obtain ⟨files, defs, _, hfiles, hdefs, -, -⟩ := ofDecls_eq_ok h
  have hnames : pool.files.map (·.name) = decls.map (·.name) :=
    map_eq_of_forall₂ hsettled fun _ _ hfile => name_of_isSettledBy hfile
  have hdecls : files.map (·.1.name) = decls.map (·.name) :=
    map_eq_of_forall₂ hfiles fun _ _ hfile => congrArg FileDecl.name hfile.1
  -- no two files have one name, so each is found under its own
  have hnodup : (pool.files.map (·.name)).Nodup := by
    rw [hnames, ← hdecls]
    exact nodup_fileNames hdefs
  refine ⟨type, ?_, hsettledBy⟩
  rw [Pool.file?, ← hname]
  exact find?_of_nodup hnodup htype

/-- The annotations that methods and values of enums carry reach the files. In a pool that has the
fields of rules, every rule that a declared method carries is what the settled options hold and what the
method is loaded with; and in one with the fields of annotations of errors, the same is true of every
such annotation that a declared value of an enum carries. To carry them is never what makes options
fail. -/
theorem written_options_reach_files {bs : Bytes} {job : Job} {decls : List FileDecl}
    (hread : Job.read bs = .ok job) (hdecls : job.request.declarations.mapM FileDecl.read = .ok decls) :
    (∀ number, job.pool.HoldsMessage .method ruleName ruleMessage number → HasRuleForms job.pool →
      RulesAreNoEntries decls → ∀ d ∈ decls, ∃ type, job.pool.file? d.name = some type ∧
        KeepsRules job.pool number d type ∧
        ∀ file, job.file d.name = .ok file → LoadsRules number d file) ∧
    (∀ number, job.pool.HoldsMessage .enumValue errorOptionsName errorMessage number →
      HasErrorForms job.pool → ∀ d ∈ decls, ∃ type, job.pool.file? d.name = some type ∧
        KeepsErrors job.pool number d type ∧
        ∀ file, job.file d.name = .ok file → LoadsErrors number d file) ∧
    ∀ (s : Settler) number, IsFieldNumber number →
      (s.pool.HoldsMessage .method ruleName ruleMessage number → HasRuleForms s.pool →
        (∀ type ∈ s.pool.message? ruleMessage, type.mapEntry = false) →
        ∀ rule : HttpRule, rule.nesting < maxDepth → rule.write.length < 2 ^ 64 →
          TakesBytes s .method number rule.write) ∧
      (s.pool.HoldsMessage .enumValue errorOptionsName errorMessage number → HasErrorForms s.pool →
        ∀ e : ErrorOptions, e.FitsInt32 → e.write.length < 2 ^ 64 →
          TakesBytes s .enumValue number e.write) := by
  obtain ⟨⟨_, hsame, hpool⟩, -⟩ := exists_of_read hread
  obtain rfl := Except.ok.inj (hdecls.symm.trans hsame)
  obtain ⟨first, hsame, hmade, hfiles⟩ := exists_file_of_decls hpool
  refine ⟨fun number hholds hforms hentries d hd => ?_, fun number hholds hforms d hd => ?_,
    fun s number hnumber => ⟨fun hholds hforms hentry rule hnesting hsize => ?_,
      fun hholds hforms e hfits hsize => ?_⟩⟩
  · -- options are settled over the first pool, which has the fields of the last one
    obtain ⟨type, htype, hsettled⟩ := hfiles d hd
    have hfirst : HasRuleForms first :=
      ⟨(hsame.hasForms_iff _ _).mp hforms.1, (hsame.hasForms_iff _ _).mp hforms.2⟩
    have hkeeps := keepsRules_of_isSettledBy hfirst (mapEntry_of_isTypeOf hmade hentries) hsame hholds
      hsettled
    refine ⟨type, htype, hkeeps, fun file hfile => ?_⟩
    rw [file_eq_load htype] at hfile
    exact loadsRules_of_load hkeeps hfile
  · obtain ⟨type, htype, hsettled⟩ := hfiles d hd
    obtain ⟨marked, hforms⟩ := hforms
    have hfirst : HasErrorForms first := ⟨marked, (hsame.hasForms_iff _ _).mp hforms⟩
    have hkeeps := keepsErrors_of_isSettledBy hfirst hsame hholds hsettled
    refine ⟨type, htype, hkeeps, fun file hfile => ?_⟩
    rw [file_eq_load htype] at hfile
    exact loadsErrors_of_load hkeeps hfile
  · intro scope before after others honce hopen hothers
    exact settled_of_insert hholds (HttpRule.tidyAt_fields hforms hentry (by omega)) hnumber hsize honce
      hopen hothers
  · intro scope before after others honce hopen hothers
    exact settled_of_insert hholds (ErrorOptions.tidyAt_fields hforms hfits _) hnumber hsize honce hopen
      hothers

/-- The fields of the declaration of a field. -/
def fieldFields (name : String) (number label type : Nat) (more : Fields) : Raw :=
  .message ([(1, .text name), (3, .varint number), (4, .varint label), (5, .varint type)] ++ more)

/-- The fields of the declaration of a message whose options may be extended. -/
def extensibleFields (name : String) : Raw :=
  .message [(1, .text name), (5, .message [(1, .varint 1000), (2, .varint 536870912)])]

/-- A rule whose pattern has a verb of its own, with a further rule whose path is empty. -/
def purgeRule : HttpRule :=
  .mk "" (some (.custom "PURGE" "/shelves")) "" "" [.mk "shelf" (some (.post "")) "*" "note" []]

/-- Annotations of errors with a number that is zero, a text that is empty and a number below zero. -/
def shelfError : String → ErrorOptions
  | "LOST" => { code := some 0, reason := some "" }
  | _ => { status := some 404, code := some (-5) }

/-- A request for a file with a method that carries the rule, and with an enum whose values carry the
annotations. -/
def writtenRequest : Bytes :=
  writeFields
    [(1, .text "shelf.proto"),
     (15, .message
       [(1, .text "options.proto"), (2, .text "google.protobuf"),
        (4, extensibleFields "MethodOptions"), (4, extensibleFields "EnumValueOptions")]),
     (15, .message
       [(1, .text "http.proto"), (2, .text "google.api"), (3, .text "options.proto"),
        (4, .message
          [(1, .text "HttpRule"),
           (2, fieldFields "selector" 1 1 9 []),
           (2, fieldFields "get" 2 1 9 [(9, .varint 0)]),
           (2, fieldFields "put" 3 1 9 [(9, .varint 0)]),
           (2, fieldFields "post" 4 1 9 [(9, .varint 0)]),
           (2, fieldFields "delete" 5 1 9 [(9, .varint 0)]),
           (2, fieldFields "patch" 6 1 9 [(9, .varint 0)]),
           (2, fieldFields "body" 7 1 9 []),
           (2, fieldFields "custom" 8 1 11
             [(6, .text ".google.api.CustomHttpPattern"), (9, .varint 0)]),
           (2, fieldFields "additional_bindings" 11 3 11 [(6, .text ".google.api.HttpRule")]),
           (2, fieldFields "response_body" 12 1 9 []),
           (8, .message [(1, .text "pattern")])]),
        (4, .message
          [(1, .text "CustomHttpPattern"), (2, fieldFields "kind" 1 1 9 []),
           (2, fieldFields "path" 2 1 9 [])]),
        (7, fieldFields "http" 72295728 1 11
          [(2, .text ".google.protobuf.MethodOptions"), (6, .text ".google.api.HttpRule")]),
        (12, .text "proto3")]),
     (15, .message
       [(1, .text "errors.proto"), (2, .text "sphere.errors"), (3, .text "options.proto"),
        (4, .message
          [(1, .text "Error"),
           (2, fieldFields "status" 1 1 5 [(9, .varint 0), (17, .varint 1)]),
           (2, fieldFields "code" 2 1 5 [(9, .varint 1), (17, .varint 1)]),
           (2, fieldFields "reason" 3 1 9 [(9, .varint 2), (17, .varint 1)]),
           (2, fieldFields "message" 4 1 9 [(9, .varint 3), (17, .varint 1)]),
           (8, .message [(1, .text "_status")]), (8, .message [(1, .text "_code")]),
           (8, .message [(1, .text "_reason")]), (8, .message [(1, .text "_message")])]),
        (7, fieldFields "options" 50002 1 11
          [(2, .text ".google.protobuf.EnumValueOptions"), (6, .text ".sphere.errors.Error")]),
        (12, .text "proto3")]),
     (15, .message
       [(1, .text "shelf.proto"), (2, .text "shelf"), (3, .text "http.proto"),
        (3, .text "errors.proto"), (4, .message [(1, .text "Shelf")]),
        (5, .message
          [(1, .text "Reason"),
           (2, .message
             [(1, .text "LOST"), (2, .varint 0),
              (3, .message [(50002, .bytes (shelfError "LOST").write)])]),
           (2, .message
             [(1, .text "LATE"), (2, .varint 1),
              (3, .message [(50002, .bytes (shelfError "LATE").write)])])]),
        (6, .message
          [(1, .text "Shelves"),
           (2, .message
             [(1, .text "Purge"), (2, .text ".shelf.Shelf"), (3, .text ".shelf.Shelf"),
              (4, .message [(72295728, .bytes purgeRule.write)])])]),
        (12, .text "proto3")])]

/-- What the request is for has a method and two values, which are loaded with the rule and with the
annotations. -/
theorem options_of_writtenRequest :
    ∃ job file, Job.read writtenRequest = .ok job ∧ job.file "shelf.proto" = .ok file ∧
      (file.services.map fun s => s.methods.map (·.name)) = [["Purge"]] ∧
      (file.enums.map fun e => e.values.map (·.name)) = [["LOST", "LATE"]] ∧
      (∀ s ∈ file.services, ∀ m ∈ s.methods, m.rule = some purgeRule) ∧
      ∀ e ∈ file.enums, ∀ v ∈ e.values, v.error = some (shelfError v.name) := by
  -- one evaluation of the request gives the loaded file and all conditions of the general statement
  have hparts : ((Job.read writtenRequest).toOption.bind fun job =>
      (job.file "shelf.proto").toOption.bind fun file =>
      (job.request.declarations.mapM FileDecl.read).toOption.bind fun decls =>
      (decls.find? (·.name == "shelf.proto")).map fun d =>
        ((file.services.map fun s => s.methods.map (·.name),
            file.enums.map fun e => e.values.map (·.name)),
          d.name,
          decide (job.pool.HoldsMessage .method ruleName ruleMessage 72295728 ∧
            HasRuleForms job.pool ∧ RulesAreNoEntries decls ∧
            ∀ s ∈ d.services, ∀ m ∈ s.methods, CarriesRule 72295728 purgeRule m.options),
          decide (job.pool.HoldsMessage .enumValue errorOptionsName errorMessage 50002 ∧
            HasErrorForms job.pool ∧
            ∀ e ∈ d.namedEnums, ∀ v ∈ e.2.values,
              CarriesError 50002 (shelfError v.name) v.options))) =
      some (([["Purge"]], [["LOST", "LATE"]]), "shelf.proto", true, true) := by
    decide +kernel
  obtain ⟨job, hjob, hparts⟩ := Option.bind_eq_some_iff.mp hparts
  obtain ⟨file, hfile, hparts⟩ := Option.bind_eq_some_iff.mp hparts
  obtain ⟨decls, hdecls, hparts⟩ := Option.bind_eq_some_iff.mp hparts
  obtain ⟨d, hd, hparts⟩ := Option.map_eq_some_iff.mp hparts
  simp only [Prod.mk.injEq, decide_eq_true_eq] at hparts
  obtain ⟨⟨hmethods, hvalues⟩, hname, ⟨hrule, hruleForms, hentries, hrules⟩, herror, herrorForms,
    herrors⟩ := hparts
  rw [toOption_eq_some_iff] at hjob hfile hdecls
  have hmem := List.mem_of_find?_eq_some hd
  -- the options themselves are not evaluated but taken from the general statement
  obtain ⟨hloadsRules, hloadsErrors, -⟩ := written_options_reach_files hjob hdecls
  refine ⟨job, file, hjob, hfile, hmethods, hvalues, fun s hs m hm => ?_, fun e he v hv => ?_⟩
  · obtain ⟨_, -, -, hloaded⟩ := hloadsRules _ hrule hruleForms hentries d hmem
    obtain ⟨service, hservice, hloaded⟩ :=
      exists_left_of_forall₂ (hloaded file (hname ▸ hfile)) s hs
    obtain ⟨method, hmethod, hloaded⟩ := exists_left_of_forall₂ hloaded m hm
    exact hloaded.rule purgeRule (hrules service hservice method hmethod)
  · obtain ⟨_, -, -, hloaded⟩ := hloadsErrors _ herror herrorForms d hmem
    obtain ⟨enum, henum, -, sorted, hperm, hloaded⟩ := hloaded file (hname ▸ hfile) e he
    obtain ⟨value, hvalue, hloaded⟩ := exists_left_of_forall₂ hloaded v hv
    rw [hloaded.name]
    exact hloaded.error _ (herrors enum henum value (hperm.mem_iff.mp hvalue))

end ProtoRest.Plugin
