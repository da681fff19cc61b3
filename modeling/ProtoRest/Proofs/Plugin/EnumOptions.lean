import ProtoRest.Plugin.Tool
import ProtoRest.Proofs.Descriptor.PlainBuild
import ProtoRest.Proofs.Plugin.FileFaults
import ProtoRest.Proofs.Schema.PlainLoad
import ProtoRest.Proofs.Wire.RoundTrip

/-! # Options of enums and route bindings
Route bindings are made from services and the messages that methods exchange, so requests that differ
only in options of enums and their values have the same route bindings, as long as the annotations of
errors among these options are accepted (`routes_ignore_accepted_annotations`). Annotations that are
refused are a fault of their file for both tools (`routes_of_refused_status`). -/

namespace ProtoRest.Plugin

open ProtoRest.Descriptor ProtoRest.Schema Result

/-- Requests that ask for the same, with schemas that differ only in options of enums and their
values. -/
structure SameOutsideEnums (r r' : Request) : Prop where
  /-- The requested files. -/
  files : r.files = r'.files
  /-- The parameters. -/
  parameter : r.parameter = r'.parameter
  /-- The versions of the compiler. -/
  version : r.version = r'.version
  /-- The declarations. -/
  declarations : r.declarations.map (fun d => (FileDecl.read d).map FileDecl.plain) =
    r'.declarations.map fun d => (FileDecl.read d).map FileDecl.plain

/-- Whether the annotations of errors in a file are accepted. -/
def Job.AcceptsAnnotations (j : Job) (name : String) : Prop :=
  ∀ type, j.pool.file? name = some type → Loader.AcceptsAll ⟨j.pool, type⟩

/-- A file that was loaded has accepted annotations. -/
theorem acceptsAnnotations_of_file_eq_ok {job : Job} {name : String} {file : File}
    (h : job.file name = .ok file) : job.AcceptsAnnotations name := by
  intro type htype
  rw [file_eq_load htype] at h
  exact Loader.acceptsAll_of_load h

/-! ## Files -/

/-- Route bindings do not depend on enums. -/
theorem routesFile_eq_of_services (settings : Setting.RouteSettings) (version : Option String)
    (name package : String) (services : List Service) (enums enums' : List Enum) :
    routesFile settings version { name, package, services, enums } =
      routesFile settings version { name, package, services, enums := enums' } := rfl

section Jobs

variable {bs bs' : Wire.Bytes} {job job' : Job} (hread : Job.read bs = .ok job)
  (hread' : Job.read bs' = .ok job') (hsame : SameOutsideEnums job.request job'.request)

include hread hread' hsame

/-- The pools of both requests have the same plain form. -/
theorem plain_pool_eq : job.pool.plain = job'.pool.plain := by
  have hmap (r : Request) : (r.declarations.map fun d => (FileDecl.read d).map FileDecl.plain).mapM id =
      (r.declarations.mapM FileDecl.read).map (List.map FileDecl.plain) :=
    mapM_map_eq fun _ _ => rfl
  obtain ⟨⟨decls, hdecls, hpool⟩, -⟩ := exists_of_read hread
  obtain ⟨⟨decls', hdecls', hpool'⟩, -⟩ := exists_of_read hread'
  have hplain := hmap job.request
  rw [hsame.declarations, hmap job'.request, hdecls, hdecls'] at hplain
  exact plain_eq_of_ofDecls hpool hpool' (Except.ok.inj hplain).symm

/-- A requested file is loaded in both from plain forms that are the same. -/
theorem exists_loaders {name : String} (hname : name ∈ job.request.files) :
    ∃ type type', job.pool.file? name = some type ∧ job'.pool.file? name = some type' ∧
      Loader.plain ⟨job.pool, type⟩ = Loader.plain ⟨job'.pool, type'⟩ := by
  have hpool := plain_pool_eq hread hread' hsame
  obtain ⟨type, htype⟩ := Option.isSome_iff_exists.mp ((exists_of_read hread).2 name hname)
  rw [hsame.files] at hname
  obtain ⟨type', htype'⟩ := Option.isSome_iff_exists.mp ((exists_of_read hread').2 name hname)
  refine ⟨type, type', htype, htype', ?_⟩
  have hplain := job.pool.file?_plain name
  rw [hpool, Pool.file?_plain, htype, htype'] at hplain
  rw [Loader.plain, Loader.plain, Option.some.inj hplain, hpool]

/-- The outcome of a requested file whose annotations are accepted is the same in both. -/
theorem outcome_eq_of_accepts (settings : Setting.RouteSettings) (version : Option String)
    {name : String} (hname : name ∈ job.request.files) (h : job.AcceptsAnnotations name)
    (h' : job'.AcceptsAnnotations name) :
    job.outcome (routesFile settings version) name =
      job'.outcome (routesFile settings version) name := by
  obtain ⟨type, type', htype, htype', hplain⟩ := exists_loaders hread hread' hsame hname
  have hservices := Loader.services_eq_of_plain hplain
  have htypename : type.name = type'.name := congrArg (·.file.name) hplain
  have hpackage : type.package = type'.package := congrArg (·.file.package) hplain
  obtain ⟨enums, hload⟩ := Loader.load_of_acceptsAll (h type htype)
  obtain ⟨enums', hload'⟩ := Loader.load_of_acceptsAll (h' type' htype')
  simp only [Job.outcome, file_eq_load htype, file_eq_load htype', hload, hload', hservices,
    htypename, hpackage]
  cases Loader.services ⟨job'.pool, type'⟩ with
  | error failure => rfl
  | ok services => exact congrArg Outcome.ofResult (routesFile_eq_of_services _ _ _ _ services _ _)

/-- A requested file with annotations that are refused fails alike in both, or its options are at
fault. -/
theorem file_of_not_accepts {name : String} (hname : name ∈ job.request.files)
    (h : ¬job.AcceptsAnnotations name) :
    (∃ failure, job.file name = .error failure ∧ job'.file name = .error failure) ∨
      ∃ message, job.file name = .error (.fault (.options name message)) := by
  obtain ⟨type, type', htype, htype', hplain⟩ := exists_loaders hread hread' hsame hname
  have hservices := Loader.services_eq_of_plain hplain
  have hrefused : ¬Loader.AcceptsAll ⟨job.pool, type⟩ := fun hall => h fun t ht => by
    obtain rfl := Option.some.inj (htype.symm.trans ht)
    exact hall
  rw [file_eq_load htype, file_eq_load htype']
  obtain ⟨failure, hfailure, hload⟩ | ⟨message, hload⟩ := Loader.load_of_not_acceptsAll hrefused
  · refine .inl ⟨failure, hload, ?_⟩
    rw [hservices] at hfailure
    exact Loader.load_of_services_eq_error hfailure
  · refine .inr ⟨message, ?_⟩
    rw [hload, Loader.fault, name_of_file? htype]

end Jobs

/-! ## Main statement -/

/-- What route bindings are made with is the same for requests that ask for the same. -/
theorem work_eq {job job' : Job} (h : SameOutsideEnums job.request job'.request)
    (arguments : List String) : Tool.routes.work arguments job = Tool.routes.work arguments job' := by
  simp only [Tool.work, Job.parameter, Job.compilerVersion, h.parameter, h.version]

/-- Requests that differ only in options of enums and their values have the same route bindings when
the annotations of errors in every requested file are accepted in both. Otherwise the outcome is still
the same for each file where they are; a file where they are refused in one request fails alike in both,
or its options are at fault. -/
theorem routes_ignore_accepted_annotations {bs bs' : Wire.Bytes} {job job' : Job}
    (hread : Job.read bs = .ok job) (hread' : Job.read bs' = .ok job')
    (hsame : SameOutsideEnums job.request job'.request) :
    ((∀ name ∈ job.request.files, job.AcceptsAnnotations name ∧ job'.AcceptsAnnotations name) →
      ∀ arguments, Tool.routes.generate arguments bs = Tool.routes.generate arguments bs') ∧
    ∀ arguments work, Tool.routes.work arguments job = .ok work →
      Tool.routes.work arguments job' = .ok work ∧
      ∀ name ∈ job.request.files,
        (job.AcceptsAnnotations name → job'.AcceptsAnnotations name →
          job.outcome work name = job'.outcome work name) ∧
        (¬job.AcceptsAnnotations name →
          (∃ failure, job.file name = .error failure ∧ job'.file name = .error failure) ∨
          ∃ message, job.file name = .error (.fault (.options name message))) := by
  have houtcome {arguments : List String} {work : File → Except Failure (Option OutputFile)}
      (hwork : Tool.routes.work arguments job = .ok work) {name : String}
      (hname : name ∈ job.request.files) (h : job.AcceptsAnnotations name)
      (h' : job'.AcceptsAnnotations name) : job.outcome work name = job'.outcome work name := by
    obtain ⟨settings, -, rfl⟩ := map_eq_ok_iff.mp hwork
    exact outcome_eq_of_accepts hread hread' hsame settings _ hname h h'
  constructor
  · -- with the same settings and an equal outcome for every requested file, the runs are equal
    intro haccepts arguments
    rw [Tool.generate, Tool.generate, hread, hread', ok_bind, ok_bind, ← work_eq hsame arguments]
    cases hwork : Tool.routes.work arguments job with
    | error fault => rw [mapError_error, error_bind, error_bind]
    | ok work =>
      have houtcomes : job.request.files.map (job.outcome work) =
          job'.request.files.map (job'.outcome work) := by
        rw [← hsame.files]
        exact List.map_congr_left fun name hname =>
          houtcome hwork hname (haccepts name hname).1 (haccepts name hname).2
      rw [mapError_ok, ok_bind, ok_bind, Job.run, Job.run, houtcomes]
  · intro arguments work hwork
    refine ⟨by rw [← work_eq hsame arguments, hwork], fun name hname => ⟨?_, ?_⟩⟩
    · exact houtcome hwork hname
    · exact file_of_not_accepts hread hread' hsame hname

/-! ## One enum with a status -/

/-- A file with the type of the options of enums. -/
def optionTypes : Wire.Bytes :=
  Wire.writeFields
    [(1, .text "options.proto"), (2, .text "google.protobuf"),
     (4, .message
       [(1, .text "EnumOptions"), (5, .message [(1, .varint 1000), (2, .varint 536870912)])])]

/-- The fields of a file with an enum that has a status. -/
def reasonFields (status : Nat) : Wire.Fields :=
  [(1, .text "errors.proto"), (2, .text "sphere.errors"), (3, .text "options.proto"),
   (5, .message
     [(1, .text "Reason"), (2, .message [(1, .text "NONE")]),
      (3, .message [(50001, .varint status)])]),
   (7, .message
     [(1, .text "default_status"), (2, .text ".google.protobuf.EnumOptions"), (3, .varint 50001),
      (4, .varint 1), (5, .varint 5)])]

/-- What is asked for the file with the enum. -/
def statusAsked (status : Nat) : Request :=
  ⟨["errors.proto"], none, none, [optionTypes, Wire.writeFields (reasonFields status)]⟩

/-- The request for the file with the enum. -/
def statusRequest (status : Nat) : Wire.Bytes :=
  Wire.writeFields
    [(1, .text "errors.proto"), (15, .bytes optionTypes),
     (15, .bytes (Wire.writeFields (reasonFields status)))]

open Wire in
/-- The fields of the file of reasons conform to the grammar. -/
theorem conforms_reasonFields {status : Nat} (h : status < 2 ^ 64) :
    Conforms grammar (maxDepth - 1) .file (reasonFields status) := by
  have hoptions : Conforms grammar 97 .enumOptions [(50001, .varint status)] :=
    .unknown (by decide) rfl h .nil
  have hvalue : Conforms grammar 97 .enumValue [(1, .text "NONE")] := .text (by decide) rfl rfl .nil
  have henum : Conforms grammar 98 .enum
      [(1, .text "Reason"), (2, .message [(1, .text "NONE")]),
        (3, .message [(50001, .varint status)])] :=
    .text (by decide) rfl rfl <| .message (by decide) rfl rfl hvalue <|
      .message (by decide) rfl rfl hoptions .nil
  have hextension : Conforms grammar 98 .field
      [(1, .text "default_status"), (2, .text ".google.protobuf.EnumOptions"),
        (3, .varint 50001), (4, .varint 1), (5, .varint 5)] :=
    .text (by decide) rfl rfl <| .text (by decide) rfl rfl <|
      .varint (by decide) rfl rfl (by decide) <| .varint (by decide) rfl rfl (by decide) <|
        .varint (by decide) rfl rfl (by decide) .nil
  exact .text (by decide) rfl rfl <| .text (by decide) rfl rfl <| .text (by decide) rfl rfl <|
    .message (by decide) rfl rfl henum <| .message (by decide) rfl rfl hextension .nil

/-- The file of reasons is read back from its bytes. -/
theorem read_reasonFields {status : Nat} (h : status < 2 ^ 64)
    (hsize : (Wire.writeFields (reasonFields status)).length < 2 ^ 64) :
    FileDecl.read (Wire.writeFields (reasonFields status)) = .ok (.ofFields (reasonFields status)) := by
  rw [FileDecl.read, Wire.readAt_writeFields (conforms_reasonFields h) hsize]
  rfl

/-- Only the status is not the same in what is asked. -/
theorem sameOutsideEnums_statusAsked {n m : Nat} (hn : n < 2 ^ 64) (hm : m < 2 ^ 64)
    (hnsize : (Wire.writeFields (reasonFields n)).length < 2 ^ 64)
    (hmsize : (Wire.writeFields (reasonFields m)).length < 2 ^ 64) :
    SameOutsideEnums (statusAsked n) (statusAsked m) := by
  refine ⟨rfl, rfl, rfl, ?_⟩
  simp only [statusAsked, List.map_cons, List.map_nil, read_reasonFields hn hnsize,
    read_reasonFields hm hmsize]
  rfl

/-- Two statuses of HTTP make no difference to route bindings. -/
theorem routes_of_two_statuses :
    ∃ job job', Job.read (statusRequest 404) = .ok job ∧ Job.read (statusRequest 500) = .ok job' ∧
      SameOutsideEnums job.request job'.request ∧
      (∀ name ∈ job.request.files, job.AcceptsAnnotations name ∧ job'.AcceptsAnnotations name) ∧
      Tool.routes.generate ["protoc-gen-sphere"] (statusRequest 404) =
        Tool.routes.generate ["protoc-gen-sphere"] (statusRequest 500) := by
  have hread : ((Job.read (statusRequest 404)).toOption.bind fun job =>
      (job.file "errors.proto").toOption.map fun _ => job.request) = some (statusAsked 404) := by
    decide +kernel
  have hread' : ((Job.read (statusRequest 500)).toOption.bind fun job =>
      (job.file "errors.proto").toOption.map fun _ => job.request) = some (statusAsked 500) := by
    decide +kernel
  obtain ⟨job, hjob, hread⟩ := Option.bind_eq_some_iff.mp hread
  obtain ⟨job', hjob', hread'⟩ := Option.bind_eq_some_iff.mp hread'
  obtain ⟨file, hfile, hrequest⟩ := Option.map_eq_some_iff.mp hread
  obtain ⟨file', hfile', hrequest'⟩ := Option.map_eq_some_iff.mp hread'
  -- the requests differ in the default status of one enum only
  have hsame : SameOutsideEnums job.request job'.request := by
    rw [hrequest, hrequest']
    exact sameOutsideEnums_statusAsked (by decide) (by decide) (by decide +kernel) (by decide +kernel)
  have haccepts : ∀ name ∈ job.request.files,
      job.AcceptsAnnotations name ∧ job'.AcceptsAnnotations name := by
    rw [hrequest]
    refine List.forall_mem_singleton.mpr ⟨?_, ?_⟩
    · exact acceptsAnnotations_of_file_eq_ok (toOption_eq_some_iff.mp hfile)
    · exact acceptsAnnotations_of_file_eq_ok (toOption_eq_some_iff.mp hfile')
  rw [toOption_eq_some_iff] at hjob hjob'
  exact ⟨job, job', hjob, hjob', hsame, haccepts,
    (routes_ignore_accepted_annotations hjob hjob' hsame).1 haccepts _⟩

/-- A number that is no status of HTTP is a fault of the options of its file, which route bindings
report too. -/
theorem routes_of_refused_status :
    ∃ job job', Job.read (statusRequest 404) = .ok job ∧ Job.read (statusRequest 999) = .ok job' ∧
      SameOutsideEnums job.request job'.request ∧
      Tool.routes.generate ["protoc-gen-sphere"] (statusRequest 404) = .ok ⟨none, some 1, []⟩ ∧
      Tool.routes.generate ["protoc-gen-sphere"] (statusRequest 999) =
        .ok ⟨some ("errors.proto: failed to parse options: sphere.errors.Reason: " ++
          "status 999 is not a valid HTTP status code"), some 1, []⟩ := by
  have hread : (Job.read (statusRequest 404)).toOption.map (·.request) = some (statusAsked 404) := by
    decide +kernel
  have hread' : (Job.read (statusRequest 999)).toOption.map (·.request) = some (statusAsked 999) := by
    decide +kernel
  obtain ⟨job, hjob, hrequest⟩ := Option.map_eq_some_iff.mp hread
  obtain ⟨job', hjob', hrequest'⟩ := Option.map_eq_some_iff.mp hread'
  refine ⟨job, job', toOption_eq_some_iff.mp hjob, toOption_eq_some_iff.mp hjob', ?_, ?_, ?_⟩
  · -- although the requests differ in the enum only, loading refuses one of them
    rw [hrequest, hrequest']
    exact sameOutsideEnums_statusAsked (by decide) (by decide) (by decide +kernel) (by decide +kernel)
  · exact toOption_eq_some_iff.mp (by decide +kernel)
  · exact toOption_eq_some_iff.mp (by decide +kernel)

end ProtoRest.Plugin
