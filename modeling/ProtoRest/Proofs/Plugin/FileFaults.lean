import ProtoRest.Plugin.Job
import ProtoRest.Proofs.Plugin.Schedules
import ProtoRest.Proofs.Schema.LoadFaults

/-! # Faults of files
Options that cannot be understood are a fault of their file, and the other requested files are still
generated (`faults_of_options_are_local`). -/

namespace ProtoRest.Plugin

open ProtoRest.Descriptor ProtoRest.Schema Result

/-! ## Jobs -/

/-- A file found under a name has that name. -/
theorem name_of_file? {p : Pool} {name : String} {type : FileType} (h : p.file? name = some type) :
    type.name = name := by
  rw [Pool.file?] at h
  have hfound := List.find?_some h
  exact beq_iff_eq.mp hfound

/-- A job loads the file that its pool has under the name. -/
theorem file_eq_load {job : Job} {name : String} {type : FileType}
    (h : job.pool.file? name = some type) : job.file name = Loader.load ⟨job.pool, type⟩ := by
  rw [Job.file, h]

section Job

variable {bs : Wire.Bytes} {job : Job} (hread : Job.read bs = .ok job)

include hread

/-- The pool of a job is built from declarations, and it has every requested file. -/
theorem exists_of_read : (∃ decls, job.request.declarations.mapM FileDecl.read = .ok decls ∧
      Pool.ofDecls decls = .ok job.pool) ∧
    ∀ name ∈ job.request.files, (job.pool.file? name).isSome = true := by
  rw [Job.read] at hread
  obtain ⟨request, -, hread⟩ := bind_eq_ok_iff.mp hread
  obtain ⟨pool, hpool, hread⟩ := bind_eq_ok_iff.mp hread
  split at hread
  · cases hread
  · -- no file that was asked for is missing
    rename_i hmissing
    obtain rfl := pure_eq_ok_iff.mp hread
    constructor
    · rw [Pool.read] at hpool
      split at hpool
      · cases hpool
      · rename_i decls hdecls
        exact ⟨decls, hdecls, hpool⟩
    · intro name hname
      simpa [Option.isSome_iff_ne_none] using List.find?_eq_none.mp hmissing name hname

/-- A file of the pool is loaded, or its options are at fault, or a map of one of its methods has
entries without a key or a value. -/
theorem file_cases {name : String} {type : FileType} (htype : job.pool.file? name = some type) :
    ((∃ file, job.file name = .ok file) ∧ hasEntriesOf job.pool type = true) ∨
      (∃ message, job.file name = .error (.fault (.options name message))) ∨
      (job.file name = .error .crash ∧ hasEntriesOf job.pool type = false) := by
  obtain ⟨decls, -, hdecls⟩ := (exists_of_read hread).1
  have hname := name_of_file? htype
  have hloads : Loads ⟨job.pool, type⟩ (hasEntriesOf job.pool type = true) (job.file name) := by
    rw [file_eq_load htype]
    exact loads_load (l := ⟨job.pool, type⟩) (isResolvedPool_ofDecls hdecls)
      (List.mem_of_find?_eq_some htype)
  -- a failure to load is a fault of the options, or a stop at a map without a key or a value
  cases hfile : job.file name with
  | ok file => exact .inl ⟨⟨file, rfl⟩, hloads.ok file hfile⟩
  | error failure =>
    obtain ⟨message, rfl⟩ | ⟨rfl, hentries⟩ := hloads.error failure hfile
    · refine .inr (.inl ⟨message, ?_⟩)
      rw [Loader.fault, hname]
    · exact .inr (.inr ⟨rfl, Bool.eq_false_iff.mpr hentries⟩)

/-- A requested file whose loading does not stop ends the run only by the work on it. -/
theorem not_fatal_of_requested {work : File → Except Failure (Option OutputFile)} {name : String}
    (hname : name ∈ job.request.files) (hcrash : job.file name ≠ .error .crash)
    (hwork : ∀ file failure, job.file name = .ok file → work file = .error failure →
      failure.isFatal = false) {failure : Failure} (h : job.file name >>= work = .error failure) :
    failure.isFatal = false := by
  obtain ⟨type, htype⟩ := Option.isSome_iff_exists.mp ((exists_of_read hread).2 name hname)
  obtain h | ⟨file, hfile, h⟩ := bind_eq_error_iff.mp h
  · obtain ⟨⟨file, hfile⟩, -⟩ | ⟨message, hfile⟩ | ⟨hfile, -⟩ := file_cases hread htype
    · rw [hfile] at h
      cases h
    · rw [hfile] at h
      obtain rfl := Except.error.inj h
      rfl
    · exact absurd hfile hcrash
  · exact hwork file failure hfile h

end Job

/-! ## Runs -/

/-- A result without a fatal failure is not a fatal outcome. -/
theorem fatal?_ofResult {x : Except Failure (Option OutputFile)}
    (h : ∀ failure, x = .error failure → failure.isFatal = false) :
    (Outcome.ofResult x).fatal? = none := by
  cases x with
  | ok output => cases output <;> rfl
  | error failure =>
    have hfatal := h failure rfl
    cases failure with
    | fault fault =>
      rw [Failure.isFatal] at hfatal
      rw [Outcome.ofResult, Outcome.fatal?, hfatal]
      rfl
    | crash => cases hfatal

/-- Without a fatal outcome, every order of turns of any number of workers gives every file and shows
every fault. -/
theorem respondWith_of_not_fatal {outcomes : List Outcome} (h : ∀ o ∈ outcomes, o.fatal? = none)
    {workers : Nat} {schedule : List Turn}
    (hfinished : ((Workers.start workers outcomes).run schedule).isFinished = true) :
    respondWith workers schedule outcomes =
      .ok
        { error := (Fault.joined? (outcomes.filterMap Outcome.local?)).map (·.message)
          features := some supportedFeatures
          files := outcomes.filterMap Outcome.file? } := by
  -- at most one outcome is fatal, since none is, so the turns do not matter
  have hflatten := flatten_start workers outcomes
  have hnone : outcomes.countP (·.fatal?.isSome) = 0 :=
    List.countP_eq_zero.mpr fun o ho => by simp [h o ho]
  have hexpected := ofOutcomes_run_eq_expected (by rw [hflatten, hnone]; exact Nat.zero_le 1) hfinished
  rw [hflatten, Response.expected, List.findSome?_eq_none_iff.mpr h] at hexpected
  rw [Fault.map_message_joined?]
  exact hexpected

/-! ## Main statement -/

/-- Whatever options hold, a file of the pool is loaded, or its options are at fault, or a map that one
of its methods takes or gives back has entries without a key or a value, which stops the work. Unless
a requested file does that, or the work on one that is loaded ends the run, every order of turns of
any number of workers gives what is generated for each of the other files, and the faults of all. -/
theorem faults_of_options_are_local {bs : Wire.Bytes} {job : Job} (hread : Job.read bs = .ok job) :
    (∀ name type, job.pool.file? name = some type →
      ((∃ file, job.file name = .ok file) ∧ hasEntriesOf job.pool type = true) ∨
      (∃ message, job.file name = .error (.fault (.options name message))) ∨
      (job.file name = .error .crash ∧ hasEntriesOf job.pool type = false)) ∧
    ∀ work : File → Except Failure (Option OutputFile),
      (∀ name ∈ job.request.files, job.file name ≠ .error .crash) →
      (∀ name ∈ job.request.files, ∀ file failure, job.file name = .ok file →
        work file = .error failure → failure.isFatal = false) →
      ∃ response, job.run work = .ok response ∧
        (∀ workers schedule,
          ((Workers.start workers (job.request.files.map (job.outcome work))).run
            schedule).isFinished = true →
          respondWith workers schedule (job.request.files.map (job.outcome work)) = .ok response) ∧
        response.files = (job.request.files.map (job.outcome work)).filterMap Outcome.file? ∧
        response.error = (Fault.joined? ((job.request.files.map (job.outcome work)).filterMap
          Outcome.local?)).map (·.message) := by
  refine ⟨fun name type htype => file_cases hread htype, fun work hcrash hwork => ?_⟩
  have hfatal : ∀ o ∈ job.request.files.map (job.outcome work), o.fatal? = none := by
    rw [List.forall_mem_map]
    exact fun name hname => fatal?_ofResult fun failure hfailure =>
      not_fatal_of_requested hread hname (hcrash name hname) (hwork name hname) hfailure
  -- the tools have one worker, whose turns are one of the schedules
  exact ⟨_, respondWith_of_not_fatal hfatal (isFinished_soloSchedule _),
    fun workers schedule hfinished => respondWith_of_not_fatal hfatal hfinished, rfl, rfl⟩

/-- The file and the text of the fault of options that a result reports. -/
def optionsFault? {α : Type} : Except Failure α → Option (String × String)
  | .error (.fault (.options file message)) => some (file, message)
  | _ => none

/-- A fault of the options is found only where the step failed with it. -/
theorem eq_of_optionsFault? {α : Type} {x : Except Failure α} {file message : String}
    (h : optionsFault? x = some (file, message)) : x = .error (.fault (.options file message)) := by
  unfold optionsFault? at h
  split at h
  · obtain ⟨rfl, rfl⟩ := Prod.mk.inj (Option.some.inj h)
    rfl
  · cases h

/-- A request for a file whose options hold a text in the place of a status, and for one without
options. -/
def misreadRequest : Wire.Bytes :=
  Wire.writeFields
    [(1, .text "errors.proto"), (1, .text "options.proto"),
     (15, .message
       [(1, .text "options.proto"), (2, .text "google.protobuf"),
        (4, .message
          [(1, .text "EnumOptions"), (5, .message [(1, .varint 1000), (2, .varint 536870912)])])]),
     (15, .message
       [(1, .text "errors.proto"), (2, .text "sphere.errors"), (3, .text "options.proto"),
        (5, .message
          [(1, .text "Reason"), (2, .message [(1, .text "NONE")]),
           (3, .message [(50001, .text "teapot")])]),
        (7, .message
          [(1, .text "default_status"), (2, .text ".google.protobuf.EnumOptions"),
           (3, .varint 50001), (5, .varint 9)])])]

/-- The text is a fault of its file, and the other file is generated. -/
theorem response_of_misreadRequest :
    ∃ job, Job.read misreadRequest = .ok job ∧
      (∀ name ∈ job.request.files, job.file name ≠ .error .crash) ∧
      ∃ response, job.run (fun file => .ok (some ⟨file.name, file.package⟩)) = .ok response ∧
        response.files = [⟨"options.proto", "google.protobuf"⟩] ∧
        response.error = some (Fault.several [.options "errors.proto"
          ("sphere.errors.Reason: (sphere.errors.default_status) should be a int32 value, found " ++
            "String(\"teapot\")")]).message := by
  -- one evaluation tells what is requested, the fault of one file and that the other is loaded
  have hread : ((Job.read misreadRequest).toOption.bind fun job =>
      (optionsFault? (job.file "errors.proto")).bind fun fault =>
        (job.file "options.proto").toOption.map fun file =>
          (job.request.files, fault, file.name, file.package)) =
      some (["errors.proto", "options.proto"],
        ("errors.proto",
          "sphere.errors.Reason: (sphere.errors.default_status) should be a int32 value, found " ++
            "String(\"teapot\")"), "options.proto", "google.protobuf") := by
    decide +kernel
  obtain ⟨job, hjob, hread⟩ := Option.bind_eq_some_iff.mp hread
  obtain ⟨fault, hfault, hread⟩ := Option.bind_eq_some_iff.mp hread
  obtain ⟨file, hfile, hread⟩ := Option.map_eq_some_iff.mp hread
  simp only [Prod.mk.injEq] at hread
  obtain ⟨hfiles, rfl, hname, hpackage⟩ := hread
  have herror := eq_of_optionsFault? hfault
  have hloaded := toOption_eq_some_iff.mp hfile
  have hcrash : ∀ name ∈ job.request.files, job.file name ≠ .error .crash := by
    rw [hfiles, List.forall_mem_cons, List.forall_mem_singleton, herror, hloaded]
    exact ⟨by simp, by simp⟩
  obtain ⟨response, hrun, -, houtputs, hfaults⟩ :=
    (faults_of_options_are_local (toOption_eq_some_iff.mp hjob)).2
      (fun file => .ok (some ⟨file.name, file.package⟩)) hcrash fun _ _ _ _ _ h => by cases h
  refine ⟨job, toOption_eq_some_iff.mp hjob, hcrash, response, hrun, ?_, ?_⟩
  · rw [houtputs, hfiles]
    simp only [List.map_cons, List.map_nil, Job.outcome, herror, hloaded]
    rw [← hname, ← hpackage]
    rfl
  · rw [hfaults, hfiles]
    simp only [List.map_cons, List.map_nil, Job.outcome, herror, hloaded]
    rfl

/-! ## A map that stops the work -/

/-- A request for a file with a map whose entries have neither a key nor a value. -/
def emptyEntryRequest : Wire.Bytes :=
  Wire.writeFields
    [(1, .text "m.proto"),
     (15, .message
       [(1, .text "m.proto"),
        (4, .message
          [(1, .text "M"),
           (2, .message
             [(1, .text "f"), (3, .varint 1), (4, .varint 3), (5, .varint 11), (6, .text ".M.E")]),
           (3, .message [(1, .text "E"), (7, .message [(7, .varint 1)])])]),
        (6, .message
          [(1, .text "S"), (2, .message [(1, .text "Go"), (2, .text ".M"), (3, .text ".M")])])])]

/-- Not every file of a request is loaded or has a fault in its options. -/
theorem loading_can_stop :
    ¬ ∀ (bs : Wire.Bytes) (job : Job), Job.read bs = .ok job →
      ∀ name type, job.pool.file? name = some type →
        (∃ file, job.file name = .ok file) ∨
        ∃ message, job.file name = .error (.fault (.options name message)) := by
  intro h
  -- the entry of a map has neither a key nor a value
  have hread : ((Job.read emptyEntryRequest).toOption.bind fun job =>
      (job.pool.file? "m.proto").map fun _ =>
        ((job.file "m.proto").toOption.isSome, optionsFault? (job.file "m.proto"))) =
      some (false, none) := by
    decide +kernel
  obtain ⟨job, hjob, hread⟩ := Option.bind_eq_some_iff.mp hread
  obtain ⟨type, htype, hread⟩ := Option.map_eq_some_iff.mp hread
  obtain ⟨hloaded, hfault⟩ := Prod.mk.inj hread
  obtain ⟨file, hfile⟩ | ⟨message, hfile⟩ :=
    h emptyEntryRequest job (toOption_eq_some_iff.mp hjob) "m.proto" type htype
  · rw [hfile] at hloaded
    cases hloaded
  · rw [hfile] at hfault
    cases hfault

end ProtoRest.Plugin
