import ProtoRest.Plugin.Tool
import ProtoRest.Proofs.Plugin.EnumOptions
import ProtoRest.Proofs.Plugin.FileFaults
import ProtoRest.Proofs.Plugin.NamedFiles

/-! # Statuses of loaded files
Statuses are checked when a file is loaded and again when its error sets are built, of other values
and in other places. The first check lets nothing pass that the second one refuses, so that every file
that is loaded has its error sets (`loaded_files_have_error_sets`). -/

namespace ProtoRest.Plugin

open ProtoRest.Annotation ProtoRest.Descriptor ProtoRest.Schema Result

/-! ## The check of loading -/

/-- A status that is set for an enum or for one of its values, as long as it can be read. -/
inductive SetsStatus (p : Pool) (e : EnumType) (n : Int) : Prop
  /-- It is set for the enum. -/
  | default (h : (Options.of p .enum e.options).int32? defaultStatusName = .ok (some n))
  /-- It is set for a value, which may repeat the number of another one. -/
  | value {v : EnumValueType} (hv : v ∈ e.values) {options : ErrorOptions}
    (h : (Options.of p .enumValue v.options).message? errorOptionsName ErrorOptions.read =
      .ok (some options))
    (hn : options.status = some n)

/-- Every status that an accepted enum sets lies in the range. -/
theorem isStatus_of_accepts {l : Loader} {e : EnumType} (he : l.Accepts e) {n : Int}
    (hn : SetsStatus l.pool e n) : isStatus n = true := by
  obtain ⟨⟨status, hstatus, hchecked⟩, hvalues⟩ := he
  cases hn with
  | default h =>
    obtain rfl := Except.ok.inj (hstatus.symm.trans h)
    exact hchecked n rfl
  | value hv h hn =>
    obtain ⟨error, herror, hchecked⟩ := hvalues _ hv
    obtain rfl := Except.ok.inj (herror.symm.trans h)
    exact hchecked n hn

/-! ## The check of building -/

section Errors

variable {file : File} {version : Option String} {failure : Failure}

/-- With the error sets of a file at hand, only writing them out can fail. -/
theorem render_of_errorsFile_eq_error {table : ErrorSet.Table}
    (htable : ErrorSet.Table.ofFile file = .ok table)
    (h : errorsFile version file = .error failure) :
    table.render (Code.header Setting.errorsCommand.name version file.name) = .error failure := by
  rw [errorsFile, htable, mapError_ok, ok_bind] at h
  split_ifs at h
  · cases h
  · obtain h | ⟨_, -, h⟩ := bind_eq_error_iff.mp h
    · exact h
    · cases h

end Errors

/-! ## Main statement -/

/-- A file that is loaded has its error sets, so that generating code for it fails only where that code
cannot be written; and a status between the bounds is the only one that a loaded file can set, in
whatever enum and for whatever value. -/
theorem loaded_files_have_error_sets {job : Job} {name : String} {file : File}
    (h : job.file name = .ok file) :
    ErrorSet.Table.ofFile file = .ok (.expected file) ∧
    (∀ version failure, errorsFile version file = .error failure →
      (ErrorSet.Table.expected file).render
        (Code.header Setting.errorsCommand.name version file.name) = .error failure) ∧
    ∃ type, job.pool.file? name = some type ∧ ∀ e ∈ Loader.enums type, ∀ n,
      SetsStatus job.pool e.2 n → 100 ≤ n ∧ n ≤ 599 := by
  cases htype : job.pool.file? name with
  | none =>
    rw [Job.file, htype] at h
    cases h
  | some type =>
    -- loading checks every status, so no enum is refused later on
    have haccepts := acceptsAnnotations_of_file_eq_ok h type htype
    rw [file_eq_load htype] at h
    have htable : ErrorSet.Table.ofFile file = .ok (.expected file) := by
      refine ErrorSet.ofFile_eq_ok ?_
      rintro ⟨e, he, -, hrefused⟩
      exact (hasStatuses_of_load h e he).not_isRefused hrefused
    exact ⟨htable, fun _ _ => render_of_errorsFile_eq_error htable, type, rfl,
      fun e he n hn => isStatus_iff.mp (isStatus_of_accepts (haccepts e he) hn)⟩

/-- A request for a file with an enum in a message. Two values have a number in common, and the one of
them that does not become an error has a status that is given. -/
def lateRequest (status : Nat) : Wire.Bytes :=
  Wire.writeFields
    [(1, .text "errors.proto"),
     (15, .message
       [(1, .text "options.proto"), (2, .text "google.protobuf"),
        (4, .message
          [(1, .text "EnumOptions"),
           (2, .message
             [(1, .text "allow_alias"), (3, .varint 2), (4, .varint 1), (5, .varint 8)]),
           (5, .message [(1, .varint 1000), (2, .varint 536870912)])]),
        (4, .message
          [(1, .text "EnumValueOptions"),
           (5, .message [(1, .varint 1000), (2, .varint 536870912)])])]),
     (15, .message
       [(1, .text "errors.proto"), (2, .text "sphere.errors"), (3, .text "options.proto"),
        (4, .message
          [(1, .text "Error"),
           (2, .message [(1, .text "status"), (3, .varint 1), (4, .varint 1), (5, .varint 5)])]),
        (4, .message
          [(1, .text "Loan"),
           (4, .message
             [(1, .text "Reason"),
              (2, .message [(1, .text "LOST"), (2, .varint 0)]),
              (2, .message
                [(1, .text "LATE"), (2, .varint 1),
                 (3, .message [(50002, .message [(1, .varint status)])])]),
              (2, .message
                [(1, .text "OVERDUE"), (2, .varint 1),
                 (3, .message [(50002, .message [(1, .varint 410)])])]),
              (3, .message [(2, .varint 1), (50001, .varint 404)])])]),
        (7, .message
          [(1, .text "default_status"), (2, .text ".google.protobuf.EnumOptions"),
           (3, .varint 50001), (4, .varint 1), (5, .varint 5)]),
        (7, .message
          [(1, .text "options"), (2, .text ".google.protobuf.EnumValueOptions"),
           (3, .varint 50002), (4, .varint 1), (5, .varint 11), (6, .text ".sphere.errors.Error")])])]

/-- The value with a status that is given sets it, though it is no error of the file; and a status out of
bounds there is found when the file is loaded. -/
theorem error_sets_of_lateRequest :
    (∃ job file, Job.read (lateRequest 409) = .ok job ∧ job.file "errors.proto" = .ok file ∧
      ErrorSet.Table.ofFile file = .ok (.expected file) ∧
      ((ErrorSet.Table.expected file).enums.map fun set =>
        set.errors.map fun entry => (entry.name, entry.status)) =
          [[("LOST", 404), ("OVERDUE", 410)]] ∧
      ∃ type, job.pool.file? "errors.proto" = some type ∧
        ∃ e ∈ Loader.enums type, SetsStatus job.pool e.2 409) ∧
    ∃ job, Job.read (lateRequest 999) = .ok job ∧
      job.file "errors.proto" = .error (.fault (.options "errors.proto"
        "sphere.errors.Loan.LATE: status 999 is not a valid HTTP status code")) := by
  constructor
  · -- a status in the range is loaded, although its value is not the first of its number
    have hparts : ((Job.read (lateRequest 409)).toOption.bind fun job =>
        (job.file "errors.proto").toOption.bind fun file =>
        (job.pool.file? "errors.proto").bind fun type => (Loader.enums type).head?.bind fun e =>
        (e.2.values.find? (·.name == "LATE")).bind fun v =>
        ((Options.of job.pool .enumValue v.options).message? errorOptionsName
          ErrorOptions.read).toOption.map fun options =>
            (options, (ErrorSet.Table.expected file).enums.map fun set =>
              set.errors.map fun entry => (entry.name, entry.status))) =
        some (some { status := some 409 }, [[("LOST", 404), ("OVERDUE", 410)]]) := by
      decide +kernel
    obtain ⟨job, hjob, hparts⟩ := Option.bind_eq_some_iff.mp hparts
    obtain ⟨file, hfile, hparts⟩ := Option.bind_eq_some_iff.mp hparts
    obtain ⟨type, htype, hparts⟩ := Option.bind_eq_some_iff.mp hparts
    obtain ⟨e, he, hparts⟩ := Option.bind_eq_some_iff.mp hparts
    obtain ⟨v, hv, hparts⟩ := Option.bind_eq_some_iff.mp hparts
    obtain ⟨options, hoptions, hparts⟩ := Option.map_eq_some_iff.mp hparts
    obtain ⟨rfl, herrors⟩ := Prod.mk.inj hparts
    rw [toOption_eq_some_iff] at hjob hfile hoptions
    obtain ⟨htable, -, -⟩ := loaded_files_have_error_sets hfile
    exact ⟨job, file, hjob, hfile, htable, herrors, type, htype, e, List.mem_of_head? he,
      .value (List.mem_of_find?_eq_some hv) hoptions rfl⟩
  · -- a status out of the range is refused there
    have hparts : ((Job.read (lateRequest 999)).toOption.bind fun job =>
        optionsFault? (job.file "errors.proto")) =
        some ("errors.proto",
          "sphere.errors.Loan.LATE: status 999 is not a valid HTTP status code") := by
      decide +kernel
    obtain ⟨job, hjob, hfault⟩ := Option.bind_eq_some_iff.mp hparts
    exact ⟨job, toOption_eq_some_iff.mp hjob, eq_of_optionsFault? hfault⟩

end ProtoRest.Plugin
