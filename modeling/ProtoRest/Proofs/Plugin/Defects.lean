import Mathlib.Tactic.SplitIfs
import ProtoRest.Plugin.Tool
import ProtoRest.Proofs.ErrorSet.TableVerdict
import ProtoRest.Proofs.Plugin.NamedFiles
import ProtoRest.Proofs.Route.TableVerdict

/-! # Defects of generation
Work on one file should never end the run for all of them. It does where names of a schema cannot be
read back from generated code, although they are names like others, and nowhere else
(`generation_is_fatal_iff_illegible`). -/

namespace ProtoRest.Plugin

open ProtoRest.Code ProtoRest.Descriptor ProtoRest.Route ProtoRest.Schema ProtoRest.Setting Result

/-! ## Tools -/

section Routes

variable {settings : RouteSettings} {file : File}

/-- A file with an empty table has only legible sites. -/
theorem forall_isLegible_of_isEmpty {table : Route.Table}
    (h : Route.Table.ofFile settings file = .ok table) (hempty : table.isEmpty = true) :
    ∀ site ∈ sites file, site.isLegible settings file.package = true := by
  obtain ⟨hclean, rfl⟩ := (ofFile_eq_ok_iff settings file).mp h
  have hservices := forall₂_services settings file hclean
  rw [Route.Table.isEmpty, List.isEmpty_iff] at hempty
  rw [hempty, List.forall₂_nil_right_iff] at hservices
  rw [forall_isLegible_iff, hservices]
  simp

/-- Legible sites decide whether the file of an accepted table is generated. -/
theorem decides_routesFile (hfile : IsNamedFile file) {table : Route.Table}
    (h : Route.Table.ofFile settings file = .ok table) (version : Option String) :
    Decides (∀ site ∈ sites file, site.isLegible settings file.package = true) (fun _ => True)
      (routesFile settings version file) := by
  have hrun : routesFile settings version file =
      if table.isEmpty then .ok none
      else table.render (Code.header routesCommand.name version file.name) >>= fun content =>
        pure (some { name := file.stem ++ ".sphere.rs", content }) := by
    rw [routesFile, h]
    rfl
  rw [hrun]
  split_ifs with hempty
  · exact (Decides.of_eq_ok rfl trivial).congr
      (iff_of_true trivial (forall_isLegible_of_isEmpty h hempty))
  · exact (Route.decides_render hfile.services h _).map fun _ _ => trivial

/-- The route bindings of a file end the whole run exactly when it has a table and one of its sites
is not legible. -/
theorem routesFile_fatal_iff (hfile : IsNamedFile file) (version : Option String) :
    (∃ failure, routesFile settings version file = .error failure ∧ failure.isFatal = true) ↔
      (∃ table, Route.Table.ofFile settings file = .ok table) ∧
        ∃ site ∈ sites file, site.isLegible settings file.package = false := by
  cases h : Route.Table.ofFile settings file with
  | error fault =>
    have hrun : routesFile settings version file = .error (.fault fault) := by
      rw [routesFile, h]
      rfl
    refine iff_of_false ?_ (by simp)
    rintro ⟨failure, hfailure, hfatal⟩
    obtain rfl := Except.error.inj (hrun.symm.trans hfailure)
    rw [Failure.isFatal, not_fatal_of_ofFile settings file h] at hfatal
    cases hfatal
  | ok table =>
    rw [(decides_routesFile hfile h version).fatal_iff]
    simp

end Routes

section Errors

variable {file : File} (hfile : IsNamedFile file) (version : Option String)

include hfile

/-- Legible error sets decide whether their file is generated. -/
theorem decides_errorsFile :
    Decides (∀ e ∈ file.enums.filter (·.isErrorSet), ErrorSet.isLegible e = true) (fun _ => True)
      (errorsFile version file) := by
  obtain ⟨table, h⟩ := ErrorSet.exists_table hfile.statuses
  have hrun : errorsFile version file =
      if table.isEmpty then .ok none
      else table.render (Code.header errorsCommand.name version file.name) >>= fun content =>
        pure (some { name := file.stem ++ ".errors.rs", content }) := by
    rw [errorsFile, h]
    rfl
  rw [hrun]
  -- without error sets there is no file to generate, and nothing in it to be illegible
  split_ifs with hempty
  · have hsets := ErrorSet.forall₂_enums h
    rw [ErrorSet.Table.isEmpty, List.isEmpty_iff] at hempty
    rw [hempty, List.forall₂_nil_right_iff] at hsets
    rw [hsets]
    exact (Decides.of_eq_ok rfl trivial).congr (by simp)
  · exact (ErrorSet.decides_render hfile.enums h _).map fun _ _ => trivial

/-- The error sets of a file end the whole run exactly when one of them is not legible. -/
theorem errorsFile_fatal_iff :
    (∃ failure, errorsFile version file = .error failure ∧ failure.isFatal = true) ↔
      ∃ e ∈ file.enums, e.isErrorSet = true ∧ ErrorSet.isLegible e = false := by
  rw [(decides_errorsFile hfile version).fatal_iff]
  simp

end Errors

/-! ## Main statement -/

/-- Generating a file that is loaded from declarations with names ends the whole run exactly when
something that its code mentions cannot be read back: for route bindings, when the file has a table
and a site of it is not legible; for error sets, when one of them is not legible. -/
theorem generation_is_fatal_iff_illegible {decls : List FileDecl}
    (hdecls : ∀ d ∈ decls, d.isNamed = true) {pool : Pool} (hpool : Pool.ofDecls decls = .ok pool)
    {type : FileType} (htype : type ∈ pool.files) {file : File}
    (hload : Loader.load ⟨pool, type⟩ = .ok file) (settings : RouteSettings)
    (version : Option String) :
    ((∃ failure, routesFile settings version file = .error failure ∧ failure.isFatal = true) ↔
      (∃ table, Route.Table.ofFile settings file = .ok table) ∧
        ∃ site ∈ sites file, site.isLegible settings file.package = false) ∧
    ((∃ failure, errorsFile version file = .error failure ∧ failure.isFatal = true) ↔
      ∃ e ∈ file.enums, e.isErrorSet = true ∧ ErrorSet.isLegible e = false) := by
  have hfile := isNamedFile_of_load (l := ⟨pool, type⟩) (isNamedPool_ofDecls hdecls hpool) htype hload
  exact ⟨routesFile_fatal_iff hfile version, errorsFile_fatal_iff hfile version⟩

/-! ## A name that ends the run -/

/-- The options of enums, which other files can extend. -/
def enumOptionsDecl : FileDecl :=
  .ofFields
    [(1, .text "options.proto"), (2, .text "google.protobuf"),
     (4, .message
       [(1, .text "EnumOptions"), (5, .message [(1, .varint 1000), (2, .varint 536870912)])])]

/-- An error set with a value whose name has a digit after its underscore. -/
def digitValueDecl : FileDecl :=
  .ofFields
    [(1, .text "errors.proto"), (2, .text "sphere.errors"), (3, .text "options.proto"),
     (5, .message
       [(1, .text "Reason"), (2, .message [(1, .text "_1")]), (3, .message [(50001, .varint 404)])]),
     (7, .message
       [(1, .text "default_status"), (2, .text ".google.protobuf.EnumOptions"), (3, .varint 50001),
        (5, .varint 5)])]

/-- The declared enum with a value of an underscore and a digit is loaded, and is not legible. -/
theorem exists_file_of_digitValueDecl :
    ∃ pool type file, Pool.ofDecls [enumOptionsDecl, digitValueDecl] = .ok pool ∧
      type ∈ pool.files ∧ Loader.load ⟨pool, type⟩ = .ok file ∧
      ∃ e ∈ file.enums, e.isErrorSet = true ∧ ErrorSet.isLegible e = false := by
  have hrun : ((Pool.ofDecls [enumOptionsDecl, digitValueDecl]).toOption.bind fun pool =>
      (pool.file? digitValueDecl.name).bind fun type =>
        (Loader.load ⟨pool, type⟩).toOption.map fun file =>
          file.enums.any fun e => e.isErrorSet && !ErrorSet.isLegible e) = some true := by
    decide +kernel
  obtain ⟨pool, hpool, hrun⟩ := Option.bind_eq_some_iff.mp hrun
  obtain ⟨type, htype, hrun⟩ := Option.bind_eq_some_iff.mp hrun
  obtain ⟨file, hfile, henum⟩ := Option.map_eq_some_iff.mp hrun
  obtain ⟨e, he, hset⟩ := List.any_eq_true.mp henum
  rw [Bool.and_eq_true, Bool.not_eq_true'] at hset
  exact ⟨pool, type, file, toOption_eq_some_iff.mp hpool, List.mem_of_find?_eq_some htype,
    toOption_eq_some_iff.mp hfile, e, he, hset⟩

/-- The value has a name, but its variant would start with a digit. -/
theorem errors_of_digitValueDecl :
    ∃ pool type file, (∀ d ∈ [enumOptionsDecl, digitValueDecl], d.isNamed = true) ∧
      Pool.ofDecls [enumOptionsDecl, digitValueDecl] = .ok pool ∧ type ∈ pool.files ∧
      Loader.load ⟨pool, type⟩ = .ok file ∧
      ∃ failure, errorsFile none file = .error failure ∧ failure.isFatal = true := by
  obtain ⟨pool, type, file, hpool, htype, hload, henum⟩ := exists_file_of_digitValueDecl
  have hdecls : ∀ d ∈ [enumOptionsDecl, digitValueDecl], d.isNamed = true := by decide +kernel
  exact ⟨pool, type, file, hdecls, hpool, htype, hload,
    (generation_is_fatal_iff_illegible hdecls hpool htype hload {} none).2.mpr henum⟩

/-- Declarations with names alone do not keep a file from ending the whole run. -/
theorem names_do_not_prevent_fatal_faults :
    ¬ ∀ decls, (∀ d ∈ decls, d.isNamed = true) → ∀ pool, Pool.ofDecls decls = .ok pool →
      ∀ type ∈ pool.files, ∀ file, Loader.load ⟨pool, type⟩ = .ok file →
      ∀ failure, errorsFile none file = .error failure → failure.isFatal = false := by
  intro h
  obtain ⟨pool, type, file, hpool, htype, hload, henum⟩ := exists_file_of_digitValueDecl
  have hdecls : ∀ d ∈ [enumOptionsDecl, digitValueDecl], d.isNamed = true := by decide +kernel
  have hfile : IsNamedFile file :=
    isNamedFile_of_load (l := ⟨pool, type⟩) (isNamedPool_ofDecls hdecls hpool) htype hload
  obtain ⟨failure, hrun, hfatal⟩ := (errorsFile_fatal_iff hfile none).mpr henum
  rw [h _ hdecls pool hpool type htype file hload failure hrun] at hfatal
  cases hfatal

end ProtoRest.Plugin
