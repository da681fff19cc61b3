import ProtoRest.Plugin.Tool
import ProtoRest.Proofs.Plugin.FileFaults
import ProtoRest.Proofs.Result
import ProtoRest.Proofs.Wire.RoundTrip

/-! # Answers of the programs
What a program prints is read back as the response that its tool has for the input, or as the response
that only says what went wrong, and the number that it ends with says whether something did
(`printed_answer_is_the_response`). -/

namespace ProtoRest.Plugin

open ProtoRest.Setting ProtoRest.Wire Result

/-! ## Responses -/

namespace Response

/-- The fields of an output file conform to the grammar. -/
theorem conforms_fileFields (depth : Nat) (f : OutputFile) :
    Conforms grammar depth .file (fileFields f) := by
  have hname : IsFieldNumber 1 := by decide
  have hcontent : IsFieldNumber 15 := by decide
  exact .text hname rfl rfl (.text hcontent rfl rfl .nil)

/-- The fields of a response are those of its grammar. -/
theorem conforms_fields {r : Response} (hfeatures : ∀ bits ∈ r.features, bits < 2 ^ 64) (depth : Nat) :
    Conforms grammar (depth + 1) .response r.fields := by
  have hfiles (files : List OutputFile) : Conforms grammar (depth + 1) .response
      (files.map fun f => (15, .message (fileFields f))) := by
    induction files with
    | nil => exact .nil
    | cons f files ih => exact .message (by decide) rfl rfl (conforms_fileFields depth f) ih
  obtain ⟨error, features, files⟩ := r
  have hbits : Conforms grammar (depth + 1) .response
      (features.toList.map (fun bits => (2, .varint bits)) ++
        files.map fun f => (15, .message (fileFields f))) := by
    cases features with
    | none => exact hfiles files
    | some bits => exact .varint (by decide) rfl rfl (hfeatures bits rfl) (hfiles files)
  cases error with
  | none => exact hbits
  | some text => exact .text (by decide) rfl rfl hbits

/-- A response holds its error, its features and its files, in order, and nothing else. -/
theorem values_fields (r : Response) (number : Nat) :
    Fields.values r.fields number =
      (if number = 1 then r.error.toList.map .text else []) ++
        ((if number = 2 then r.features.toList.map .varint else []) ++
          if number = 15 then r.files.map (.message ∘ fileFields) else []) := by
  have hvalues {α : Type} (as : List α) (n : Nat) (f : α → Raw) :
      Fields.values (as.map fun a => (n, f a)) number = if number = n then as.map f else [] := by
    by_cases h : number = n
    · simp [Fields.values, List.filterMap_map, h]
    · simp [Fields.values, List.filterMap_map, h, Ne.symm h]
  rw [fields, Fields.values, List.filterMap_append, List.filterMap_append]
  simp only [← Fields.values.eq_1, hvalues]
  simp [Function.comp_def]

/-- An output file is read back from its fields. -/
theorem fileOfFields_fileFields (f : OutputFile) : fileOfFields (fileFields f) = f := by
  simp [fileOfFields, fileFields, Fields.text?, Fields.texts, Fields.values, Raw.text?]

/-- The fields of a response make it up again. -/
theorem ofFields_fields (r : Response) : ofFields r.fields = r := by
  obtain ⟨error, features, files⟩ := r
  have herror : Fields.text? (fields ⟨error, features, files⟩) 1 = error := by
    cases error <;> simp [Fields.text?, Fields.texts, values_fields, Raw.text?]
  have hfeatures : (Fields.nats (fields ⟨error, features, files⟩) 2).getLast? = features := by
    cases features <;> simp [Fields.nats, values_fields, Raw.nats]
  have hfiles : (Fields.messages (fields ⟨error, features, files⟩) 15).map fileOfFields = files := by
    have hmessages : (files.map (.message ∘ fileFields)).filterMap Raw.fields? =
        files.map fileFields := by
      rw [List.filterMap_map]
      exact congrFun List.filterMap_eq_map files
    have hid : fileOfFields ∘ fileFields = id := funext fileOfFields_fileFields
    simp [Fields.messages, values_fields, hmessages, hid]
  rw [ofFields, herror, hfeatures, hfiles]

/-- A response is read back from what is written for it. -/
theorem read_write {r : Response} (hfeatures : ∀ bits ∈ r.features, bits < 2 ^ 64)
    (hsize : r.write.length < 2 ^ 64) : read r.write = .ok r := by
  have hfields : grammar.read .response (writeFields r.fields) = .ok r.fields :=
    readAt_writeFields (conforms_fields hfeatures 99) hsize
  rw [read, write, hfields]
  exact congrArg Except.ok (ofFields_fields r)

/-- Every run that gives a response names the features. -/
theorem features_of_ofOutcomes {outcomes : List Outcome} {r : Response}
    (h : ofOutcomes outcomes = .ok r) : r.features = some supportedFeatures := by
  rw [ofOutcomes_eq_expected, expected] at h
  split at h
  · cases h
  · obtain rfl := Except.ok.inj h
    rfl

end Response

/-! ## Programs -/

namespace Tool

/-- Every response of a tool names the features. -/
theorem features_of_generate {tool : Tool} {process : List String} {input : Bytes} {r : Response}
    (h : tool.generate process input = .ok r) : r.features = some supportedFeatures := by
  rw [generate] at h
  obtain ⟨job, -, h⟩ := bind_eq_ok_iff.mp h
  obtain ⟨work, -, h⟩ := bind_eq_ok_iff.mp h
  exact Response.features_of_ofOutcomes (mapError_eq_ok_iff.mp h)

/-- What a process prints for a response is read back as the response. -/
theorem read_output_respond {r : Response} (hfeatures : r.features = some supportedFeatures)
    (hsize : (respond r).output.length < 2 ^ 64) : Response.read (respond r).output = .ok r := by
  refine Response.read_write (fun bits hbits => ?_) hsize
  rw [hfeatures] at hbits
  obtain rfl := Option.some.inj hbits
  decide

end Tool

/-- A process whose arguments are read prints a response, and nothing else, when its tool comes to an
end at all: the response of the tool, or the one that says what kept it from one. The process ends with
one exactly when the response that is read back says that something went wrong. The output is one that
a process can hold: its bytes are counted in 64 bits. -/
theorem printed_answer_is_the_response {tool : Tool} {process : List String} {input : Bytes}
    {given : Progress} {result : Except Fault Response}
    (hread : tool.command.readProcess process = .ok given)
    (hreturns : tool.generate process input = result.mapError .fault)
    (hsize : (tool.run process input).output.length < 2 ^ 64) :
    ∃ response, Response.read (tool.run process input).output = .ok response ∧
      (tool.run process input).exit = (if response.error.isSome then 1 else 0) ∧
      match result with
      | .ok answer => response = answer
      | .error fault => response = ⟨some fault.message, some 1, []⟩ := by
  -- the arguments could be read, so the tool does not end early
  have hrun : tool.run process input = tool.answer process input := by
    rw [Tool.run, Tool.early, hread]
    rfl
  rw [hrun] at hsize ⊢
  rw [Tool.answer, hreturns] at hsize ⊢
  cases result with
  | ok answer =>
    have hfeatures : answer.features = some supportedFeatures := Tool.features_of_generate hreturns
    exact ⟨answer, Tool.read_output_respond hfeatures hsize, rfl, rfl⟩
  | error fault =>
    exact ⟨.ofFault fault, Tool.read_output_respond rfl hsize, rfl, rfl⟩

/-- A file with a fault in its options: the response that is read back holds the text of the fault, and
the process ends with one. -/
theorem printed_answer_of_misreadRequest :
    let process := ["/opt/protoc-gen-sphere", "--omitempty", "--omitempty_prefix=/v1"]
    let ending := Tool.routes.run process misreadRequest
    ending.output.length < 2 ^ 64 ∧ ending.exit = 1 ∧
      Response.read ending.output = .ok
        ⟨some ("errors.proto: failed to parse options: sphere.errors.Reason: " ++
          "(sphere.errors.default_status) should be a int32 value, found String(\"teapot\")"),
          some 1, []⟩ := by
  intro process ending
  obtain ⟨given, hgiven⟩ : ∃ given, Tool.routes.command.readProcess process = .ok given := by
    have hsome : (Tool.routes.command.readProcess process).toOption.isSome = true := by decide +kernel
    obtain ⟨given, h⟩ := Option.isSome_iff_exists.mp hsome
    exact ⟨given, toOption_eq_some_iff.mp h⟩
  -- the run gives an answer, but one that reports a fault of the options
  have hanswer : (Tool.routes.generate process misreadRequest).toOption = some
      ⟨some ("errors.proto: failed to parse options: sphere.errors.Reason: " ++
        "(sphere.errors.default_status) should be a int32 value, found String(\"teapot\")"),
        some 1, []⟩ := by
    decide +kernel
  have hsize : ending.output.length < 2 ^ 64 := by decide +kernel
  have hreturns : Tool.routes.generate process misreadRequest =
      (Except.ok _ : Except Fault Response).mapError .fault := toOption_eq_some_iff.mp hanswer
  obtain ⟨response, hread, hexit, rfl⟩ := printed_answer_is_the_response hgiven hreturns hsize
  exact ⟨hsize, hexit, hread⟩

end ProtoRest.Plugin
