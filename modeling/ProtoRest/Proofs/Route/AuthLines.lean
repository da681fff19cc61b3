import ProtoRest.Proofs.Route.OtherSettings
import ProtoRest.Proofs.Route.ParameterLists
import ProtoRest.Proofs.Setting.PlainLines

/-! # Authentication lines
The authentication line of a binding is the line of its method, or that of the settings, without its
comment marker (`authLine_eq`). It stands in the documentation as it is, where all other lines start
with a tag, so the documentation starts a line with a marker exactly where the line that was given hides
one behind another (`auth_lines_keep_hidden_markers`). -/

namespace ProtoRest.Route

open ProtoRest.Schema ProtoRest.Setting ProtoRest.Text ProtoRest.Result

/-! ## Where the line comes from -/

/-- The line that documents authentication, as it was given: that of the method if anything is left of
it, and that of the settings otherwise. -/
def authSource (settings : RouteSettings) (method : Method) : String :=
  (method.authLine.filter (plainLine · ≠ "")).getD settings.authLine

/-- The authentication line of a method is made of its source. -/
theorem authLine_eq {settings : RouteSettings} {service : Service} {method : Method} {line : String}
    (h : authLine settings service method = some line) :
    line = plainLine (authSource settings method) := by
  -- a line of its own counts unless nothing is left of it
  have hown : (method.authLine.map plainLine).filter (· ≠ "") =
      (method.authLine.filter (plainLine · ≠ "")).map plainLine := by
    cases method.authLine with
    | none => rfl
    | some own =>
      rw [Option.map_some, Option.filter_some, Option.filter_some, apply_ite (Option.map plainLine)]
      rfl
  rw [authLine, hown] at h
  rw [authSource]
  cases hsource : method.authLine.filter (plainLine · ≠ "") with
  | none =>
    rw [hsource] at h
    exact (Option.some.inj (Option.ite_none_right_eq_some.mp h).2).symm
  | some own =>
    rw [hsource] at h
    exact (Option.some.inj h).symm

/-! ## The other lines -/

/-- A line starts with the sign of a tag. -/
def StartsWithTag (line : String) : Prop := line.toList.head? = some '@'

instance (line : String) : Decidable (StartsWithTag line) :=
  inferInstanceAs (Decidable (line.toList.head? = some '@'))

/-- A line that starts with a tag does so with any text behind it. -/
theorem startsWithTag_append {line : String} (h : StartsWithTag line) (rest : String) :
    StartsWithTag (line ++ rest) := by
  rw [StartsWithTag, String.toList_append]
  exact List.mem_head?_append_of_mem_head? h

/-- The lines in front of the authentication line start with tags. -/
theorem startsWithTag_of_mem_leadLines (package : String) (service : Service) (method : Method) :
    ∀ line ∈ leadLines package service method, StartsWithTag line := by
  rw [leadLines, List.forall_mem_append, List.forall_mem_append]
  refine ⟨⟨?_, ?_⟩, ?_⟩
  · exact List.forall_mem_singleton.mpr (startsWithTag_append (by decide) _)
  · split_ifs
    · exact List.forall_mem_nil _
    · exact List.forall_mem_singleton.mpr (startsWithTag_append (by decide) _)
  · simp only [List.forall_mem_cons]
    refine ⟨?_, rfl, rfl, List.forall_mem_nil _⟩
    exact startsWithTag_append (startsWithTag_append (startsWithTag_append
      (startsWithTag_append (startsWithTag_append (by decide) _) _) _) _) _

/-- The line of a parameter starts with a tag. -/
theorem startsWithTag_paramLine (place required : String) (p : BoundField) :
    StartsWithTag (paramLine place required p) := by
  rw [paramLine_eq]
  simp only [String.append_assoc]
  exact startsWithTag_append (by decide) _

/-- The lines behind the authentication line start with tags. -/
theorem startsWithTag_of_mem_detailLines (method : Method) (b : Binding) :
    ∀ line ∈ detailLines method b, StartsWithTag line := by
  simp only [detailLines, List.forall_mem_append, List.forall_mem_map]
  refine ⟨⟨⟨⟨fun p _ => startsWithTag_paramLine _ _ p, fun p _ => startsWithTag_paramLine _ _ p⟩, ?_⟩,
    ?_⟩, ?_⟩
  · split_ifs
    · rw [List.forall_mem_singleton, String.append_assoc]
      exact startsWithTag_append (by decide) _
    · exact List.forall_mem_nil _
  · rw [List.forall_mem_singleton]
    cases b.response <;> exact startsWithTag_append (by decide) _
  · simp only [List.forall_mem_cons, String.append_assoc]
    exact ⟨rfl, startsWithTag_append (by decide) _, List.forall_mem_nil _⟩

/-! ## Main statement -/

section

variable {settings : RouteSettings} {package : String} {service : Service} {method : Method}
  {index : Nat} {rule : HttpRule} {b : Binding}

/-- Of the lines of the documentation only the authentication line can start with a marker. -/
theorem mem_doc_iff (h : bindingOfRule settings package service method index rule = .ok b)
    {line : String} (hmarker : StartsWithMarker line) : line ∈ b.doc ↔ b.authLine = some line := by
  have hnotTag : ¬StartsWithTag line := by
    intro htag
    rw [StartsWithTag, hmarker] at htag
    exact absurd htag (by decide)
  have hlead := fun hmem =>
    hnotTag (startsWithTag_of_mem_leadLines package service method line hmem)
  have hdetail := fun hmem => hnotTag (startsWithTag_of_mem_detailLines method b line hmem)
  rw [doc_of_bindingOfRule h, docLines_eq, List.mem_append, List.mem_append, or_iff_left hdetail,
    or_iff_right hlead, Option.mem_toList]

/-- A binding has its authentication line from a line that was given for it. -/
structure Binding.CarriesLineOf (source : String) (b : Binding) : Prop where
  /-- The authentication line is what is left of the line that was given. -/
  plain : ∀ line ∈ b.authLine, line = plainLine source
  /-- The documentation has it as it is. -/
  documented : ∀ line ∈ b.authLine, line ∈ b.doc
  /-- The documentation starts a line with a marker exactly if the line that was given hides one. -/
  marked : ∀ line, StartsWithMarker line →
    (line ∈ b.doc ↔ b.authLine = some line ∧ HidesMarker source)

/-- A bound rule carries the authentication line made of its method's source. -/
theorem carriesLineOf_of_bindingOfRule
    (h : bindingOfRule settings package service method index rule = .ok b) :
    b.CarriesLineOf (authSource settings method) := by
  have hplain : ∀ line ∈ b.authLine, line = plainLine (authSource settings method) := by
    intro line hline
    rw [authLine_of_bindingOfRule h] at hline
    exact authLine_eq hline
  refine ⟨hplain, fun line hline => ?_, fun line hmarker => ?_⟩
  · rw [doc_of_bindingOfRule h, docLines_eq, hline]
    simp
  · rw [mem_doc_iff h hmarker]
    refine (and_iff_left_of_imp fun hline => ?_).symm
    rw [hplain line hline, startsWithMarker_plainLine_iff] at hmarker
    exact hmarker

end

/-- A documentation line loses no more than one comment marker. What is left is trimmed, and it starts
with a marker, and a second pass would change it, exactly when another marker stands behind the first
one and some blanks. So it is for the bindings of a file: the documentation has their authentication
lines as they are left, from the method or from the settings, and of its lines it starts only those
with a marker that hid one. -/
theorem auth_lines_keep_hidden_markers (settings : RouteSettings) (file : File) :
    (∀ line, LosesMarker line (plainLine line) ∧ IsTrimmed (plainLine line).toList ∧
      (StartsWithMarker (plainLine line) ↔ HidesMarker line) ∧
      (plainLine (plainLine line) = plainLine line ↔ ¬HidesMarker line)) ∧
    ∀ table, Table.ofFile settings file = .ok table →
      List.Forall₂ (fun site b => b.CarriesLineOf (authSource settings site.method)) (sites file)
        table.bindings := by
  refine ⟨fun line => ⟨losesMarker_plainLine line, isTrimmed_plainLine line,
    startsWithMarker_plainLine_iff line, plainLine_plainLine_iff line⟩, fun table h => ?_⟩
  obtain ⟨hclean, rfl⟩ := (ofFile_eq_ok_iff settings file).mp h
  exact (forall₂_bindings settings file hclean).imp fun site b hb => carriesLineOf_of_bindingOfRule hb

/-- A file with a service that asks for authentication. -/
def keysFile : File where
  name := "keys.proto"
  package := "keys.v1"
  services :=
    [{ name := "Keys", fullName := "keys.v1.Keys", comment := "", auth := true
       methods :=
        [{ name := "List", fullName := "keys.v1.Keys.List", comment := ""
           input := ⟨⟨"keys.v1.Query", "Query", "Query"⟩, []⟩
           output := ⟨⟨"keys.v1.Keys", "Keys", "Keys"⟩, []⟩
           rule := some (.mk "" (some (.get "/keys")) "" "" [])
           auth := false, authLine := none, clientStreaming := false, serverStreaming := false }] }]
  enums := []

/-- Two markers with a blank between them: the second one is left, a second pass takes it, and the
documentation of a binding has it. -/
theorem markers_can_be_left :
    (¬ ∀ line, ¬StartsWithMarker (plainLine line)) ∧
    (¬ ∀ line, plainLine (plainLine line) = plainLine line) ∧
    ¬ ∀ (settings : RouteSettings) (file : File) (table : Table),
      Table.ofFile settings file = .ok table →
        ∀ b ∈ table.bindings, ∀ line ∈ b.authLine, ¬StartsWithMarker line := by
  -- of two markers one is taken off
  have hleft : plainLine "// // @Security ApiKeyAuth" = "// @Security ApiKeyAuth" := by decide +kernel
  have hagain : plainLine "// @Security ApiKeyAuth" = "@Security ApiKeyAuth" := by decide +kernel
  have hmarker : StartsWithMarker "// @Security ApiKeyAuth" := by decide
  refine ⟨fun h => ?_, fun h => ?_, fun h => ?_⟩
  · exact h "// // @Security ApiKeyAuth" (by rw [hleft]; exact hmarker)
  · have hsame := h "// // @Security ApiKeyAuth"
    rw [hleft, hagain] at hsame
    exact absurd hsame (by decide)
  · have hrun : ((Table.ofFile { authLine := "// // @Security ApiKeyAuth" } keysFile).toOption.map
        fun table => table.bindings.map (·.authLine)) = some [some "// @Security ApiKeyAuth"] := by
      decide +kernel
    obtain ⟨table, htable, hlines⟩ := Option.map_eq_some_iff.mp hrun
    obtain ⟨b, hb, hline⟩ := List.map_eq_singleton_iff.mp hlines
    exact h _ keysFile table (toOption_eq_some_iff.mp htable) b (by simp [hb]) _ hline hmarker

end ProtoRest.Route
