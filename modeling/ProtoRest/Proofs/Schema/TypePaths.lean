import ProtoRest.Proofs.Schema.NamedPaths
import ProtoRest.Proofs.Text.Pieces
import ProtoRest.Schema.ModulePath

/-! # Paths from the names of types
The full name of a type is its package and its names with dots between them, so what `typePath`
makes of the text is what `wayOut` and `wayIn` say (`typePath_reference`). In particular the types
nested in the well-known ones keep the names of their parents, where every other package has modules
in snake case (`nested_wellKnown_types_keep_names`). -/

namespace ProtoRest.Schema

open ProtoRest.Code ProtoRest.Descriptor ProtoRest.Text

/-! ## Steps of paths -/

/-- The steps of a path are found again in its text. -/
theorem pathSteps_intercalate {steps : List String} (hne : steps ≠ [])
    (hsteps : ∀ step ∈ steps, ':' ∉ step.toList) :
    pathSteps ("::".intercalate steps).toList = steps.map String.toList := by
  obtain ⟨step, rest, rfl⟩ := List.exists_cons_of_ne_nil hne
  have hjoin : ("::".intercalate (step :: rest)).toList =
      joinWith [':', ':'] (step.toList :: rest.map String.toList) := by
    rw [toList_intercalate]
    rfl
  rw [hjoin, pathSteps_joinWith, List.map_cons]
  simpa using hsteps

/-- Steps without a colon are known from their path. -/
theorem intercalate_inj {steps steps' : List String} (hne : steps ≠ []) (hne' : steps' ≠ [])
    (hsteps : ∀ step ∈ steps, ':' ∉ step.toList) (hsteps' : ∀ step ∈ steps', ':' ∉ step.toList) :
    "::".intercalate steps = "::".intercalate steps' ↔ steps = steps' := by
  refine ⟨fun h => ?_, fun h => by rw [h]⟩
  have hmap := pathSteps_intercalate hne hsteps
  rw [h, pathSteps_intercalate hne' hsteps'] at hmap
  exact (List.map_injective_iff.mpr fun _ _ => String.toList_inj.mp) hmap.symm

/-- A name has no colon. -/
theorem colon_notMem {name : String} (h : HasNameChars name) : ':' ∉ name.toList :=
  fun hcolon => absurd (h ':' hcolon) (by decide)

/-! ## Names with dots between them -/

/-- Names with dots between them. -/
def dotted (names : List String) : List Char := joinWith ['.'] (names.map String.toList)

section Names

variable {names : List String}

/-- The first name stands before a dot and the other names. -/
theorem dotted_cons (name : String) (hne : names ≠ []) :
    dotted (name :: names) = name.toList ++ '.' :: dotted names := by
  obtain ⟨next, rest, rfl⟩ := List.exists_cons_of_ne_nil hne
  simp [dotted]

variable (hnames : ∀ name ∈ names, isName name = true)

include hnames

/-- No name has a dot. -/
theorem dot_notMem {text : List Char} (htext : text ∈ names.map String.toList) : '.' ∉ text := by
  obtain ⟨name, hname, rfl⟩ := List.mem_map.mp htext
  exact fun hdot => absurd (hasNameChars_of_isName (hnames name hname) '.' hdot) (by decide)

/-- The names are found again between the dots. -/
theorem splitAt_dotted (hne : names ≠ []) : splitAt '.' (dotted names) = names.map String.toList :=
  splitAt_joinWith (by simpa using hne) fun _ => dot_notMem hnames

/-- What starts with names starts with no dot. -/
theorem dropWhile_dotted (hne : names ≠ []) :
    (dotted names).dropWhile (· == '.') = dotted names := by
  refine dropWhile_of_head? fun c hc => ?_
  obtain ⟨name, rest, rfl⟩ := List.exists_cons_of_ne_nil hne
  obtain ⟨d, ds, htext, hd, -⟩ := exists_cons_of_isName (hnames name List.mem_cons_self)
  have hhead : (dotted (name :: rest)).head? = some d := by
    cases rest <;> simp [dotted, htext]
  obtain rfl : d = c := by simpa [hhead] using hc
  rw [beq_eq_false_iff_ne]
  rintro rfl
  exact absurd hd (by decide)

end Names

/-- Names are known from the text with dots between them. -/
theorem dotted_inj {names names' : List String} (hnames : ∀ name ∈ names, isName name = true)
    (hnames' : ∀ name ∈ names', isName name = true) (hne : names ≠ []) (hne' : names' ≠ [])
    (h : dotted names = dotted names') : names = names' := by
  have hsplit := congrArg (splitAt '.') h
  rw [splitAt_dotted hnames hne, splitAt_dotted hnames' hne'] at hsplit
  exact List.map_injective_iff.mpr (fun _ _ => String.toList_inj.mp) hsplit

/-- Names are at least as long as there are dots and one more. -/
theorem length_le_dotted (names : List String) : names.length ≤ (dotted names).length + 1 := by
  induction names with
  | nil => simp
  | cons name names ih =>
    cases names with
    | nil => simp
    | cons next names =>
      rw [dotted_cons name (by simp)]
      simp only [List.length_append, List.length_cons] at ih ⊢
      omega

/-! ## Full names -/

namespace NamedType

variable (fromPackage : String) (t : NamedType) (dots : Nat)

/-- The names of a type in its package. -/
def names : List String := t.parents ++ [t.name]

/-- The name of a type is the last of its names. -/
theorem names_ne_nil : t.names ≠ [] := by simp [names]

/-- All names of a type are names. -/
theorem isName_of_mem_names : ∀ name ∈ t.names, isName name = true := by
  intro name hname
  obtain hname | hname := List.mem_append.mp hname
  · exact t.named_parents name hname
  · rw [List.mem_singleton.mp hname]
    exact t.named_type

/-- The full name is made of the package and the names, with dots between them. -/
theorem toList_fullName : t.fullName.toList =
    if t.package = "" then dotted t.names else t.package.toList ++ '.' :: dotted t.names := by
  have hnames : (".".intercalate (t.parents ++ [t.name])).toList = dotted t.names :=
    toList_intercalate "." t.names
  rw [fullName, inScope]
  split_ifs
  · exact hnames
  · rw [String.toList_append, String.toList_append, hnames]
    simp

/-- A full name starts with no dot. -/
theorem dropWhile_fullName : t.fullName.toList.dropWhile (· == '.') = t.fullName.toList := by
  rw [toList_fullName]
  split_ifs with hempty
  · exact dropWhile_dotted t.isName_of_mem_names t.names_ne_nil
  · have hdotted := t.named_package.resolve_left hempty
    refine dropWhile_of_head? fun c hc => ?_
    rw [beq_eq_false_iff_ne]
    rintro rfl
    -- a package with a dot in front has an empty component
    cases hpackage : t.package.toList with
    | nil => exact hempty (String.toList_inj.mp hpackage)
    | cons d ds =>
      obtain rfl : d = '.' := by simpa [hpackage] using hc
      rw [isDottedName, hpackage] at hdotted
      simp [Text.splitAt, splitWhere, isName] at hdotted

/-- A reference is the full name behind its dots. -/
theorem dropWhile_reference :
    (t.reference dots).toList.dropWhile (· == '.') = t.fullName.toList := by
  rw [reference, String.toList_append, String.toList_ofList, List.dropWhile_append_of_pos,
    dropWhile_fullName]
  intro c hc
  rw [List.eq_of_mem_replicate hc]
  rfl

/-- Without the package the names are left. -/
theorem nameInPackage_fullName :
    nameInPackage t.package.toList t.fullName.toList = dotted t.names := by
  have hself := dropWhile_dotted t.isName_of_mem_names t.names_ne_nil
  rw [nameInPackage, toList_fullName]
  by_cases hempty : t.package = ""
  · simp [hempty]
  · have hne : t.package.toList ≠ [] := fun h => hempty (String.toList_inj.mp h)
    have hprefix : t.package.toList.isPrefixOf (t.package.toList ++ '.' :: dotted t.names) = true :=
      List.isPrefixOf_iff_prefix.mpr (List.prefix_append _ _)
    rw [if_neg hempty, if_pos hprefix, if_neg hne, List.drop_left,
      List.dropWhile_cons_of_pos (by rfl), hself]

end NamedType

/-! ## The home of the well-known types -/

/-- A path to a well-known type starts with the module of these types. -/
theorem intercalate_home {steps : List String} (hne : steps ≠ []) :
    "::".intercalate (["", "prost_types"] ++ steps) = "::prost_types::" ++ "::".intercalate steps := by
  obtain ⟨step, rest, rfl⟩ := List.exists_cons_of_ne_nil hne
  rw [List.cons_append, List.cons_append, List.nil_append, String.intercalate_cons_cons,
    String.intercalate_cons_cons, ← String.append_assoc, ← String.append_assoc]
  rfl

/-- Where there is no copy at the start, nothing is dropped. -/
theorem dropCopies_of_not_prefix {start cs : List Char} (h : ¬start.isPrefixOf cs = true) (n : Nat) :
    dropCopies start n cs = cs := by
  cases n with
  | zero => rfl
  | succ n => rw [dropCopies, if_neg fun hstart => h hstart.2]

/-- A copy at the start is dropped. -/
theorem dropCopies_append {start : List Char} (hne : start ≠ []) (n : Nat) (cs : List Char) :
    dropCopies start (n + 1) (start ++ cs) = dropCopies start n cs := by
  have hprefix : start.isPrefixOf (start ++ cs) = true :=
    List.isPrefixOf_iff_prefix.mpr (List.prefix_append _ _)
  rw [dropCopies, if_pos ⟨hne, hprefix⟩, List.drop_left]

/-- What is written before the names of a well-known type. -/
def home : List Char := "google.protobuf.".toList

/-- Names behind those of the well-known package have its text before them. -/
theorem dotted_home (names : List String) (hne : names ≠ []) :
    dotted ("google" :: "protobuf" :: names) = home ++ dotted names := by
  rw [dotted_cons _ (by simp), dotted_cons _ hne]
  rfl

/-- Names that start with the home of the well-known types have its components in front. -/
theorem exists_of_home_prefix {names : List String} (hnames : ∀ name ∈ names, isName name = true)
    (hne : names ≠ []) (h : home <+: dotted names) :
    ∃ rest, rest ≠ [] ∧ names = "google" :: "protobuf" :: rest := by
  obtain ⟨text, htext⟩ := h
  have hsplit : names.map String.toList =
      "google".toList :: "protobuf".toList :: Text.splitAt '.' text := by
    rw [← splitAt_dotted hnames hne, ← htext, ← splitAt_append (by decide),
      ← splitAt_append (by decide)]
    rfl
  obtain ⟨a, names, rfl, ha, hsplit⟩ := List.map_eq_cons_iff.mp hsplit
  obtain ⟨b, rest, rfl, hb, hsplit⟩ := List.map_eq_cons_iff.mp hsplit
  rw [String.toList_inj] at ha hb
  refine ⟨rest, ?_, by rw [ha, hb]⟩
  rintro rfl
  exact splitWhere_ne_nil _ text hsplit.symm

namespace NamedType

/-- Messages stay when the first two of them are called otherwise. -/
theorem withoutHome_of_ne {a b : String} {rest : List String}
    (h : ¬(a = "google" ∧ b = "protobuf")) : withoutHome (a :: b :: rest) = a :: b :: rest := by
  rw [withoutHome, if_neg h]

/-- Messages stay when there are fewer than two. -/
theorem withoutHome_of_short {parents : List String}
    (h : ∀ a b rest, parents = a :: b :: rest → False) : withoutHome parents = parents := by
  rw [withoutHome]
  exact h

/-- Leaving out the home from the text leaves out its components. -/
theorem dropCopies_dotted (parents : List String) (name : String)
    (hparents : ∀ parent ∈ parents, isName parent = true) (hname : isName name = true) {n : Nat}
    (hfuel : parents.length ≤ n) :
    dropCopies home n (dotted (parents ++ [name])) = dotted (withoutHome parents ++ [name]) := by
  -- names that do not start with the home of the well-known types stay as they are
  have hstay (parents : List String) (hparents : ∀ parent ∈ parents, isName parent = true)
      (hhome : ∀ rest, parents ≠ "google" :: "protobuf" :: rest) (n : Nat) :
      dropCopies home n (dotted (parents ++ [name])) = dotted (parents ++ [name]) := by
    refine dropCopies_of_not_prefix (fun hprefix => ?_) n
    have hnames : ∀ part ∈ parents ++ [name], isName part = true := by
      simpa [or_imp, forall_and, hname] using hparents
    obtain ⟨rest, hne, hrest⟩ :=
      exists_of_home_prefix hnames (by simp) (List.isPrefixOf_iff_prefix.mp hprefix)
    refine hhome rest.dropLast ?_
    have hdrop := congrArg List.dropLast hrest
    rw [List.dropLast_concat] at hdrop
    rw [hdrop, List.dropLast_cons_of_ne_nil (by simp), List.dropLast_cons_of_ne_nil hne]
  induction parents using withoutHome.induct generalizing n with
  | case1 a b rest hhome ih =>
    obtain ⟨rfl, rfl⟩ := hhome
    obtain ⟨m, rfl⟩ : ∃ m, n = m + 1 := ⟨n - 1, by simp at hfuel; omega⟩
    rw [withoutHome, if_pos ⟨rfl, rfl⟩, List.cons_append, List.cons_append,
      dotted_home _ (by simp), dropCopies_append (by decide)]
    simp only [List.forall_mem_cons] at hparents
    exact ih hparents.2.2 (by simp at hfuel; omega)
  | case2 a b rest hhome =>
    rw [withoutHome_of_ne hhome]
    refine hstay _ hparents (fun rest' heq => hhome ?_) n
    simp only [List.cons.injEq] at heq
    exact ⟨heq.1, heq.2.1⟩
  | case3 parents hshort =>
    rw [withoutHome_of_short hshort]
    exact hstay _ hparents (fun rest heq => hshort _ _ rest heq) n

/-- Only messages at the front are dropped. -/
theorem withoutHome_suffix (parents : List String) : withoutHome parents <:+ parents := by
  induction parents using withoutHome.induct with
  | case1 a b rest hhome ih =>
    rw [withoutHome, if_pos hhome]
    exact ih.trans ((List.suffix_cons b rest).trans (List.suffix_cons a (b :: rest)))
  | case2 a b rest hhome => exact (withoutHome_of_ne hhome).symm ▸ List.suffix_rfl
  | case3 parents hshort => exact (withoutHome_of_short hshort).symm ▸ List.suffix_rfl

/-- What is left of the messages around a type, and the type, have names. -/
theorem isName_of_mem_withoutHome (t : NamedType) :
    ∀ part ∈ withoutHome t.parents ++ [t.name], isName part = true := by
  intro part hpart
  obtain hpart | hpart := List.mem_append.mp hpart
  · exact t.named_parents part ((withoutHome_suffix t.parents).subset hpart)
  · rw [List.mem_singleton.mp hpart]
    exact t.named_type

variable {fromPackage : String} {t : NamedType}

/-- The full name of a well-known type is that of its package and its names. -/
theorem toList_fullName_of_home (hpackage : t.package = wellKnownPackage) :
    t.fullName.toList = dotted ("google" :: "protobuf" :: t.names) := by
  have hne : wellKnownPackage ≠ "" := by decide
  rw [toList_fullName, hpackage, if_neg hne, dotted_home _ t.names_ne_nil]
  rfl

/-- Only the empty message has its full name. -/
theorem eq_empty_of_fullName (hpackage : t.package = wellKnownPackage)
    (h : t.fullName.toList = "google.protobuf.Empty".toList) : t.parents = [] ∧ t.name = "Empty" := by
  have hhome : ∀ part ∈ ["google", "protobuf"], isName part = true := by decide
  rw [toList_fullName_of_home hpackage] at h
  have hempty : "google.protobuf.Empty".toList = dotted ["google", "protobuf", "Empty"] := rfl
  rw [hempty] at h
  have hnames := dotted_inj (List.forall_mem_append.mpr ⟨hhome, t.isName_of_mem_names⟩) (by decide)
    (by simp) (by simp) h
  simpa [names, List.append_eq_cons_iff] using hnames

/-- The path of a well-known type from another package. -/
theorem wellKnownPath_fullName (hpackage : t.package = wellKnownPackage)
    (hpath : ¬(t.parents = [] ∧ t.name = "Empty")) :
    wellKnownPath t.fullName.toList =
      "::".intercalate (["", "prost_types"] ++ (withoutHome t.parents ++ [t.name])) := by
  have hhome : ∀ part ∈ ["google", "protobuf"], isName part = true := by decide
  have hparents : ∀ part ∈ "google" :: "protobuf" :: t.parents, isName part = true :=
    List.forall_mem_append.mpr ⟨hhome, t.named_parents⟩
  -- the text is long enough to leave out every home, also those among the parents
  have hdrop : dropCopies home t.fullName.toList.length t.fullName.toList =
      dotted (withoutHome t.parents ++ [t.name]) := by
    have hfuel := length_le_dotted ("google" :: "protobuf" :: t.names)
    rw [← toList_fullName_of_home hpackage] at hfuel
    have hname : t.fullName.toList = dotted ("google" :: "protobuf" :: t.parents ++ [t.name]) :=
      toList_fullName_of_home hpackage
    rw [hname, dropCopies_dotted _ _ hparents t.named_type, withoutHome, if_pos ⟨rfl, rfl⟩]
    rw [← hname]
    simpa [names] using hfuel
  rw [wellKnownPath, if_neg fun h => hpath (eq_empty_of_fullName hpackage h)]
  show "::prost_types::" ++ String.ofList (joinWith [':', ':'] (Text.splitAt '.'
    (dropCopies home t.fullName.toList.length t.fullName.toList))) = _
  rw [hdrop, splitAt_dotted t.isName_of_mem_withoutHome (by simp), intercalate_home (by simp),
    String.append_right_inj, ← String.toList_inj, String.toList_ofList, toList_intercalate]
  rfl

/-- The empty message goes by the type of no value. -/
theorem typePath_of_hasNoPath (h : t.HasNoPath fromPackage) (dots : Nat) :
    typePath fromPackage t.package (t.reference dots) = "()" := by
  obtain ⟨hhome, hparents, hname⟩ := h
  have hcase : t.package = wellKnownPackage ∧ fromPackage ≠ t.package := hhome
  have hempty : t.fullName.toList = "google.protobuf.Empty".toList := by
    rw [toList_fullName_of_home hhome.1, names, hparents, hname]
    decide
  rw [typePath, dropWhile_reference, if_pos hcase, wellKnownPath, if_pos hempty]

/-- The path of a type leads out of the package it is named from and in to the type. -/
theorem typePath_reference (hpath : ¬t.HasNoPath fromPackage) (dots : Nat) :
    typePath fromPackage t.package (t.reference dots) =
      "::".intercalate (t.wayOut fromPackage ++ t.wayIn fromPackage) := by
  rw [typePath, dropWhile_reference, wayOut, wayIn]
  by_cases hhome : t.IsWellKnown fromPackage
  · have hcase : t.package = wellKnownPackage ∧ fromPackage ≠ t.package := hhome
    rw [if_pos hcase, if_pos hhome, if_pos hhome]
    exact wellKnownPath_fullName hhome.1 fun hempty => hpath ⟨hhome, hempty⟩
  · -- the parts of the full name are the parents and the name itself
    have hcase : ¬(t.package = wellKnownPackage ∧ fromPackage ≠ t.package) := hhome
    have hnames : (Text.splitAt '.' (nameInPackage t.package.toList t.fullName.toList)).map
        String.ofList = t.parents ++ [t.name] := by
      rw [nameInPackage_fullName, splitAt_dotted t.isName_of_mem_names t.names_ne_nil,
        List.map_map]
      simp [names]
    rw [if_neg hcase, if_neg hhome, if_neg hhome]
    simp only [hnames, List.dropLast_concat, List.getLast?_concat, Option.getD_some]
    rw [List.append_assoc]
    rfl

/-! ## Steps of ways -/

/-- The parts of a package are names. -/
theorem isName_of_mem_packageParts : ∀ part ∈ packageParts t.package, isName part = true := by
  intro part hpart
  obtain hempty | hdotted := t.named_package
  · rw [hempty] at hpart
    cases hpart
  · rw [packageParts] at hpart
    obtain ⟨text, htext, rfl⟩ := List.mem_map.mp hpart
    exact List.all_eq_true.mp hdotted text (List.mem_of_mem_filter htext)

/-- The steps that lead out are made of the characters of names. -/
theorem hasNameChars_of_mem_wayOut : ∀ step ∈ t.wayOut fromPackage, HasNameChars step := by
  intro step hstep
  rw [wayOut] at hstep
  split_ifs at hstep
  · have hsteps : ∀ step ∈ ["", "prost_types"], HasNameChars step := by decide
    exact hsteps step hstep
  · rw [List.eq_of_mem_replicate hstep]
    decide

/-- The steps that name a type are made of the characters of names. -/
theorem hasNameChars_of_mem_wayIn : ∀ step ∈ t.wayIn fromPackage, HasNameChars step := by
  intro step hstep
  rw [wayIn] at hstep
  split_ifs at hstep
  · exact hasNameChars_of_isName (t.isName_of_mem_withoutHome step hstep)
  · simp only [List.mem_append, List.mem_map, List.mem_singleton] at hstep
    obtain ⟨part, hpart | hpart, rfl⟩ | rfl := hstep
    · have hname := t.isName_of_mem_packageParts part (List.mem_of_mem_drop hpart)
      exact isNameChar_snakeCase (hasNameChars_of_isName hname)
    · exact isNameChar_snakeCase (hasNameChars_of_isName (t.named_parents part hpart))
    · exact isNameChar_upperCamelCase (hasNameChars_of_isName t.named_type)

/-- Some step names the type. -/
theorem wayIn_ne_nil (fromPackage : String) (t : NamedType) : t.wayIn fromPackage ≠ [] := by
  rw [wayIn]
  split_ifs <;> simp

/-- The steps of the path of a type are those of the ways that it was made of. -/
theorem pathSteps_ways (fromPackage : String) (t : NamedType) :
    pathSteps ("::".intercalate (t.wayOut fromPackage ++ t.wayIn fromPackage)).toList =
      (t.wayOut fromPackage ++ t.wayIn fromPackage).map String.toList := by
  refine pathSteps_intercalate (by simp [wayIn_ne_nil]) fun step hstep => ?_
  obtain hstep | hstep := List.mem_append.mp hstep
  · exact colon_notMem (hasNameChars_of_mem_wayOut step hstep)
  · exact colon_notMem (hasNameChars_of_mem_wayIn step hstep)

/-! ## Ways within a package -/

/-- A list shares all of its elements with itself. -/
theorem commonLength_self (parts : List String) : commonLength parts parts = parts.length := by
  induction parts with
  | nil => rfl
  | cons part parts ih => rw [commonLength, if_pos rfl, ih, List.length_cons]

/-- In its own package no type is a well-known one. -/
theorem not_isWellKnown_self : ¬t.IsWellKnown t.package := fun h => h.2 rfl

/-- In its own package no step leads out to a type. -/
theorem wayOut_self : t.wayOut t.package = [] := by
  rw [wayOut, if_neg not_isWellKnown_self, common, commonLength_self, Nat.sub_self,
    List.replicate_zero]

/-- In its own package a type is named by the messages around it and its own name. -/
theorem wayIn_self : t.wayIn t.package = t.parents.map snakeCase ++ [upperCamelCase t.name] := by
  rw [wayIn, if_neg not_isWellKnown_self, common, commonLength_self, List.drop_length,
    List.nil_append]

/-! ## Nested well-known types -/

/-- Messages stay exactly when the first two are not called like the well-known package. -/
theorem withoutHome_eq_self_iff {parents : List String} :
    withoutHome parents = parents ↔ ¬["google", "protobuf"] <+: parents := by
  cases parents using withoutHome.fun_cases with
  | case1 a b rest hhome =>
    obtain ⟨rfl, rfl⟩ := hhome
    refine iff_of_false (fun h => ?_) fun h => h (List.prefix_append _ rest)
    rw [withoutHome, if_pos ⟨rfl, rfl⟩] at h
    have hlength := (withoutHome_suffix rest).length_le
    rw [h, List.length_cons, List.length_cons] at hlength
    omega
  | case2 a b rest hhome =>
    refine iff_of_true (withoutHome_of_ne hhome) fun h => hhome ?_
    simpa [List.cons_prefix_cons, eq_comm] using h
  | case3 parents hshort =>
    refine iff_of_true (withoutHome_of_short hshort) ?_
    rintro ⟨rest, rfl⟩
    exact hshort _ _ rest rfl

/-- Messages are left as modules are called exactly when none is dropped and each has the name of
its module. -/
theorem withoutHome_eq_map_snakeCase_iff {parents : List String} :
    withoutHome parents = parents.map snakeCase ↔
      ¬["google", "protobuf"] <+: parents ∧ ∀ parent ∈ parents, snakeCase parent = parent := by
  have hmap : parents.map snakeCase = parents ↔ ∀ parent ∈ parents, snakeCase parent = parent := by
    rw [← List.map_inj_left, List.map_id']
  constructor
  · intro h
    have hlength : (withoutHome parents).length = parents.length := by rw [h, List.length_map]
    have hself := (withoutHome_suffix parents).eq_of_length hlength
    exact ⟨withoutHome_eq_self_iff.mp hself, hmap.mp (h.symm.trans hself)⟩
  · rintro ⟨hhome, hcase⟩
    rw [withoutHome_eq_self_iff.mpr hhome, hmap.mpr hcase]

/-- The types nested in well-known ones keep their names and those of their parents in the path from
another package, though within the package the parents are modules in snake case. Both ways agree on
few names only. -/
theorem nested_wellKnown_types_keep_names (fromPackage : String) (t : NamedType) (dots : Nat)
    (hpackage : t.package = wellKnownPackage) (hfrom : fromPackage ≠ wellKnownPackage)
    (hnested : t.parents ≠ []) :
    typePath fromPackage wellKnownPackage (t.reference dots) =
      "::prost_types::" ++ "::".intercalate (withoutHome t.parents ++ [t.name]) ∧
    typePath wellKnownPackage wellKnownPackage (t.reference dots) =
      "::".intercalate (t.parents.map snakeCase ++ [upperCamelCase t.name]) ∧
    (typePath fromPackage wellKnownPackage (t.reference dots) =
        "::prost_types::" ++ "::".intercalate (t.parents.map snakeCase ++ [upperCamelCase t.name]) ↔
      ¬["google", "protobuf"] <+: t.parents ∧ (∀ parent ∈ t.parents, snakeCase parent = parent) ∧
        upperCamelCase t.name = t.name) := by
  have hpath (p : String) : ¬t.HasNoPath p := fun h => hnested h.2.1
  have hforeign : t.IsWellKnown fromPackage := ⟨hpackage, by rwa [hpackage]⟩
  -- seen from outside, the parents are joined as they are written
  have hseen : typePath fromPackage wellKnownPackage (t.reference dots) =
      "::prost_types::" ++ "::".intercalate (withoutHome t.parents ++ [t.name]) := by
    rw [← hpackage, typePath_reference (hpath _), wayOut, wayIn, if_pos hforeign, if_pos hforeign,
      intercalate_home (by simp)]
  refine ⟨hseen, ?_, ?_⟩
  · rw [← hpackage, typePath_reference (hpath _), wayOut_self, wayIn_self, List.nil_append]
  · -- no step holds a colon, so the two paths are equal step by step
    have hkept : ∀ step ∈ withoutHome t.parents ++ [t.name], ':' ∉ step.toList := fun step hstep =>
      colon_notMem (hasNameChars_of_isName (t.isName_of_mem_withoutHome step hstep))
    have hcased : ∀ step ∈ t.parents.map snakeCase ++ [upperCamelCase t.name],
        ':' ∉ step.toList := by
      rw [← wayIn_self]
      exact fun step hstep => colon_notMem (hasNameChars_of_mem_wayIn step hstep)
    rw [hseen, String.append_right_inj, intercalate_inj (by simp) (by simp) hkept hcased,
      List.append_singleton_inj, withoutHome_eq_map_snakeCase_iff, and_assoc, eq_comm (a := t.name)]

/-- The types of fields, which are nested in the descriptions of fields. -/
def typeOfField : NamedType where
  package := "google.protobuf"
  parents := ["FieldDescriptorProto"]
  name := "Type"
  named_package := by decide
  named_parents := by decide
  named_type := by decide

/-- The type of a field goes by its declared names from another package, and by modules from its
own. -/
theorem paths_of_typeOfField :
    typePath "api" wellKnownPackage (typeOfField.reference 1) =
      "::prost_types::FieldDescriptorProto::Type" ∧
    typePath wellKnownPackage wellKnownPackage (typeOfField.reference 1) =
      "field_descriptor_proto::Type" := by
  obtain ⟨hseen, hwithin, -⟩ :=
    nested_wellKnown_types_keep_names "api" typeOfField 1 rfl (by decide) (by decide)
  exact ⟨hseen.trans (by decide +kernel), hwithin.trans (by decide +kernel)⟩

/-- Nested well-known types are not always in modules in snake case. -/
theorem nested_wellKnown_types_can_lack_modules :
    ¬∀ (fromPackage : String) (t : NamedType) (dots : Nat), t.package = wellKnownPackage →
      fromPackage ≠ wellKnownPackage → t.parents ≠ [] →
      typePath fromPackage wellKnownPackage (t.reference dots) =
        "::prost_types::" ++ "::".intercalate (t.parents.map snakeCase ++ [upperCamelCase t.name]) := by
  intro h
  have hpath := h "api" typeOfField 1 rfl (by decide) (by decide)
  exact absurd hpath (by decide +kernel)

end NamedType

end ProtoRest.Schema
