import ProtoRest.Proofs.Setting.Occurrences
import ProtoRest.Proofs.Text.Pieces

/-! # Which source of settings counts
The settings are those of the last occurrences (`ofSources_eq_ok_iff`), and the arguments of the
parameter come after those of the process. They start with an option, so none of them becomes a value
of an option of the process (`Gives.append`): the parameter has its way for the options that it
mentions and leaves the others alone (`parameter_overrides_arguments`). -/

namespace ProtoRest.Setting

open ProtoRest.Text Result

section

variable {c : Command}

/-- Arguments that start with an option follow others without becoming a value of theirs. -/
theorem Gives.append {waiting : Option Opt} {args args' : List String}
    {given given' : List Occurrence} (h : Gives c waiting args given)
    (h' : Gives c none args' given') (hhead : ∀ argument ∈ args'.head?, ¬isValue argument) :
    Gives c waiting (args ++ args') (given ++ given') := by
  induction h with
  | nil => exact h'
  | attached hform hnames htakes _ ih => exact .attached hform hnames htakes ih
  | waiting hform hnames _ ih => exact .waiting hform hnames ih
  | next hvalue htakes _ ih => exact .next hvalue htakes ih
  | @alone rest _ _ _ hrest harity htakes _ ih =>
    refine .alone ?_ harity htakes ih
    cases rest with
    | nil => exact hhead
    | cons argument rest => exact hrest

/-- Options give occurrences of themselves. -/
theorem Gives.names_eq {waiting : Option Opt} {args keys : List String} {given : List Occurrence}
    (h : Gives c waiting args given)
    (hkeys : List.Forall₂ (fun argument key => ∃ value, Argument.ofText argument = .option key value)
      args keys) :
    given.map (·.1.name) = (waiting.map (·.name)).toList ++ keys := by
  -- an option is found under its own name
  have hname {name : String} {o : Opt} (h : c.Names name o) : o.name = name := by
    simpa using List.find?_some h.found
  induction h generalizing keys with
  | nil =>
    cases hkeys
    rfl
  | attached hform hnames _ _ ih =>
    obtain ⟨key, rest, ⟨value, hkey⟩, hrest, rfl⟩ := List.forall₂_cons_left_iff.mp hkeys
    obtain ⟨rfl, -⟩ := Argument.option.inj (hform.symm.trans hkey)
    simp [ih hrest, hname hnames]
  | waiting hform hnames _ ih =>
    obtain ⟨key, rest, ⟨value, hkey⟩, hrest, rfl⟩ := List.forall₂_cons_left_iff.mp hkeys
    obtain ⟨rfl, -⟩ := Argument.option.inj (hform.symm.trans hkey)
    simp [ih hrest, hname hnames]
  -- every argument has a key, so none is the value of another
  | next hvalue _ _ ih =>
    obtain ⟨key, rest, ⟨value, hkey⟩, hrest, rfl⟩ := List.forall₂_cons_left_iff.mp hkeys
    simp [isValue, hkey] at hvalue
  | alone _ _ _ _ ih => simp [ih hkeys]

end

/-- A part of a parameter becomes an option with its key. -/
theorem ofText_partArgument (part : List Char) :
    ∃ value, Argument.ofText (String.ofList (partArgument part)) =
      .option (String.ofList (partKey part)) value := by
  rw [partArgument, partKey]
  cases hsplit : splitOnce '=' (part.dropWhile (· == '-')) with
  | none => exact ⟨none, by simp [Argument.ofText, hsplit]⟩
  | some both =>
    obtain ⟨key, value⟩ := both
    obtain ⟨-, hkey⟩ := splitOnce_eq_some_iff.mp hsplit
    have hagain : splitOnce '=' (trim key ++ '=' :: trim value) = some (trim key, trim value) :=
      splitOnce_eq_some_iff.mpr ⟨rfl, fun h => hkey (mem_of_mem_trim h)⟩
    exact ⟨some (String.ofList (trim value)), by simp [Argument.ofText, hagain]⟩

/-- The arguments of a parameter are options with its keys. -/
theorem forall₂_parameterArguments (parameter : String) :
    List.Forall₂ (fun argument key => ∃ value, Argument.ofText argument = .option key value)
      (parameterArguments parameter) (parameterKeys parameter) := by
  rw [parameterArguments, parameterKeys, List.forall₂_map_left_iff, List.forall₂_map_right_iff,
    List.forall₂_same]
  exact fun part _ => ofText_partArgument part

/-- A parameter whose keys are not empty has no argument of two dashes alone. -/
theorem doubleDash_notMem_parameterArguments {parameter : String}
    (hkeys : ∀ key ∈ parameterKeys parameter, key ≠ "") : "--" ∉ parameterArguments parameter := by
  intro hmem
  obtain ⟨key, hkey, value, hform⟩ :=
    exists_right_of_forall₂ (forall₂_parameterArguments parameter) _ hmem
  have hbare : Argument.ofText "--" = .option "" none := by decide +kernel
  rw [hbare] at hform
  exact hkeys key hkey (Argument.option.inj hform).1.symm

/-- The last occurrence is among the later ones if these have the option at all. -/
theorem lastOf_append (given given' : List Occurrence) (name : String) :
    lastOf (given ++ given') name =
      if name ∈ given'.map (·.1.name) then lastOf given' name else lastOf given name := by
  have hsome : (lastOf given' name).isSome ↔ name ∈ given'.map (·.1.name) := by simp [lastOf]
  have hor : lastOf (given ++ given') name = (lastOf given' name).or (lastOf given name) := by
    rw [lastOf, List.filter_append, List.getLast?_append]
    cases h : (given'.filter (·.1.name = name)).getLast? <;> simp [lastOf, h]
  rw [hor]
  split_ifs with hmem
  · obtain ⟨value, hvalue⟩ := Option.isSome_iff_exists.mp (hsome.mpr hmem)
    rw [hvalue, Option.some_or]
  · rw [Option.not_isSome_iff_eq_none.mp (mt hsome.mp hmem), Option.none_or]

/-- The settings are those of the last occurrences. -/
theorem ofGiven_putAll (given : List Occurrence) :
    RouteSettings.ofGiven (Progress.putAll {} given) = RouteSettings.ofLast given := by
  have hvalue (name : String) :
      (Progress.putAll {} given).value? name = lastOf given name := by
    rw [Progress.value?_putAll]
    exact Option.or_none
  simp only [RouteSettings.ofGiven, RouteSettings.ofLast, hvalue]

/-- The flags and short options of the routes command only ask for a text. -/
theorem onlyAsks_routesCommand : routesCommand.OnlyAsks := by
  rw [Command.OnlyAsks]
  decide +kernel

/-- The settings exist exactly when the arguments of the process and of the parameter give options, and
their last occurrences make the settings. -/
theorem ofSources_eq_ok_iff {arguments : List String} {parameter : Option String}
    {s : RouteSettings} (hdash : "--" ∉ (mergedArguments arguments parameter).tail) :
    RouteSettings.ofSources arguments parameter = .ok s ↔
      ∃ given, Gives routesCommand none (mergedArguments arguments parameter).tail given ∧
        RouteSettings.ofLast given = s := by
  -- the first argument is the name of the process, which is skipped
  have hread (q : Progress) : routesCommand.readSources arguments parameter = .ok q ↔
      ∃ given, Gives routesCommand none (mergedArguments arguments parameter).tail given ∧
        Progress.putAll {} given = q := by
    rw [← readAll_eq_ok_iff onlyAsks_routesCommand none hdash rfl, Command.readSources,
      Command.readProcess, Command.read]
    cases routesCommand.readAll {} (mergedArguments arguments parameter).tail <;> simp
  rw [RouteSettings.ofSources, map_eq_ok_iff]
  simp only [hread]
  constructor
  · rintro ⟨q, ⟨given, hgiven, rfl⟩, rfl⟩
    exact ⟨given, hgiven, (ofGiven_putAll given).symm⟩
  · rintro ⟨given, hgiven, rfl⟩
    exact ⟨_, ⟨given, hgiven, rfl⟩, ofGiven_putAll given⟩

/-- The parameter overrides the arguments of the process setting by setting: where both sources alone
make settings, together they make those of the parameter for the keys that it mentions and those of the
process for the others. In each source the last occurrence of an option counts. -/
theorem parameter_overrides_arguments {program : String} {arguments : List String}
    {parameter : String} {a b : RouteSettings} (hdash : "--" ∉ arguments)
    (hkeys : ∀ key ∈ parameterKeys parameter, key ≠ "")
    (ha : RouteSettings.ofSources (program :: arguments) none = .ok a)
    (hb : RouteSettings.ofSources [program] (some parameter) = .ok b) :
    ∃ c given given', RouteSettings.ofSources (program :: arguments) (some parameter) = .ok c ∧
      c.omitEmpty = (if "omitempty" ∈ parameterKeys parameter then b else a).omitEmpty ∧
      c.omitEmptyPrefix =
        (if "omitempty_prefix" ∈ parameterKeys parameter then b else a).omitEmptyPrefix ∧
      c.authLine = (if "swagger_auth_header" ∈ parameterKeys parameter then b else a).authLine ∧
      Gives routesCommand none arguments given ∧
      Gives routesCommand none (parameterArguments parameter) given' ∧
      given'.map (·.1.name) = parameterKeys parameter ∧
      a = .ofLast given ∧ b = .ofLast given' ∧ c = .ofLast (given ++ given') := by
  have hdash' := doubleDash_notMem_parameterArguments hkeys
  have hforms := forall₂_parameterArguments parameter
  have harguments : mergedArguments (program :: arguments) none = program :: arguments :=
    List.append_nil _
  rw [ofSources_eq_ok_iff (by rw [harguments]; exact hdash), harguments] at ha
  rw [ofSources_eq_ok_iff (by simpa [mergedArguments] using hdash')] at hb
  obtain ⟨given, hgiven, rfl⟩ := ha
  obtain ⟨given', hgiven', rfl⟩ := hb
  -- the parameter starts with an option, so the last argument of the process keeps its value
  have hhead : ∀ argument ∈ (parameterArguments parameter).head?, ¬isValue argument := by
    intro argument hargument
    obtain ⟨key, -, value, hform⟩ :=
      exists_right_of_forall₂ hforms argument (List.mem_of_mem_head? hargument)
    simp [isValue, hform]
  have hboth := hgiven.append hgiven' hhead
  have hnames : given'.map (·.1.name) = parameterKeys parameter := hgiven'.names_eq hforms
  refine ⟨_, given, given', (ofSources_eq_ok_iff ?_).mpr ⟨_, hboth, rfl⟩, ?_, ?_, ?_, hgiven, hgiven',
    hnames, rfl, rfl, rfl⟩
  · simpa [mergedArguments] using ⟨hdash, hdash'⟩
  · simp only [RouteSettings.ofLast, lastOf_append, hnames]
    split_ifs <;> rfl
  · simp only [RouteSettings.ofLast, lastOf_append, hnames]
    split_ifs <;> rfl
  · simp only [RouteSettings.ofLast, lastOf_append, hnames]
    split_ifs <;> rfl

/-- The last of the arguments is an option without a value; the parameter has one option twice, once
with a dash, and leaves out the line of the documentation. -/
theorem parameter_overrides_repeated :
    let arguments := ["--omitempty_prefix=/v1", "--swagger_auth_header", "@Auth", "--omitempty"]
    let parameter := "omitempty_prefix=/v3, -omitempty = false,,omitempty_prefix=/v2"
    let a : RouteSettings := ⟨true, "/v1", "@Auth"⟩
    let b : RouteSettings := ⟨false, "/v2", defaultAuthLine⟩
    "--" ∉ arguments ∧ (∀ key ∈ parameterKeys parameter, key ≠ "") ∧
      RouteSettings.ofSources ("protoc-gen-sphere" :: arguments) none = .ok a ∧
      RouteSettings.ofSources ["protoc-gen-sphere"] (some parameter) = .ok b ∧
      ∃ c, RouteSettings.ofSources ("protoc-gen-sphere" :: arguments) (some parameter) = .ok c ∧
        c = ⟨false, "/v2", "@Auth"⟩ := by
  intro arguments parameter a b
  have hdash : "--" ∉ arguments := by decide
  have hkeys : ∀ key ∈ parameterKeys parameter, key ≠ "" := by decide +kernel
  have ha : RouteSettings.ofSources ("protoc-gen-sphere" :: arguments) none = .ok a :=
    toOption_eq_some_iff.mp (by decide +kernel)
  have hb : RouteSettings.ofSources ["protoc-gen-sphere"] (some parameter) = .ok b :=
    toOption_eq_some_iff.mp (by decide +kernel)
  have hmentions : parameterKeys parameter = ["omitempty_prefix", "omitempty", "omitempty_prefix"] := by
    decide +kernel
  obtain ⟨c, -, -, hc, hempty, hprefix, hline, -⟩ := parameter_overrides_arguments hdash hkeys ha hb
  refine ⟨hdash, hkeys, ha, hb, c, hc, ?_⟩
  obtain ⟨empty, start, line⟩ := c
  rw [hmentions] at hempty hprefix hline
  simp only [RouteSettings.mk.injEq]
  exact ⟨hempty, hprefix, hline⟩

end ProtoRest.Setting
