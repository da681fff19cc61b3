import Mathlib.Tactic.SplitIfs
import ProtoRest.Proofs.Result
import ProtoRest.Setting.Occurrence

/-! # What arguments give
Reading arguments from left to right succeeds exactly when they give options with values
(`readAll_eq_ok_iff`). What is read then holds the value of the last occurrence of every option
(`value?_putAll`). -/

namespace ProtoRest.Setting

open Result

/-! ## Notes -/

namespace Progress

/-- The options so far with one more occurrence, which replaces those before. -/
def put (p : Progress) (g : Occurrence) : Progress where
  given := p.given.filter (·.1.name ≠ g.1.name) ++ [g]
  pending := none

/-- The options so far with more occurrences, in order. -/
def putAll (p : Progress) (given : List Occurrence) : Progress := given.foldl put p

/-- Putting several occurrences begins with the first. -/
@[simp] theorem putAll_cons (p : Progress) (g : Occurrence) (given : List Occurrence) :
    p.putAll (g :: given) = (p.put g).putAll given := rfl

variable {p q : Progress} {o : Opt} {value : String}

/-- A value is noted exactly when the option takes it, and is put behind the options so far. -/
theorem note_eq_ok_iff (hp : p.pending = none) :
    p.note o value = .ok q ↔ o.Takes value ∧ p.put (o, value) = q := by
  have hput : { p with given := p.given.filter (·.1.name ≠ o.name) ++ [(o, value)] } =
      p.put (o, value) := by
    rw [put, hp]
  rw [note, Opt.Takes, hput]
  split_ifs with htakes hempty
  · simp [htakes]
  · simp [htakes]
  · simp [htakes]

/-- After an occurrence its option has the new value, and every other option the old one. -/
theorem value?_put (p : Progress) (g : Occurrence) (name : String) :
    (p.put g).value? name = if g.1.name = name then some g.2 else p.value? name := by
  rw [value?, value?, put, List.find?_append]
  by_cases h : g.1.name = name
  · -- earlier occurrences of the option are gone
    have hnone : (p.given.filter (·.1.name ≠ g.1.name)).find? (·.1.name == name) = none := by
      rw [List.find?_eq_none]
      intro x hx
      have hne := of_decide_eq_true (List.mem_filter.mp hx).2
      simpa [← h] using hne
    rw [hnone, if_pos h, List.find?_cons_of_pos (by simpa using h)]
    rfl
  · -- the other options are found where they were
    have hothers : (p.given.filter (·.1.name ≠ g.1.name)).find? (·.1.name == name) =
        p.given.find? (·.1.name == name) := by
      rw [List.find?_filter]
      refine congrArg (List.find? · p.given) (funext fun x => ?_)
      by_cases hx : x.1.name = name
      · simp [hx, Ne.symm h]
      · simp [hx]
    rw [hothers, if_neg h, List.find?_cons_of_neg (by simpa using h), List.find?_nil, Option.or_none]

/-- The value that counts is that of the last occurrence. -/
theorem value?_putAll (p : Progress) (given : List Occurrence) (name : String) :
    (p.putAll given).value? name = (lastOf given name).or (p.value? name) := by
  induction given generalizing p with
  | nil => rfl
  | cons g given ih =>
    rw [putAll_cons, ih, value?_put, lastOf, lastOf]
    by_cases h : g.1.name = name
    · rw [List.filter_cons_of_pos (by simpa using h), if_pos h]
      cases hlast : given.filter (·.1.name = name) with
      | nil => rfl
      | cons g' more => simp [List.getLast?_cons]
    · rw [List.filter_cons_of_neg (by simpa using h), if_neg h]

/-- An option that waits takes its value, or the one that it stands for alone. -/
theorem settle_eq_ok_iff :
    p.settle = .ok q ↔
      match p.pending with
      | none => p = q
      | some ⟨o, some value⟩ => o.Takes value ∧ p.put (o, value) = q
      | some ⟨o, none⟩ =>
        ∃ absent, o.arity = .optional absent ∧ o.Takes absent ∧ p.put (o, absent) = q := by
  have hnote (o : Opt) (value : String) :
      { p with pending := none }.note o value = .ok q ↔ o.Takes value ∧ p.put (o, value) = q :=
    note_eq_ok_iff rfl
  -- nothing waits, an option waits without a value, or it waits with one
  obtain ⟨given, _ | ⟨o, _ | value⟩⟩ := p
  · rw [settle, Except.ok.injEq]
  · rw [settle]
    cases harity : o.arity with
    | flag => simp [harity]
    | optional absent => simpa [harity] using hnote o absent
    | one => simp [harity]
  · exact hnote o value

/-- No option waits for a value once the reader has settled. -/
theorem pending_eq_none_of_settle (h : p.settle = .ok q) : q.pending = none := by
  rw [settle_eq_ok_iff] at h
  rcases hp : p.pending with _ | ⟨o, _ | value⟩ <;> rw [hp] at h
  · exact h ▸ hp
  · obtain ⟨absent, -, -, rfl⟩ := h
    rfl
  · obtain ⟨-, rfl⟩ := h
    rfl

/-- Settling changes nothing when no option waits. -/
theorem settle_of_pending (h : p.pending = none) : p.settle = .ok p := by
  rw [settle, h]

end Progress

/-! ## One argument -/

section

variable {c : Command} {p q : Progress}

/-- An argument is read by its form: a long option, a short one or plain text. -/
theorem readArgument_eq (argument : String) :
    c.readArgument p argument =
      match Argument.ofText argument with
      | .option name value => c.readLong p name value
      | .short letter => c.readShort p letter
      | .plain text => readValue p text := by
  rw [Command.readArgument, Argument.ofText]
  rcases argument.toList with _ | ⟨a, _ | ⟨b, long⟩⟩
  · rfl
  · by_cases ha : a = '-' <;> simp [ha]
  · by_cases ha : a = '-'
    · by_cases hb : b = '-'
      · subst ha hb
        cases hsplit : Text.splitOnce '=' long <;> simp [hsplit]
      · simp [ha]
    · simp [ha]

/-- A value is read as the value of the option that waits for it. -/
theorem readArgument_of_isValue {argument : String} (h : isValue argument) :
    c.readArgument p argument = readValue p argument := by
  rw [readArgument_eq, h]

/-- The options without values of a command only ask for something, and so do all short forms. -/
def Command.OnlyAsks (c : Command) : Prop :=
  ∀ o ∈ c.opts, o.arity = .flag ∨ o.short.isSome → o.action ≠ .note

/-- An option that asks for a text of the program ends the reading. -/
theorem ask_ne_ok {o : Opt} (h : o.action ≠ .note) : o.ask p ≠ .ok q := by
  intro hok
  obtain ⟨p', -, hp'⟩ := bind_eq_ok_iff.mp hok
  cases haction : o.action with
  | note => exact h haction
  | help => rw [haction] at hp'; cases hp'
  | version => rw [haction] at hp'; cases hp'

/-- A long option is noted with the value behind its equals sign, or waits for one. -/
theorem readLong_of_names {name : String} {value : Option String} {o : Opt} (h : c.Names name o) :
    c.readLong p name value =
      match value with
      | some value => p.settle >>= (·.note o value)
      | none => p.settle >>= fun p' => .ok { p' with pending := some ⟨o, none⟩ } := by
  rw [Command.readLong, h.found]
  cases harity : o.arity with
  | flag => exact absurd harity h.valued
  | optional absent =>
    simp only [harity]
    cases value <;> rfl
  | one =>
    simp only [harity]
    cases value <;> rfl

/-- Only an option with values is read, and the option that waits is settled before. -/
theorem readLong_eq_ok_iff (hc : c.OnlyAsks) {name : String} {value : Option String} :
    c.readLong p name value = .ok q ↔
      ∃ o p', c.Names name o ∧ p.settle = .ok p' ∧
        match value with
        | some value => o.Takes value ∧ p'.put (o, value) = q
        | none => { p' with pending := some ⟨o, none⟩ } = q := by
  constructor
  · intro h
    cases hfind : c.opts.find? (·.name == name) with
    | none =>
      rw [Command.readLong, hfind] at h
      cases h
    | some o =>
      have hmem : o ∈ c.opts := List.mem_of_find?_eq_some hfind
      by_cases hflag : o.arity = .flag
      · -- a flag of such a command asks for a text and ends the reading
        rw [Command.readLong, hfind] at h
        cases value with
        | none =>
          refine absurd ?_ (ask_ne_ok (q := q) (p := p) (hc o hmem (.inl hflag)))
          simpa [hflag] using h
        | some value => simp [hflag] at h
      · have hnames : c.Names name o := ⟨hfind, hflag⟩
        rw [readLong_of_names hnames] at h
        cases value with
        | none =>
          obtain ⟨p', hp', hq⟩ := bind_eq_ok_iff.mp h
          exact ⟨o, p', hnames, hp', Except.ok.inj hq⟩
        | some value =>
          obtain ⟨p', hp', hq⟩ := bind_eq_ok_iff.mp h
          exact ⟨o, p', hnames, hp',
            (Progress.note_eq_ok_iff (Progress.pending_eq_none_of_settle hp')).mp hq⟩
  · rintro ⟨o, p', hnames, hp', hq⟩
    rw [readLong_of_names hnames]
    cases value with
    | none => exact bind_eq_ok_iff.mpr ⟨p', hp', congrArg Except.ok hq⟩
    | some value =>
      exact bind_eq_ok_iff.mpr ⟨p', hp',
        (Progress.note_eq_ok_iff (Progress.pending_eq_none_of_settle hp')).mpr hq⟩

/-- Short options never leave the reader with options. -/
theorem readShort_ne_ok (hc : c.OnlyAsks) {letter : Char} : c.readShort p letter ≠ .ok q := by
  rw [Command.readShort]
  cases hfind : c.opts.find? (·.short == some letter) with
  | none => simp
  | some o =>
    have hshort : o.short = some letter := by simpa using List.find?_some hfind
    refine ask_ne_ok (hc o (List.mem_of_find?_eq_some hfind) (.inr ?_))
    rw [hshort]
    rfl

/-! ## All arguments -/

/-- The arguments are read from left to right. -/
theorem readAll_cons {argument : String} {rest : List String} (h : argument ≠ "--") :
    c.readAll p (argument :: rest) = c.readArgument p argument >>= (c.readAll · rest) := by
  rw [Command.readAll]
  · rintro rfl
    exact absurd rfl h
  · rintro a more rfl
    exact absurd rfl h

/-- The next step of reading with an option that waits and no value for it. -/
theorem readArgument_settle (hc : c.OnlyAsks) {argument : String} (h : ¬isValue argument) :
    c.readArgument p argument = .ok q ↔
      ∃ p', p.settle = .ok p' ∧ c.readArgument p' argument = .ok q := by
  rw [readArgument_eq]
  simp only [readArgument_eq]
  cases hform : Argument.ofText argument with
  | option name value =>
    simp only [readLong_eq_ok_iff hc]
    constructor
    · rintro ⟨o, p', hnames, hp', hq⟩
      -- a reader that has settled once stays as it is
      have hagain := Progress.settle_of_pending (Progress.pending_eq_none_of_settle hp')
      exact ⟨p', hp', o, p', hnames, hagain, hq⟩
    · rintro ⟨p', hp', o, p'', hnames, hp'', hq⟩
      rw [Progress.settle_of_pending (Progress.pending_eq_none_of_settle hp'), Except.ok.injEq] at hp''
      exact ⟨o, p', hnames, hp', hp'' ▸ hq⟩
  | short letter => simp [readShort_ne_ok hc]
  | plain text =>
    have htext : text = argument := by
      rw [Argument.ofText] at hform
      grind
    exact absurd (htext ▸ hform) h

/-- Before an option, and at the end, the option that waits is settled. -/
theorem readAll_settle (hc : c.OnlyAsks) {args : List String} (hargs : "--" ∉ args)
    (hhead : ∀ argument ∈ args.head?, ¬isValue argument) :
    c.readAll p args = .ok q ↔ ∃ p', p.settle = .ok p' ∧ c.readAll p' args = .ok q := by
  cases args with
  | nil =>
    constructor
    · intro h
      exact ⟨q, h, Progress.settle_of_pending (Progress.pending_eq_none_of_settle h)⟩
    · rintro ⟨p', hp', hq⟩
      rw [Command.readAll,
        Progress.settle_of_pending (Progress.pending_eq_none_of_settle hp')] at hq
      rwa [Except.ok.inj hq] at hp'
  | cons argument rest =>
    have hargument : argument ≠ "--" := fun h => hargs (h ▸ List.mem_cons_self)
    have hvalue : ¬isValue argument := hhead argument rfl
    simp only [readAll_cons hargument, bind_eq_ok_iff]
    constructor
    · rintro ⟨p'', hread, hq⟩
      -- the first argument is no value, so it settles the reader before it is read
      obtain ⟨p', hp', hread⟩ := (readArgument_settle hc hvalue).mp hread
      exact ⟨p', hp', p'', hread, hq⟩
    · rintro ⟨p', hp', p'', hread, hq⟩
      exact ⟨p'', (readArgument_settle hc hvalue).mpr ⟨p', hp', hread⟩, hq⟩

/-- Without an option that waits, the next argument is an option. -/
theorem readAll_cons_eq_ok_iff (hc : c.OnlyAsks) {argument : String} {rest : List String}
    (hne : argument ≠ "--") (hp : p.pending = none) :
    c.readAll p (argument :: rest) = .ok q ↔
      (∃ name value o, Argument.ofText argument = .option name (some value) ∧ c.Names name o ∧
        o.Takes value ∧ c.readAll (p.put (o, value)) rest = .ok q) ∨
      ∃ name o, Argument.ofText argument = .option name none ∧ c.Names name o ∧
        c.readAll { p with pending := some ⟨o, none⟩ } rest = .ok q := by
  have hsettle : p.settle = .ok p := Progress.settle_of_pending hp
  rw [readAll_cons hne, bind_eq_ok_iff, readArgument_eq]
  constructor
  · rintro ⟨p', hread, hq⟩
    cases hform : Argument.ofText argument with
    | option name value =>
      rw [hform] at hread
      obtain ⟨o, p'', hnames, hp'', hput⟩ := (readLong_eq_ok_iff hc).mp hread
      obtain rfl : p = p'' := Except.ok.inj (hsettle.symm.trans hp'')
      cases value with
      | some value =>
        obtain ⟨htakes, rfl⟩ := hput
        exact .inl ⟨name, value, o, rfl, hnames, htakes, hq⟩
      | none =>
        obtain rfl := hput
        exact .inr ⟨name, o, rfl, hnames, hq⟩
    | short letter =>
      rw [hform] at hread
      exact absurd hread (readShort_ne_ok hc)
    | plain text =>
      -- no option waits for the value
      rw [hform] at hread
      simp [readValue, hp] at hread
  · rintro (⟨name, value, o, hform, hnames, htakes, hq⟩ | ⟨name, o, hform, hnames, hq⟩)
    · refine ⟨_, ?_, hq⟩
      rw [hform]
      exact (readLong_eq_ok_iff hc).mpr ⟨o, p, hnames, hsettle, htakes, rfl⟩
    · refine ⟨_, ?_, hq⟩
      rw [hform]
      exact (readLong_eq_ok_iff hc).mpr ⟨o, p, hnames, hsettle, rfl⟩

/-- An option that waits is replaced by its occurrence. -/
theorem Gives.putAll_waiting {o : Opt} {args : List String} {given : List Occurrence}
    (h : Gives c (some o) args given) (p : Progress) (pending : Option Pending) :
    { p with pending := pending }.putAll given = p.putAll given := by
  cases h <;> rfl

/-- What the arguments give after an option whose value was the argument before. -/
theorem readAll_of_value (hc : c.OnlyAsks) {args : List String} (hargs : "--" ∉ args) {o : Opt}
    {value : String} (hp : p.pending = some ⟨o, some value⟩)
    (hrest : ∀ p' : Progress, p'.pending = none →
      (c.readAll p' args = .ok q ↔ ∃ given, Gives c none args given ∧ p'.putAll given = q)) :
    c.readAll p args = .ok q ↔
      o.Takes value ∧ ∃ given, Gives c none args given ∧ (p.put (o, value)).putAll given = q := by
  by_cases hhead : ∀ argument ∈ args.head?, ¬isValue argument
  · -- the option has its value, and the arguments go on without one that waits
    have hsettle {p'} : p.settle = .ok p' ↔ o.Takes value ∧ p.put (o, value) = p' := by
      rw [Progress.settle_eq_ok_iff, hp]
    rw [readAll_settle hc hargs hhead]
    constructor
    · rintro ⟨p', hp', hq⟩
      obtain ⟨htakes, rfl⟩ := hsettle.mp hp'
      exact ⟨htakes, (hrest _ rfl).mp hq⟩
    · rintro ⟨htakes, hgiven⟩
      exact ⟨_, hsettle.mpr ⟨htakes, rfl⟩, (hrest _ rfl).mpr hgiven⟩
  · -- a second value is refused, and the arguments give nothing from a value on
    push Not at hhead
    obtain ⟨argument, hargument, hvalue⟩ := hhead
    obtain ⟨rest, rfl⟩ := List.head?_eq_some_iff.mp hargument
    have hne : argument ≠ "--" := fun h => hargs (h ▸ List.mem_cons_self)
    refine iff_of_false ?_ ?_
    · rw [readAll_cons hne, readArgument_of_isValue hvalue]
      simp [readValue, hp, bind, Except.bind]
    · rintro ⟨-, given, hgiven, -⟩
      cases hgiven with
      | attached hform => simp [isValue, hform] at hvalue
      | waiting hform => simp [isValue, hform] at hvalue

/-- Reading succeeds exactly when the arguments give options with values, and the options are put one
after the other. -/
theorem readAll_eq_ok_iff (hc : c.OnlyAsks) (waiting : Option Opt) {args : List String}
    (hargs : "--" ∉ args) (hp : p.pending = waiting.map (⟨·, none⟩)) :
    c.readAll p args = .ok q ↔ ∃ given, Gives c waiting args given ∧ p.putAll given = q := by
  -- one argument after the other; an option that waits is settled before an argument that is no value
  induction args generalizing p waiting with
  | nil =>
    rw [Command.readAll, Progress.settle_eq_ok_iff, hp]
    cases waiting with
    | none =>
      constructor
      · intro h
        exact ⟨[], .nil, h⟩
      · rintro ⟨given, ⟨⟩, h⟩
        exact h
    | some o =>
      constructor
      · rintro ⟨absent, harity, htakes, hq⟩
        exact ⟨_, .alone (by simp) harity htakes .nil, hq⟩
      · rintro ⟨given, hgiven, hq⟩
        cases hgiven with
        | alone _ harity htakes hrest =>
          cases hrest
          exact ⟨_, harity, htakes, hq⟩
  | cons argument rest ih =>
    have hne : argument ≠ "--" := fun h => hargs (h ▸ List.mem_cons_self)
    have hrest : "--" ∉ rest := fun h => hargs (List.mem_cons_of_mem _ h)
    have hnone : ∀ p : Progress, p.pending = none → (c.readAll p (argument :: rest) = .ok q ↔
        ∃ given, Gives c none (argument :: rest) given ∧ p.putAll given = q) := by
      intro p hp
      rw [readAll_cons_eq_ok_iff hc hne hp]
      constructor
      · rintro (⟨name, value, o, hform, hnames, htakes, hq⟩ | ⟨name, o, hform, hnames, hq⟩)
        · obtain ⟨given, hgiven, rfl⟩ := (ih none hrest rfl).mp hq
          exact ⟨_, .attached hform hnames htakes hgiven, rfl⟩
        · obtain ⟨given, hgiven, rfl⟩ := (ih (some o) hrest rfl).mp hq
          exact ⟨given, .waiting hform hnames hgiven, (hgiven.putAll_waiting p _).symm⟩
      · rintro ⟨given, hgiven, hq⟩
        cases hgiven with
        | attached hform hnames htakes hgiven =>
          have hread := (ih none hrest rfl).mpr ⟨_, hgiven, hq⟩
          exact .inl ⟨_, _, _, hform, hnames, htakes, hread⟩
        | waiting hform hnames hgiven =>
          rw [← hgiven.putAll_waiting p (some ⟨_, none⟩)] at hq
          have hread := (ih (some _) hrest rfl).mpr ⟨_, hgiven, hq⟩
          exact .inr ⟨_, _, hform, hnames, hread⟩
    cases waiting with
    | none => exact hnone p hp
    | some o =>
      by_cases hvalue : isValue argument
      · have hread : c.readArgument p argument =
            .ok { p with pending := some ⟨o, some argument⟩ } := by
          simp [readArgument_of_isValue hvalue, readValue, hp]
        rw [readAll_cons hne, hread]
        have hnext := readAll_of_value hc hrest (q := q)
          (p := { p with pending := some ⟨o, some argument⟩ }) rfl fun p' hp' =>
            ih none hrest hp'
        refine hnext.trans ?_
        constructor
        · rintro ⟨htakes, given, hgiven, hq⟩
          exact ⟨_, .next hvalue htakes hgiven, hq⟩
        · rintro ⟨given, hgiven, hq⟩
          cases hgiven with
          | next _ htakes hgiven => exact ⟨htakes, _, hgiven, hq⟩
          | alone hhead => exact absurd hvalue (hhead argument rfl)
      · have hhead : ∀ a ∈ (argument :: rest).head?, ¬isValue a := by
          rintro a ⟨⟩
          exact hvalue
        rw [readAll_settle hc hargs hhead]
        constructor
        · rintro ⟨p', hsettle, hq⟩
          rw [Progress.settle_eq_ok_iff, hp] at hsettle
          obtain ⟨absent, harity, htakes, rfl⟩ := hsettle
          obtain ⟨given, hgiven, rfl⟩ := (hnone _ rfl).mp hq
          exact ⟨_, .alone hhead harity htakes hgiven, rfl⟩
        · rintro ⟨given, hgiven, hq⟩
          cases hgiven with
          | next hvalue' => exact absurd hvalue' hvalue
          | alone _ harity htakes hgiven =>
            refine ⟨_, ?_, (hnone _ rfl).mpr ⟨_, hgiven, hq⟩⟩
            rw [Progress.settle_eq_ok_iff, hp]
            exact ⟨_, harity, htakes, rfl⟩

end

end ProtoRest.Setting
