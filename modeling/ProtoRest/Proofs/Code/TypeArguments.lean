import ProtoRest.Proofs.Code.PathTypes

/-! # Types among arguments
`isTypePath` decides whether the steps of a text are a type (`isType_of_isTypePath`,
`noType_of_not_isTypePath`). Among arguments a text can also be a value: nothing at all, a truth
value or a number (`isArgText`). -/

namespace ProtoRest.Code

open ProtoRest.Text ProtoRest.Schema Read Readers

variable {left : Option Char} {ts tail rest : List Token}

/-! ## Texts of paths -/

/-- A type that can stand wherever generated code mentions one. -/
structure Ty.IsPlain (ty : Ty) : Prop where
  /-- It has a layout. -/
  complete : ∀ inExpr, isComplete (ty.pieces inExpr) = true
  /-- It can be the type of a value. -/
  closed : ty.isOpen = false
  /-- It does not read as type parameters. -/
  unsplit : splitGenerics ty = ([], ty)

/-- The type of a path of plain names is plain. -/
theorem isPlain_plainTy (rooted : Bool) (names : List String) : (plainTy rooted names).IsPlain :=
  ⟨isComplete_plainTy rooted names, rfl, rfl⟩

/-- The type of a path from the root behind a word for bounds is plain. -/
theorem isPlain_ofBound (word : String) (names : List String) :
    (Ty.ofBound word (.mk true (names.map .plain))).IsPlain := by
  rw [Ty.ofBound]
  split <;> exact ⟨by simp, rfl, rfl⟩

section Steps

variable {first : List Char} {steps : List (List Char)}

/-- A name is empty, starts with a digit or is an identifier. -/
theorem isIdentText_cases (h : ∀ c ∈ first, isNameChar c = true) :
    first = [] ∨ (∃ c, first.head? = some c ∧ c.isDigit = true) ∨ isIdentText first = true := by
  cases first with
  | nil => exact .inl rfl
  | cons c cs =>
    cases hdigit : c.isDigit with
    | true => exact .inr (.inl ⟨c, rfl, hdigit⟩)
    | false =>
      refine .inr (.inr ?_)
      rw [isIdentText, isIdentifierStart_of_isNameChar (h c List.mem_cons_self), hdigit]
      simpa using fun d hd => isIdentifierContinue_of_isNameChar (h d (List.mem_cons_of_mem c hd))

/-- Whether steps are a path of a type: all are steps, and the first one starts a path or may be
left out. -/
theorem isTypePath_cons : isTypePath (first :: steps) =
    (steps.all isStep &&
      (isIdentText first && isFirstWord (String.ofList first) ||
        (first.isEmpty || boundWords.contains (String.ofList first)) && !steps.isEmpty)) := rfl

/-- A path of a type is a plain type wherever one can stand. -/
theorem isType_of_isTypePath (hnames : AreNames (first :: steps))
    (h : isTypePath (first :: steps) = true) :
    ∃ ty, ty.IsPlain ∧ IsType 1 (joinWith [':', ':'] (first :: steps)) ty := by
  rw [isTypePath_cons, Bool.and_eq_true, List.all_eq_true] at h
  obtain ⟨hsteps, hfirst⟩ := h
  rw [Bool.or_eq_true, Bool.and_eq_true, Bool.and_eq_true, Bool.or_eq_true] at hfirst
  -- the first step starts a path, or is empty before the root, or is a word for bounds
  obtain ⟨hident, hfirst⟩ | ⟨hempty | hbound, hne⟩ := hfirst
  · exact ⟨_, isPlain_plainTy _ _, isType_of_isFirstWord hnames hident hfirst hsteps⟩
  · obtain rfl := List.isEmpty_iff.mp hempty
    exact ⟨_, isPlain_plainTy _ _,
      isType_of_root (fun s hs => hnames s (List.mem_cons_of_mem _ hs)) (by simpa using hne) hsteps⟩
  · have hident : isIdentText first = true := by
      obtain h | h : String.ofList first = "dyn" ∨ String.ofList first = "impl" := by
        simpa [boundWords] using hbound
      all_goals
        obtain rfl : first = _ := by simpa using congrArg String.toList h
        decide
    exact ⟨_, isPlain_ofBound _ _,
      isType_of_bound hnames hident (by simpa using hbound) (by simpa using hne) hsteps⟩

/-- A path that starts with an identifier and is none of a type is no type. -/
theorem noType_of_isIdentText (hnames : AreNames (first :: steps)) (hident : isIdentText first = true)
    (hinfer : first ≠ ['_']) (htruth : String.ofList first ∉ truthWords)
    (h : isTypePath (first :: steps) = false) :
    NoTypeFrom StartsType (joinWith [':', ':'] (first :: steps)) := by
  have hne : first ≠ [] := by
    rintro rfl
    cases hident
  rw [isTypePath_cons, hident, Bool.true_and, List.isEmpty_eq_false_iff.mpr hne, Bool.false_or] at h
  -- either a later step is at fault, or the first one starts no path
  cases hfirst : isFirstWord (String.ofList first) with
  | true =>
    rw [hfirst, Bool.true_or, Bool.and_true] at h
    exact noType_of_isFirstWord hnames hident hfirst h
  | false =>
    by_cases hbound : String.ofList first ∈ boundWords
    · refine noType_of_bound hnames hident hbound ?_
      cases steps with
      | nil => exact .inl rfl
      | cons step steps => simpa [hfirst, hbound] using h
    · refine (noType_of_reserved hnames hident hfirst hbound hinfer).imp ?_
      rintro t rfl
      simpa [truthWords, StartsType] using htruth

/-- The empty text is no type. -/
theorem noType_nil : NoType 0 [] := by
  intro cs hcs
  exact ⟨_, [], cs, .refl cs, Halts.stop hcs,
    fun n _ left tail htail => rejects_ty (fun inner => rejects_readTy_stop htail) n⟩

/-- A path that is none of a type is no type. -/
theorem noType_of_not_isTypePath (hnames : AreNames (first :: steps)) (hinfer : first ≠ ['_'])
    (h : isTypePath (first :: steps) = false) : NoType 0 (joinWith [':', ':'] (first :: steps)) := by
  -- the first step is empty, starts with a digit or is an identifier
  obtain rfl | ⟨c, hhead, hdigit⟩ | hident := isIdentText_cases (hnames first List.mem_cons_self)
  · cases steps with
    | nil => exact noType_nil
    | cons step steps =>
      refine (noType_of_root (fun s hs => hnames s (List.mem_cons_of_mem _ hs)) ?_).noType
      simpa [isTypePath_cons] using h
  · exact noType_of_digit hnames hhead hdigit
  · by_cases htruth : String.ofList first ∈ truthWords
    · refine (noType_of_reserved hnames hident ?_ ?_ hinfer).noType
      all_goals
        obtain h | h : String.ofList first = "true" ∨ String.ofList first = "false" := by
          simpa [truthWords] using htruth
        all_goals
          rw [h]
          decide
    · exact (noType_of_isIdentText hnames hident hinfer htruth h).noType

end Steps

/-! ## Texts of arguments -/

/-- A text is an argument, wherever one can stand. -/
def IsArg (depth : Nat) (text : List Char) (arg : Arg) : Prop :=
  ∀ cs, AtStop cs → ∃ ts, Lexes (text ++ cs) ts cs ∧
    ∀ n, depth ≤ n → ∀ left rest, Stops rest → OpensArg (ts ++ rest) ∧
      Reads left (readers n).arg (ts ++ rest) arg rest

/-- A text is arguments before a closing angle bracket. -/
def IsArgs (depth : Nat) (text : List Char) (args : List Arg) : Prop :=
  ∀ cs, ∃ joint ts, Lexes (text ++ '>' :: cs) (ts ++ [.mark '>' joint]) cs ∧
    ∀ n, depth ≤ n → ∀ left rest fuel, ts.length < fuel →
      NoEqual (ts ++ .mark '>' joint :: rest) ∧
        Reads left (argsUpTo (readers n) fuel) (ts ++ .mark '>' joint :: rest) args
          (.mark '>' joint :: rest)

/-- A text is no arguments, whatever closes them. -/
def NoArgs (depth : Nat) (text : List Char) : Prop :=
  ∀ cs, AtStop cs → ∃ p ts more, Lexes (text ++ cs) ts more ∧ Halts p more ∧
    ∀ n, depth ≤ n → ∀ left fuel tail, (∀ t ∈ tail.head?, p t) →
      NoEqual (ts ++ tail) ∧ Rejects left (argsUpTo (readers n) fuel) (ts ++ tail)

/-- More fuel does not make a text arguments. -/
theorem NoArgs.mono {depth depth' : Nat} {text : List Char} (h : NoArgs depth text)
    (hle : depth ≤ depth') : NoArgs depth' text := by
  intro cs hcs
  obtain ⟨p, ts, more, hlex, hmore, hread⟩ := h cs hcs
  exact ⟨p, ts, more, hlex, hmore, fun n hn => hread n (hle.trans hn)⟩

/-- More fuel does not change what a text is as an argument. -/
theorem IsArg.mono {depth depth' : Nat} {text : List Char} {arg : Arg} (h : IsArg depth text arg)
    (hle : depth ≤ depth') : IsArg depth' text arg := by
  intro cs hcs
  obtain ⟨ts, hlex, hread⟩ := h cs hcs
  exact ⟨ts, hlex, fun n hn => hread n (hle.trans hn)⟩

/-- A type is an argument. -/
theorem IsType.isArg {depth : Nat} {text : List Char} {ty : Ty} (h : IsType depth text ty) :
    IsArg depth text (.type ty) := by
  intro cs hcs
  obtain ⟨t, ts, hlex, ht, hread⟩ := h cs hcs
  exact ⟨t :: ts, hlex, fun n hn left rest hrest =>
    ⟨ht.opensArg, reads_arg_of_ty ht (hread n hn left rest hrest) hrest⟩⟩

/-- More fuel does not change what a text is as arguments. -/
theorem IsArgs.mono {depth depth' : Nat} {text : List Char} {args : List Arg}
    (h : IsArgs depth text args) (hle : depth ≤ depth') : IsArgs depth' text args := by
  intro cs
  obtain ⟨joint, ts, hlex, hread⟩ := h cs
  exact ⟨joint, ts, hlex, fun n hn => hread n (hle.trans hn)⟩

/-- The empty text is no arguments. -/
theorem IsArgs.nil : IsArgs 0 [] [] := by
  intro cs
  refine ⟨_, [], Lexes.mark rfl cs, fun n hn left rest fuel hfuel => ?_⟩
  obtain ⟨fuel, rfl⟩ := Nat.exists_eq_add_of_lt hfuel
  exact ⟨⟨rfl, rfl⟩, reads_argsUpTo_nil _⟩

/-- An argument is a list of one. -/
theorem IsArg.isArgs {depth : Nat} {text : List Char} {arg : Arg} (h : IsArg depth text arg) :
    IsArgs depth text [arg] := by
  intro cs
  obtain ⟨ts, hlex, hread⟩ := h ('>' :: cs) (by simp [AtStop])
  refine ⟨_, ts, hlex.trans (Lexes.mark rfl cs), fun n hn left rest fuel hfuel => ?_⟩
  obtain ⟨fuel, rfl⟩ := Nat.exists_eq_add_of_lt hfuel
  obtain ⟨hstart, harg⟩ := hread n hn left (.mark '>' _ :: rest) (by simp [Stops])
  exact ⟨hstart.2, reads_argsUpTo_last hstart.1 harg⟩

/-- An argument before a comma goes before the others. -/
theorem IsArg.cons {depth : Nat} {text texts : List Char} {arg : Arg} {args : List Arg}
    (h : IsArg depth text arg) (hargs : IsArgs depth texts args) :
    IsArgs depth (text ++ ',' :: ' ' :: texts) (arg :: args) := by
  intro cs
  obtain ⟨ts, hlex, hread⟩ := h (',' :: ' ' :: (texts ++ '>' :: cs)) (by simp [AtStop])
  obtain ⟨joint, us, hlex', hread'⟩ := hargs cs
  refine ⟨joint, ts ++ .mark ',' false :: us, ?_, fun n hn left rest fuel hfuel => ?_⟩
  · have hcomma : Lexes (',' :: ' ' :: (texts ++ '>' :: cs)) [.mark ',' false] _ := Lexes.mark rfl _
    have hall := hlex.trans (hcomma.trans ((Lexes.blank _).trans hlex'))
    simpa using hall
  · -- the comma ends the first argument and leaves fuel for the others
    obtain ⟨fuel, rfl⟩ := Nat.exists_eq_add_of_lt hfuel
    rw [List.append_assoc]
    obtain ⟨hstart, harg⟩ := hread n hn left (.mark ',' false :: (us ++ .mark '>' joint :: rest))
      (by simp [Stops])
    refine ⟨hstart.2, reads_argsUpTo_cons hstart.1 harg (hread' n hn left rest _ ?_).2⟩
    simp only [List.length_append, List.length_cons]
    omega

/-- What starts with no argument is no list of them. -/
theorem rejects_argsUpTo {n fuel : Nat} (hstart : startsMarks ['>'] ts = false)
    (h : Rejects left (readers n).arg ts) : Rejects left (argsUpTo (readers n) fuel) ts := by
  cases fuel with
  | zero => exact .expecting _
  | succ fuel => exact rejects_argsUpTo_arg hstart h

/-- A text that is no type from its first token is no arguments either. -/
theorem NoTypeFrom.noArgs {text : List Char} (h : NoTypeFrom StartsType text) : NoArgs 0 text := by
  intro cs hcs
  obtain ⟨p, t, ts, more, hlex, ht, hmore, hread⟩ := h cs hcs
  refine ⟨p, t :: ts, more, hlex, hmore, fun n _ left fuel tail htail => ?_⟩
  refine ⟨ht.opensArg.2, rejects_argsUpTo ht.opensArg.1 ?_⟩
  exact rejects_arg_of_ty ht (rejects_ty (fun inner => hread inner left tail htail) n)

/-- A token that is a value on its own. -/
def IsValue (t : Token) (value : String) : Prop :=
  ∀ n left ts, OpensArg (t :: ts) ∧
    Reads left (readers n).arg (t :: ts) (.const (.literal value)) ts

/-- A literal is a value. -/
theorem isValue_literal (text : String) : IsValue (.literal text) text :=
  fun _ _ _ => ⟨⟨rfl, rfl, rfl⟩, reads_arg_literal text⟩

/-- A truth value is a value. -/
theorem isValue_truth {w : String} (hw : w ∈ truthWords) : IsValue (.word w) w :=
  fun _ _ _ => ⟨⟨rfl, rfl, rfl⟩, reads_arg_truth (by simpa [truthWords] using hw)⟩

section Steps

variable {first : List Char} {steps : List (List Char)}

/-- A value is no step of a path. -/
theorem noArgs_of_isValue {t : Token} {value : String} (ht : IsValue t value)
    (hlex : ∀ cs, AfterStep cs → Lexes (first ++ cs) [t] cs) (hne : steps ≠ []) :
    NoArgs 0 (joinWith [':', ':'] (first :: steps)) := by
  intro cs hcs
  obtain ⟨step, steps, rfl⟩ := List.exists_cons_of_ne_nil hne
  rw [joinWith_cons]
  refine ⟨fun t => ∃ joint, t = .mark ':' joint, [t], _, hlex _ (hcs.afterStep _), ?_, ?_⟩
  · refine .leaf rfl fun t rest hleaf => ?_
    rw [leaf?_mark rfl] at hleaf
    cases hleaf
    exact ⟨_, rfl⟩
  · intro n _ left fuel tail htail
    obtain ⟨hstart, hread⟩ := ht n left tail
    refine ⟨hstart.2, ?_⟩
    -- the value itself is read, but neither a comma nor the end of the arguments follows it
    cases fuel with
    | zero => exact .expecting _
    | succ fuel =>
      cases tail with
      | nil => exact rejects_argsUpTo_sep hstart.1 hread rfl rfl
      | cons t tail =>
        obtain ⟨joint, rfl⟩ := htail t rfl
        exact rejects_argsUpTo_sep hstart.1 hread rfl rfl

/-- A text that starts with a digit but with no number has no tokens. -/
theorem noArgs_of_digit (hnames : AreNames (first :: steps)) {c : Char}
    (hhead : first.head? = some c) (hdigit : c.isDigit = true) (hnumeral : isNumeral first = false) :
    NoArgs 0 (joinWith [':', ':'] (first :: steps)) := by
  intro cs hcs
  rw [joinWith_cons]
  have hname := hnames first List.mem_cons_self
  have hleaf := leaf?_of_digit hname (hcs.afterStep steps).atBorder hhead hdigit
  rw [hnumeral, if_neg Bool.false_ne_true] at hleaf
  obtain ⟨first, rfl⟩ := List.head?_eq_some_iff.mp hhead
  refine ⟨fun _ => False, [], _, .refl _, .leaf ?_ fun t rest ht => ?_, ?_⟩
  · simp [startsLeaf, hname c List.mem_cons_self]
  · exact absurd (hleaf.symm.trans ht) (by simp)
  · intro n _ left fuel tail htail
    obtain rfl : tail = [] := List.head?_eq_none_iff.mp (Option.eq_none_iff_forall_not_mem.mpr htail)
    refine ⟨⟨rfl, rfl⟩, rejects_argsUpTo rfl (.get (.ite_neg rfl (.ite_neg rfl (.first ?_))))⟩
    exact rejects_ty (fun inner => rejects_readTy_nil) n

/-- Steps that are neither a type nor a value are no arguments. -/
theorem noArgs_of_not_isTypePath (hnames : AreNames (first :: steps)) (hinfer : first ≠ ['_'])
    (h : isTypePath (first :: steps) = false) (hvalue : isValueText (first :: steps) = false) :
    NoArgs 0 (joinWith [':', ':'] (first :: steps)) := by
  have hname := hnames first List.mem_cons_self
  -- a first step that is a value by itself is refused for what follows it, so something does
  have hmore (hfirst : first.isEmpty || truthWords.contains (String.ofList first) ||
      isNumeral first) : steps ≠ [] := by
    rintro rfl
    rw [isValueText, hfirst] at hvalue
    cases hvalue
  obtain rfl | ⟨c, hhead, hdigit⟩ | hident := isIdentText_cases hname
  · obtain ⟨step, steps, rfl⟩ := List.exists_cons_of_ne_nil (hmore rfl)
    refine (noType_of_root (fun s hs => hnames s (List.mem_cons_of_mem _ hs)) ?_).noArgs
    simpa [isTypePath_cons] using h
  · cases hnumeral : isNumeral first with
    | false => exact noArgs_of_digit hnames hhead hdigit hnumeral
    | true =>
      exact noArgs_of_isValue (isValue_literal _)
        (fun cs hcs => Lexes.numeral hname hcs.atBorder hhead hdigit hnumeral)
        (hmore (by simp [hnumeral]))
  · by_cases htruth : String.ofList first ∈ truthWords
    · exact noArgs_of_isValue (isValue_truth htruth)
        (fun cs hcs => Lexes.word hname hcs.atBorder hident) (hmore (by simp [htruth]))
    · exact (noType_of_isIdentText hnames hident hinfer htruth h).noArgs

/-- A text that is one token with a value is an argument that is a constant. -/
theorem isArg_of_isValue {t : Token} {value : String} (ht : IsValue t value)
    (hlex : ∀ cs, AfterStep cs → Lexes (first ++ cs) [t] cs) :
    IsArg 1 first (.const (.literal value)) := by
  intro cs hcs
  exact ⟨[t], hlex cs (hcs.afterStep []), fun n _ left rest _ => ht n left rest⟩

/-- A name that is a value is an argument. -/
theorem isArg_of_isValueText (hname : ∀ c ∈ first, isNameChar c = true) (hne : first ≠ [])
    (h : isValueText [first] = true) :
    IsArg 1 first (.const (.literal (String.ofList first))) := by
  rw [isValueText, List.isEmpty_eq_false_iff.mpr hne, Bool.false_or, Bool.or_eq_true] at h
  obtain htruth | hnumeral := h
  · have htruth : String.ofList first ∈ truthWords := by simpa using htruth
    refine isArg_of_isValue (isValue_truth htruth) fun cs hcs => Lexes.word hname hcs.atBorder ?_
    obtain h | h : String.ofList first = "true" ∨ String.ofList first = "false" := by
      simpa [truthWords] using htruth
    all_goals
      obtain rfl : first = _ := by simpa using congrArg String.toList h
      decide
  · obtain ⟨c, cs, rfl⟩ := List.exists_cons_of_ne_nil hne
    have hdigit : c.isDigit = true := by
      by_contra hdigit
      rw [isNumeral, afterNumber?_of_not_digit (hname c List.mem_cons_self) (by simpa using hdigit)]
        at hnumeral
      cases hnumeral
    exact isArg_of_isValue (isValue_literal _)
      fun cs hcs => Lexes.numeral hname hcs.atBorder rfl hdigit hnumeral

/-- The value that a name is. -/
theorem isComplete_value_of_name (hname : ∀ c ∈ first, isNameChar c = true) :
    isComplete (Arg.const (.literal (String.ofList first))).pieces.2 = true := by
  rw [isComplete_argConst, isComplete_literal, bne_iff_ne]
  intro h
  have hround : '(' ∈ first := by
    have htext := congrArg String.toList h
    rw [String.toList_ofList] at htext
    rw [htext]
    decide
  exact absurd (hname _ hround) (by decide)

/-- Steps that are a type or a value, and not nothing, are an argument. -/
theorem exists_isArg (hnames : AreNames (first :: steps)) (hne : first :: steps ≠ [[]])
    (h : (isTypePath (first :: steps) || isValueText (first :: steps)) = true) :
    ∃ arg, isComplete (Arg.pieces arg).2 = true ∧
      IsArg 1 (joinWith [':', ':'] (first :: steps)) arg := by
  cases hpath : isTypePath (first :: steps) with
  | true =>
    obtain ⟨ty, hty, hread⟩ := isType_of_isTypePath hnames hpath
    exact ⟨.type ty, (isComplete_argType ty).trans (hty.complete false), hread.isArg⟩
  | false =>
    rw [hpath, Bool.false_or] at h
    cases steps with
    | nil =>
      have hname := hnames first List.mem_cons_self
      exact ⟨_, isComplete_value_of_name hname,
        isArg_of_isValueText hname (by simpa using hne) h⟩
    | cons => cases h

/-- Steps that are a type or a value are arguments. -/
theorem exists_isArgs (hnames : AreNames (first :: steps))
    (h : (isTypePath (first :: steps) || isValueText (first :: steps)) = true) :
    ∃ args : List Arg, args.all (isComplete ·.pieces.2) = true ∧
      IsArgs 1 (joinWith [':', ':'] (first :: steps)) args := by
  by_cases hne : first :: steps = [[]]
  · obtain ⟨rfl, rfl⟩ := List.cons.inj hne
    exact ⟨[], rfl, IsArgs.nil.mono (Nat.zero_le 1)⟩
  · obtain ⟨arg, harg, hread⟩ := exists_isArg hnames hne h
    exact ⟨[arg], by simpa using harg, hread.isArgs⟩

end Steps

/-! ## Texts of several arguments -/

/-- A text that is no arguments makes none with others behind it. -/
theorem NoArgs.first {depth : Nat} {text : List Char} (h : NoArgs depth text) (texts : List Char) :
    NoArgs depth (text ++ ',' :: ' ' :: texts) := by
  intro cs hcs
  rw [List.append_assoc]
  exact h _ (by simp [AtStop])

/-- Nothing cannot be one of several arguments. -/
theorem noArgs_comma (texts : List Char) : NoArgs 0 (',' :: texts) := by
  intro cs hcs
  refine ⟨fun t => ∃ joint, t = .mark ',' joint, [], _, .refl _, .leaf rfl fun t rest hleaf => ?_, ?_⟩
  · rw [leaf?_mark rfl] at hleaf
    cases hleaf
    exact ⟨_, rfl⟩
  · intro n _ left fuel tail htail
    cases tail with
    | nil =>
      refine ⟨⟨rfl, rfl⟩, rejects_argsUpTo rfl (.get (.ite_neg rfl (.ite_neg rfl (.first ?_))))⟩
      exact rejects_ty (fun inner => rejects_readTy_nil) n
    | cons t tail =>
      obtain ⟨joint, rfl⟩ := htail t rfl
      refine ⟨⟨rfl, rfl⟩, rejects_argsUpTo rfl (.get (.ite_neg rfl (.ite_neg rfl (.first ?_))))⟩
      exact rejects_ty (fun inner => rejects_readTy_stop (by simp [Stops])) n

/-- An argument makes no arguments with a text behind it that is none. -/
theorem IsArg.noArgs {depth : Nat} {text texts : List Char} {arg : Arg} (h : IsArg depth text arg)
    (hargs : NoArgs depth texts) : NoArgs depth (text ++ ',' :: ' ' :: texts) := by
  intro cs hcs
  obtain ⟨ts, hlex, hread⟩ := h (',' :: ' ' :: (texts ++ cs)) (by simp [AtStop])
  obtain ⟨p, us, more, hlex', hmore, hread'⟩ := hargs cs hcs
  refine ⟨p, ts ++ .mark ',' false :: us, more, ?_, hmore, fun n hn left fuel tail htail => ?_⟩
  · have hcomma : Lexes (',' :: ' ' :: (texts ++ cs)) [.mark ',' false] _ := Lexes.mark rfl _
    have hall := hlex.trans (hcomma.trans ((Lexes.blank _).trans hlex'))
    simpa using hall
  · rw [List.append_assoc]
    obtain ⟨hstart, harg⟩ := hread n hn left (.mark ',' false :: (us ++ tail)) (by simp [Stops])
    refine ⟨hstart.2, ?_⟩
    cases fuel with
    | zero => exact .expecting _
    | succ fuel => exact rejects_argsUpTo_cons hstart.1 harg (hread' n hn left fuel tail htail).2

end ProtoRest.Code
