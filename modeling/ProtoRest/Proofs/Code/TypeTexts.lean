import ProtoRest.Code.Ident
import ProtoRest.Proofs.Code.TypeArguments
import ProtoRest.Proofs.Verdict
import ProtoRest.Route.BindingOfRule

/-! # Texts of types
What the text of a type reads as, for every text that generated code mentions: the path of a type,
and the list, the map or the option around it. -/

namespace ProtoRest.Code

open ProtoRest.Text ProtoRest.Schema Read Readers

variable {left : Option Char} {ts tail rest : List Token}

/-! ## Reading a whole text -/

/-- A text is always read to a depth of four at least. -/
theorem four_le_depthOf (tokens : List Token) : 4 ≤ depthOf tokens := by
  induction tokens with
  | nil => exact le_rfl
  | cons t ts ih =>
    rw [depthOf]
    exact ih.trans (Nat.le_add_left _ _)

variable {text : String} {depth : Nat}

/-- A text that writes a type within the depth is read as that type. -/
theorem ofText_eq_ok {ty : Ty} (hmark : text.toList.head? ≠ some '\ufeff')
    (h : IsType depth text.toList ty) (hdepth : depth ≤ 4) : Ty.ofText text = .ok ty := by
  obtain ⟨t, ts, hlex, -, hread⟩ := h [] (by simp [AtStop])
  rw [List.append_nil] at hlex
  have hread := hread _ (hdepth.trans (four_le_depthOf (t :: ts))) none [] (by simp [Stops])
  rw [List.append_nil] at hread
  rw [Ty.ofText, tokenTree?_of_lexes hlex hmark]
  show ((readers (depthOf (t :: ts))).ty true ⟨t :: ts, none⟩ >>= _) = _
  rw [hread]
  rfl

/-- A text that writes no type is answered with a fault. -/
theorem ofText_eq_error (hmark : text.toList.head? ≠ some '\ufeff')
    (h : NoType depth text.toList) (hdepth : depth ≤ 4) :
    ∃ fault, Ty.ofText text = .error fault := by
  obtain ⟨p, ts, more, hlex, hmore, hread⟩ := h [] (by simp [AtStop])
  rw [List.append_nil] at hlex
  rw [Ty.ofText]
  cases htree : tokenTree? text.toList with
  | none => exact ⟨_, rfl⟩
  | some all =>
    obtain ⟨tail, rfl, htail⟩ := tokenTree?_of_halts hlex hmore hmark htree
    obtain ⟨fault, hfault⟩ := hread _ (hdepth.trans (four_le_depthOf (ts ++ tail))) none tail htail
    refine ⟨fault, ?_⟩
    show ((readers (depthOf (ts ++ tail))).ty true ⟨ts ++ tail, none⟩ >>= _) = _
    rw [hfault]
    rfl

/-- A text that is decided to be a type decides what is made of it. -/
theorem decides_tyOfText (depth : Nat) {c : Prop} (hmark : text.toList.head? ≠ some '\ufeff')
    (hdepth : depth ≤ 4)
    (hc : c → ∃ ty, ty.IsPlain ∧ IsType depth text.toList ty)
    (hnot : ¬c → NoType depth text.toList) : Decides c Ty.IsPlain (tyOfText text) := by
  refine ⟨fun h => ?_, fun h => ?_⟩
  · obtain ⟨ty, hty, hread⟩ := hc h
    refine ⟨ty, ?_, hty⟩
    rw [tyOfText, ofText_eq_ok hmark hread hdepth]
  · obtain ⟨fault, hfault⟩ := ofText_eq_error hmark (hnot h) hdepth
    rw [tyOfText, hfault]
    exact ⟨_, rfl, rfl⟩

/-! ## Texts of paths -/

/-- A character other than a colon joins the first step of what follows. -/
theorem pathSteps_cons {c : Char} (hc : c ≠ ':') (cs : List Char) {step : List Char}
    {steps : List (List Char)} (h : pathSteps cs = step :: steps) :
    pathSteps (c :: cs) = (c :: step) :: steps := by
  rw [pathSteps]
  · rw [h]
  · rintro rest rfl
    exact absurd rfl hc

/-- A word without colons in front of a separator is the first step. -/
theorem pathSteps_append {w cs : List Char} (hw : ':' ∉ w) {steps : List (List Char)}
    (h : pathSteps cs = [] :: steps) : pathSteps (w ++ cs) = w :: steps := by
  induction w with
  | nil => exact h
  | cons c w ih =>
    rw [List.mem_cons, not_or] at hw
    exact pathSteps_cons (Ne.symm hw.1) _ (ih hw.2)

/-- The steps of a text are those that it was joined from. -/
theorem pathSteps_joinWith {first : List Char} {steps : List (List Char)}
    (h : ∀ step ∈ first :: steps, ':' ∉ step) :
    pathSteps (joinWith [':', ':'] (first :: steps)) = first :: steps := by
  rw [← List.append_nil (joinWith _ _), joinWith_cons]
  induction steps generalizing first with
  | nil => exact pathSteps_append (h first List.mem_cons_self) rfl
  | cons step steps ih =>
    refine pathSteps_append (h first List.mem_cons_self) ?_
    exact congrArg ([] :: ·) (ih fun s hs => h s (List.mem_cons_of_mem first hs))

/-- No name of a path holds a colon. -/
theorem AreNames.notMem_colon {steps : List (List Char)} (hnames : AreNames steps) :
    ∀ step ∈ steps, ':' ∉ step :=
  fun step hstep hmem => absurd (hnames step hstep ':' hmem) (by decide)

/-- A text is empty brackets or a path of names, the first of which is no lone underscore. -/
def IsNamedText (text : String) : Prop :=
  text = "()" ∨ ∃ first steps, AreNames (first :: steps) ∧ first ≠ ['_'] ∧
    text.toList = joinWith [':', ':'] (first :: steps)

/-- A path of names does not begin with a byte order mark. -/
theorem joinWith_head? {first : List Char} {steps : List (List Char)}
    (hnames : AreNames (first :: steps)) :
    (joinWith [':', ':'] (first :: steps)).head? ≠ some '\ufeff' := by
  rw [← List.append_nil (joinWith _ _), joinWith_cons]
  cases first with
  | nil => cases steps <;> simp [afterFirst]
  | cons c first =>
    rw [List.cons_append, List.head?_cons]
    rintro h
    obtain rfl := Option.some.inj h
    exact absurd (hnames _ List.mem_cons_self _ List.mem_cons_self) (by decide)

/-- A text of the named sort does not begin with a byte order mark. -/
theorem IsNamedText.head? (h : IsNamedText text) : text.toList.head? ≠ some '\ufeff' := by
  obtain rfl | ⟨first, steps, hnames, -, htext⟩ := h
  · decide
  · rw [htext]
    exact joinWith_head? hnames

/-- An empty pair of round brackets is read as the unit type. -/
theorem reads_readTy_unit {inner : Readers} :
    Reads left (inner.readTy true) (.group .round [] :: rest) .unit rest := by
  have hinside : Reads left (inside .round inner.parenContent) (.group .round [] :: rest)
      (.whole .unit) rest := by
    cases left <;> rfl
  exact .bind (a := none) rfl (.get (.ite_neg rfl (.ite_pos rfl (.bind hinside rfl))))

/-- The text of two round brackets writes the unit type. -/
theorem isType_unit : IsType 1 ['(', ')'] .unit :=
  .of_readTy fun cs _ => ⟨_, [], Lexes.unit cs, rfl, fun _ _ _ _ => reads_readTy_unit⟩

/-- The unit type is plain. -/
theorem isPlain_unit : Ty.unit.IsPlain := ⟨isComplete_unit, rfl, rfl⟩

/-- A named text that passes the check for a type writes a plain type. -/
theorem IsNamedText.exists_isType (h : IsNamedText text) (htext : isTypeText text = true) :
    ∃ ty, ty.IsPlain ∧ IsType 1 text.toList ty := by
  obtain rfl | ⟨first, steps, hnames, -, hsteps⟩ := h
  · exact ⟨_, isPlain_unit, isType_unit⟩
  · rw [isTypeText, Bool.or_eq_true, beq_iff_eq] at htext
    obtain rfl | htext := htext
    · exact ⟨_, isPlain_unit, isType_unit⟩
    · rw [hsteps, pathSteps_joinWith hnames.notMem_colon] at htext
      rw [hsteps]
      exact isType_of_isTypePath hnames htext

/-- What is made of names and is no type has steps that are no path of a type. -/
theorem IsNamedText.exists_steps (h : IsNamedText text) (htype : isTypeText text = false) :
    ∃ first steps, AreNames (first :: steps) ∧ first ≠ ['_'] ∧
      text.toList = joinWith [':', ':'] (first :: steps) ∧ pathSteps text.toList = first :: steps ∧
      isTypePath (first :: steps) = false := by
  rw [isTypeText, Bool.or_eq_false_iff, beq_eq_false_iff_ne] at htype
  obtain rfl | ⟨first, steps, hnames, hinfer, hsteps⟩ := h
  · exact absurd rfl htype.1
  · have hpath : pathSteps text.toList = first :: steps := by
      rw [hsteps, pathSteps_joinWith hnames.notMem_colon]
    rw [hpath] at htype
    exact ⟨first, steps, hnames, hinfer, hsteps, hpath, htype.2⟩

/-- A named text that fails the check for a type writes none. -/
theorem IsNamedText.noType (h : IsNamedText text) (htext : isTypeText text = false) :
    NoType 0 text.toList := by
  obtain ⟨first, steps, hnames, hinfer, hsteps, -, htype⟩ := h.exists_steps htext
  rw [hsteps]
  exact noType_of_not_isTypePath hnames hinfer htype

/-- The steps of a named text decide what is made of it. -/
theorem IsNamedText.decides_tyOfText (h : IsNamedText text) :
    Decides (isTypeText text = true) Ty.IsPlain (tyOfText text) :=
  Code.decides_tyOfText 1 h.head? (by decide) h.exists_isType
    fun hnot => (h.noType (by simpa using hnot)).mono (by decide)

/-- A named text that passes the check for arguments writes a list of whole ones. -/
theorem IsNamedText.exists_isArgs (h : IsNamedText text) (htext : isArgsText text = true) :
    ∃ args : List Arg, args.all (isComplete ·.pieces.2) = true ∧ IsArgs 1 text.toList args := by
  cases htype : isTypeText text with
  | true =>
    obtain ⟨ty, hty, hread⟩ := h.exists_isType htype
    exact ⟨[.type ty], by simpa using hty.complete false, hread.isArg.isArgs⟩
  | false =>
    obtain ⟨first, steps, hnames, -, hsteps, hpath, -⟩ := h.exists_steps htype
    rw [isArgsText, htype, Bool.false_or, hpath] at htext
    rw [hsteps]
    exact Code.exists_isArgs hnames (by rw [htext, Bool.or_true])

/-- A named text that passes the check for one argument writes a whole one. -/
theorem IsNamedText.exists_isArg (h : IsNamedText text) (htext : isArgText text = true) :
    ∃ arg, isComplete (Arg.pieces arg).2 = true ∧ IsArg 1 text.toList arg := by
  rw [isArgText, Bool.and_eq_true, bne_iff_ne] at htext
  obtain ⟨hne, htext⟩ := htext
  cases htype : isTypeText text with
  | true =>
    obtain ⟨ty, hty, hread⟩ := h.exists_isType htype
    exact ⟨.type ty, by simpa using hty.complete false, hread.isArg⟩
  | false =>
    obtain ⟨first, steps, hnames, -, hsteps, hpath, -⟩ := h.exists_steps htype
    rw [isArgsText, htype, Bool.false_or, hpath] at htext
    rw [hsteps]
    refine Code.exists_isArg hnames (fun hempty => hne ?_) (by rw [htext, Bool.or_true])
    rw [hempty] at hsteps
    exact String.toList_inj.mp hsteps

/-- A named text that fails the check for arguments writes none. -/
theorem IsNamedText.noArgs (h : IsNamedText text) (htext : isArgsText text = false) :
    NoArgs 0 text.toList := by
  rw [isArgsText, Bool.or_eq_false_iff] at htext
  obtain ⟨htype, hvalue⟩ := htext
  obtain ⟨first, steps, hnames, hinfer, hsteps, hpath, htype⟩ := h.exists_steps htype
  rw [hpath] at hvalue
  rw [hsteps]
  exact noArgs_of_not_isTypePath hnames hinfer htype hvalue

/-- A text that is no argument cannot be the first of several. -/
theorem IsNamedText.noArgs_first (h : IsNamedText text) (htext : isArgText text = false)
    (texts : List Char) : NoArgs 0 (text.toList ++ ',' :: ' ' :: texts) := by
  cases hargs : isArgsText text with
  | false => exact (h.noArgs hargs).first texts
  | true =>
    rw [isArgText, hargs, Bool.and_true, bne_eq_false_iff_eq] at htext
    subst htext
    exact noArgs_comma _

end ProtoRest.Code
