import ProtoRest.Proofs.Code.Reading

/-! # Reading types
The tokens that a type can start with, and what is read then: a path, a bound after its word, or
arguments in angle brackets. Tokens that start no type are rejected, whatever follows them. -/

namespace ProtoRest.Code

open Read Readers

variable {left : Option Char} {ts mid rest : List Token}

/-! ## Tokens that start no type -/

/-- Whether tokens end, or go on with what can follow a name in the text of a type. -/
def Borders (ts : List Token) : Prop :=
  ∀ t ∈ ts.head?, ∃ c joint, t = .mark c joint ∧ (c = ':' ∨ c = ',' ∨ c = '>')

/-- What can follow a name is the end, a colon, a comma or an angle bracket. -/
theorem Borders.cases (h : Borders ts) : ts = [] ∨ ∃ c joint more, ts = .mark c joint :: more ∧
    (c = ':' ∨ c = ',' ∨ c = '>') := by
  cases ts with
  | nil => exact .inl rfl
  | cons t ts =>
    obtain ⟨c, joint, rfl, hc⟩ := h t rfl
    exact .inr ⟨c, joint, ts, rfl, hc⟩

/-- What can follow a name starts with no other mark. -/
theorem Borders.startsMarks {m : Char} (h : Borders ts) (hm : m ≠ ':' ∧ m ≠ ',' ∧ m ≠ '>')
    (ms : List Char) : startsMarks (m :: ms) ts = false := by
  obtain rfl | ⟨c, joint, more, rfl, hc⟩ := h.cases
  · cases ms <;> rfl
  · have hne : (m == c) = false := by
      obtain rfl | rfl | rfl := hc
      · simpa using hm.1
      · simpa using hm.2.1
      · simpa using hm.2.2
    cases ms <;> simp [Code.startsMarks, hne]

section NoType

variable {inner : Readers}

/-- No tokens are no type. -/
theorem rejects_readTy_nil : Rejects left (inner.readTy true) [] := ⟨_, rfl⟩

/-- A literal is no type. -/
theorem rejects_readTy_literal (text : String) :
    Rejects left (inner.readTy true) (.literal text :: ts) := ⟨_, rfl⟩

/-- Where a type stops, none starts. -/
theorem rejects_readTy_stop (h : Stops ts) : Rejects left (inner.readTy true) ts := by
  cases ts with
  | nil => exact rejects_readTy_nil
  | cons t ts => obtain ⟨joint, rfl | rfl⟩ := h t rfl <;> exact ⟨_, rfl⟩

/-- The words that start types which are no paths. -/
def otherTypeWords : List String := ["for", "fn", "unsafe", "extern", "dyn", "impl", "_"]

/-- The word for binders starts no type without a list behind it. -/
theorem rejects_readTy_for (h : Borders ts) : Rejects left (inner.readTy true) (.word "for" :: ts) := by
  obtain rfl | ⟨c, joint, more, rfl, rfl | rfl | rfl⟩ := h.cases <;> exact ⟨_, rfl⟩

/-- The word for functions starts no type without brackets behind it. -/
theorem rejects_readTy_fn (h : Borders ts) : Rejects left (inner.readTy true) (.word "fn" :: ts) := by
  obtain rfl | ⟨c, joint, more, rfl, rfl | rfl | rfl⟩ := h.cases <;> exact ⟨_, rfl⟩

/-- The word for unsafe functions starts no type without a function behind it. -/
theorem rejects_readTy_unsafe (h : Borders ts) :
    Rejects left (inner.readTy true) (.word "unsafe" :: ts) := by
  obtain rfl | ⟨c, joint, more, rfl, rfl | rfl | rfl⟩ := h.cases <;> exact ⟨_, rfl⟩

/-- The word for foreign functions starts no type without a function behind it. -/
theorem rejects_readTy_extern (h : Borders ts) :
    Rejects left (inner.readTy true) (.word "extern" :: ts) := by
  obtain rfl | ⟨c, joint, more, rfl, rfl | rfl | rfl⟩ := h.cases <;> exact ⟨_, rfl⟩

/-- The word for trait objects starts no type without bounds behind it. -/
theorem rejects_readTy_dyn (h : Stops ts) : Rejects left (inner.readTy true) (.word "dyn" :: ts) := by
  cases ts with
  | nil => exact ⟨_, rfl⟩
  | cons t ts => obtain ⟨joint, rfl | rfl⟩ := h t rfl <;> exact ⟨_, rfl⟩

/-- The word for types given by bounds starts no type without bounds behind it. -/
theorem rejects_readTy_impl (h : Stops ts) : Rejects left (inner.readTy true) (.word "impl" :: ts) := by
  cases ts with
  | nil => exact ⟨_, rfl⟩
  | cons t ts => obtain ⟨joint, rfl | rfl⟩ := h t rfl <;> exact ⟨_, rfl⟩

/-- A reserved word that neither starts a path nor another type starts no type. -/
theorem rejects_readTy_reserved {w : String} (hw : isFirstWord w = false)
    (hother : w ∉ otherTypeWords) (h : Borders ts) :
    Rejects left (inner.readTy true) (.word w :: ts) := by
  have hnone (words : List String) (hwords : ∀ v ∈ words, v ∈ otherTypeWords ∨ isFirstWord v = true) :
      words.contains w = false := by
    rw [List.contains_eq_mem, decide_eq_false_iff_not]
    intro hmem
    obtain hv | hv := hwords w hmem
    · exact hother hv
    · exact absurd (hv.symm.trans hw) (by decide)
  have hword (v : String) (hv : v ∈ otherTypeWords) :
      (Cursor.mk (.word w :: ts) left).startsWord v = false := by
    simpa [Cursor.startsWord] using hnone [v] (by simpa using Or.inl hv)
  have hbinder : Reads left inner.binderIf (.word w :: ts) none (.word w :: ts) :=
    .get (.ite_neg (hword "for" (by decide)) rfl)
  have hbuiltin : startsBuiltin (Cursor.mk (.word w :: ts) left) = false := by
    rw [startsBuiltin, Bool.and_eq_false_iff]
    exact .inr (h.startsMarks (by decide) [])
  have hstarts : ((Cursor.mk (.word w :: ts) left).startsIdent ||
      (Cursor.mk (.word w :: ts) left).startsWordOf ["super", "self", "Self", "crate"]) = false := by
    rw [startsWordOf_word, hnone _ (by decide), Bool.or_false]
    have hreserved : w ∈ reservedWords := by
      refine Decidable.byContradiction fun hfree => ?_
      simp [isFirstWord, hfree] at hw
    simp [Cursor.startsIdent, hreserved]
  have hkeyword (v : String) (hv : v ∈ otherTypeWords) :
      Reads left (keywordIf v) (.word w :: ts) false (.word w :: ts) :=
    .get (.ite_neg (hword v hv) rfl)
  -- every branch is passed over in turn, down to the error after the last one
  refine .after hbinder (.get (.ite_neg rfl (.ite_neg rfl ?_)))
  refine .ite_neg ((startsWordOf_word w _).trans (hnone _ (by decide))) ?_
  refine .ite_neg hbuiltin (.ite_neg (by rw [hstarts]; rfl) ?_)
  refine .after (hkeyword "dyn" (by decide)) (.ite_neg rfl ?_)
  refine .ite_neg rfl (.ite_neg rfl (.ite_neg rfl ?_))
  refine .after (reads_markIf_not rfl) (.ite_neg rfl ?_)
  refine .after (hkeyword "impl" (by decide)) (.ite_neg rfl ?_)
  exact .after (hkeyword "_" (by decide)) (.ite_neg rfl (.ite_neg rfl (.expecting _)))

end NoType

/-! ## Types of a bound -/

section Bounds

variable {inner : Readers} {path : Path}

/-- A path from the root is read as the only bound. -/
theorem reads_bounds (captureAllowed constAllowed : Bool) {joint : Bool}
    (hpath : Reads left (inner.path false) (.mark ':' true :: .mark ':' joint :: ts) path rest)
    (hrest : Stops rest) :
    Reads left (inner.bounds true captureAllowed constAllowed)
      (.mark ':' true :: .mark ':' joint :: ts) ([.of path], false) rest := by
  have htrait : Reads left inner.traitPath (.mark ':' true :: .mark ':' joint :: ts) path rest := by
    refine .bind hpath (.get ?_)
    cases openName? path.segments with
    | none => rfl
    | some before =>
      refine .ite_neg ?_ rfl
      rw [hrest.startsGroup, hrest.startsWith rfl (by decide)]
      rfl
  have hbound : Reads left (inner.readBound captureAllowed constAllowed)
      (.mark ':' true :: .mark ':' joint :: ts) (.of path) rest := by
    refine .get (.ite_neg rfl (.ite_neg rfl (.ite_neg rfl ?_)))
    refine .bind (a := none) rfl ?_
    refine .bind (a := false) rfl ?_
    exact .bind (reads_markIf_not rfl) (.bind (.pure none) (.bind htrait rfl))
  -- what follows a type is no sign for one more bound
  have hmore : Reads left (inner.moreBounds captureAllowed constAllowed (rest.length + 1)) rest
      ([], false) rest :=
    .bind (reads_markIf_not (hrest.startsMarks (by decide))) rfl
  exact .bind hbound (.bind reads_fuel (.bind hmore rfl))

/-- What is no path from the root is no bound. -/
theorem rejects_bounds (captureAllowed constAllowed : Bool) {joint : Bool}
    (hpath : Rejects left (inner.path false) (.mark ':' true :: .mark ':' joint :: ts)) :
    Rejects left (inner.bounds true captureAllowed constAllowed)
      (.mark ':' true :: .mark ':' joint :: ts) := by
  have hbound : Rejects left (inner.readBound captureAllowed constAllowed)
      (.mark ':' true :: .mark ':' joint :: ts) := by
    refine .get (.ite_neg rfl (.ite_neg rfl (.ite_neg rfl ?_)))
    refine .after (a := none) rfl ?_
    refine .after (a := false) rfl ?_
    exact .after (reads_markIf_not rfl) (.after (.pure none) (.first (.first hpath)))
  exact .first hbound

/-- The type that a path from the root is after a word for bounds. -/
def Ty.ofBound (word : String) (path : Path) : Ty :=
  if word = "dyn" then .object true [.of path] false else .impl [.of path] false

/-- A word for bounds with a path from the root is read as the type with that bound. -/
theorem reads_readTy_bound {w : String} (hw : w ∈ boundWords) {joint : Bool}
    (hpath : Reads left (inner.path false) (.mark ':' true :: .mark ':' joint :: ts) path rest)
    (hrest : Stops rest) :
    Reads left (inner.readTy true) (.word w :: .mark ':' true :: .mark ':' joint :: ts)
      (.ofBound w path) rest := by
  -- each of the two words has a branch of its own in the reader
  obtain rfl | rfl : w = "dyn" ∨ w = "impl" := by simpa [boundWords] using hw
  · refine .bind (a := none) rfl (.get (.ite_neg rfl (.ite_neg rfl (.ite_neg rfl ?_))))
    refine .ite_neg rfl (.ite_neg rfl (.bind (a := true) rfl (.ite_pos rfl ?_)))
    have hobject : Reads left (inner.objectTy true true) (.mark ':' true :: .mark ':' joint :: ts)
        (.object true [.of path] false) rest := .bind (reads_bounds false false hpath hrest) rfl
    exact .bind (reads_markIf_not rfl) (.bind hobject rfl)
  · refine .bind (a := none) rfl (.get (.ite_neg rfl (.ite_neg rfl (.ite_neg rfl ?_))))
    refine .ite_neg rfl (.ite_neg rfl (.bind (a := false) rfl (.ite_neg rfl ?_)))
    refine .ite_neg rfl (.ite_neg rfl (.ite_neg rfl (.bind (a := false) rfl (.ite_neg rfl ?_))))
    refine .bind (a := true) rfl (.ite_pos rfl ?_)
    exact .bind (reads_bounds true true hpath hrest) rfl

/-- A word for bounds without a path behind it is no type. -/
theorem rejects_readTy_bound {w : String} (hw : w ∈ boundWords) {joint : Bool}
    (hpath : Rejects left (inner.path false) (.mark ':' true :: .mark ':' joint :: ts)) :
    Rejects left (inner.readTy true) (.word w :: .mark ':' true :: .mark ':' joint :: ts) := by
  obtain rfl | rfl : w = "dyn" ∨ w = "impl" := by simpa [boundWords] using hw
  · refine .after (a := none) rfl (.get (.ite_neg rfl (.ite_neg rfl (.ite_neg rfl ?_))))
    refine .ite_neg rfl (.ite_neg rfl (.after (a := true) rfl (.ite_pos rfl ?_)))
    exact .after (reads_markIf_not rfl) (.first (.first (rejects_bounds false false hpath)))
  · refine .after (a := none) rfl (.get (.ite_neg rfl (.ite_neg rfl (.ite_neg rfl ?_))))
    refine .ite_neg rfl (.ite_neg rfl (.after (a := false) rfl (.ite_neg rfl ?_)))
    refine .ite_neg rfl (.ite_neg rfl (.ite_neg rfl (.after (a := false) rfl (.ite_neg rfl ?_))))
    refine .after (a := true) rfl (.ite_pos rfl ?_)
    exact .first (rejects_bounds true true hpath)

end Bounds

/-! ## Arguments -/

section Arguments

variable {inner : Readers} {arg : Arg} {args : List Arg}

/-- A token that starts a type and nothing else that can stand among arguments. -/
def StartsType : Token → Prop
  | .word w => w ≠ "true" ∧ w ≠ "false"
  | .mark c _ => c = ':'
  | .group b _ => b = .round
  | .raw _ | .lifetime _ | .literal _ => False

/-- What starts a type starts neither a constant nor a lifetime. -/
theorem startsConst_of_startsType {t : Token} (ht : StartsType t) (ts : List Token)
    (left : Option Char) :
    startsConst (Cursor.mk (t :: ts) left) = false ∧
      (Cursor.mk (t :: ts) left).startsLifetime = false := by
  cases t with
  | word w =>
    refine ⟨?_, rfl⟩
    simp [startsConst, Cursor.startsLiteral, Cursor.literal?, Cursor.startsGroup, ht.1, ht.2]
  | mark c joint =>
    obtain rfl : c = ':' := ht
    exact ⟨rfl, rfl⟩
  | group b inner =>
    obtain rfl : b = .round := ht
    exact ⟨rfl, rfl⟩
  | raw => exact ht.elim
  | lifetime => exact ht.elim
  | literal => exact ht.elim

/-- Tokens that go on after an opening angle bracket without making another mark of it. -/
def NoEqual (ts : List Token) : Prop :=
  startsMarks ['='] ts = false ∧ startsMarks ['<', '='] ts = false

/-- Tokens that can start an argument. -/
def OpensArg (ts : List Token) : Prop := startsMarks ['>'] ts = false ∧ NoEqual ts

/-- What starts a type opens an argument. -/
theorem StartsType.opensArg {t : Token} (ht : StartsType t) : OpensArg (t :: ts) := by
  cases t with
  | word => exact ⟨rfl, rfl, rfl⟩
  | mark c joint =>
    obtain rfl : c = ':' := ht
    exact ⟨rfl, rfl, rfl⟩
  | group => exact ⟨rfl, rfl, rfl⟩
  | raw => exact ht.elim
  | lifetime => exact ht.elim
  | literal => exact ht.elim

/-- A type that is read is read as an argument. -/
theorem reads_arg_of_ty {t : Token} (ht : StartsType t) {ty : Ty}
    (hty : Reads left (inner.ty true) (t :: ts) ty rest) (hrest : Stops rest) :
    Reads left inner.arg (t :: ts) (.type ty) rest := by
  obtain ⟨hconst, hlifetime⟩ := startsConst_of_startsType ht ts left
  refine .get (.ite_neg (by rw [hlifetime]; rfl) (.ite_neg hconst (.bind hty ?_)))
  cases singleSegment? ty with
  | none => rfl
  | some segment =>
    refine .bind (reads_markIf_not (hrest.startsMarks (by decide))) (.ite_neg rfl ?_)
    exact .bind (reads_markIf_not (hrest.startsMarks (by decide))) (.ite_neg rfl rfl)

/-- What starts like a type and is none is no argument. -/
theorem rejects_arg_of_ty {t : Token} (ht : StartsType t)
    (hty : Rejects left (inner.ty true) (t :: ts)) : Rejects left inner.arg (t :: ts) := by
  obtain ⟨hconst, hlifetime⟩ := startsConst_of_startsType ht ts left
  exact .get (.ite_neg (by rw [hlifetime]; rfl) (.ite_neg hconst (.first hty)))

/-- A literal is read as an argument that is a constant. -/
theorem reads_arg_literal (text : String) :
    Reads left inner.arg (.literal text :: ts) (.const (.literal text)) ts := rfl

/-- A truth value is read as an argument that is a constant. -/
theorem reads_arg_truth {w : String} (hw : w = "true" ∨ w = "false") :
    Reads left inner.arg (.word w :: ts) (.const (.literal w)) ts := by
  obtain rfl | rfl := hw <;> rfl

/-- Reads arguments up to a closing angle bracket. -/
def argsUpTo (inner : Readers) (fuel : Nat) : Read (List Arg) :=
  separated "," (·.startsWith ">") inner.arg fuel

variable {n : Nat}

/-- Before the closing bracket there are no arguments. -/
theorem reads_argsUpTo_nil (joint : Bool) :
    Reads left (argsUpTo inner (n + 1)) (.mark '>' joint :: ts) [] (.mark '>' joint :: ts) :=
  .get (.ite_pos rfl rfl)

/-- An argument before the closing bracket is the last one. -/
theorem reads_argsUpTo_last (hstart : startsMarks ['>'] ts = false) {joint : Bool}
    (harg : Reads left inner.arg ts arg (.mark '>' joint :: rest)) :
    Reads left (argsUpTo inner (n + 1)) ts [arg] (.mark '>' joint :: rest) :=
  .get (.ite_neg hstart (.bind harg (.get (.ite_pos rfl rfl))))

/-- An argument before a comma is followed by the others. -/
theorem reads_argsUpTo_cons (hstart : startsMarks ['>'] ts = false) {joint : Bool}
    (harg : Reads left inner.arg ts arg (.mark ',' joint :: mid))
    (hargs : Reads left (argsUpTo inner n) mid args rest) :
    Reads left (argsUpTo inner (n + 1)) ts (arg :: args) rest :=
  .get (.ite_neg hstart (.bind harg (.get (.ite_neg rfl (.bind (reads_mark rfl) (.bind hargs rfl))))))

/-- What starts with no argument is no list of them. -/
theorem rejects_argsUpTo_arg (hstart : startsMarks ['>'] ts = false)
    (harg : Rejects left inner.arg ts) : Rejects left (argsUpTo inner (n + 1)) ts :=
  .get (.ite_neg hstart (.first harg))

/-- Something else than a comma or the closing bracket ends no argument. -/
theorem rejects_argsUpTo_sep (hstart : startsMarks ['>'] ts = false)
    (harg : Reads left inner.arg ts arg rest) (hrest : startsMarks ['>'] rest = false)
    (hsep : startsMarks [','] rest = false) : Rejects left (argsUpTo inner (n + 1)) ts :=
  .get (.ite_neg hstart (.after harg (.get (.ite_neg hrest (.first (rejects_mark hsep))))))

/-- An argument before a comma makes no list when the others do not. -/
theorem rejects_argsUpTo_cons (hstart : startsMarks ['>'] ts = false) {joint : Bool}
    (harg : Reads left inner.arg ts arg (.mark ',' joint :: mid))
    (hargs : Rejects left (argsUpTo inner n) mid) :
    Rejects left (argsUpTo inner (n + 1)) ts :=
  .get (.ite_neg hstart (.after harg (.get (.ite_neg rfl (.after (reads_mark rfl) (.first hargs))))))

/-- Arguments up to the closing bracket are read as those of the path. -/
theorem reads_angleArgs (joint : Bool) {joint' : Bool}
    (hargs : Reads left (argsUpTo inner (ts.length + 1)) ts args (.mark '>' joint' :: rest)) :
    Reads left inner.angleArgs (.mark '<' joint :: ts) args rest := by
  have hlist : Reads left (listBefore ">" inner.arg) ts args (.mark '>' joint' :: rest) :=
    .bind reads_fuel hargs
  exact .bind (reads_mark rfl) (.bind hlist (.bind (reads_mark rfl) rfl))

/-- What is no list of arguments is none in brackets either. -/
theorem rejects_angleArgs (joint : Bool)
    (hargs : Rejects left (argsUpTo inner (ts.length + 1)) ts) :
    Rejects left inner.angleArgs (.mark '<' joint :: ts) := by
  have hlist : Rejects left (listBefore ">" inner.arg) ts := .after reads_fuel hargs
  exact .after (reads_mark rfl) (.first hlist)

/-- A segment goes on with arguments when an angle bracket follows its name. -/
theorem segment_angle {w : String} (hw : w ∉ reservedWords) {joint : Bool}
    (hts : NoEqual ts) :
    inner.segment false ⟨.word w :: .mark '<' joint :: ts, left⟩ =
      (inner.angleArgs >>= fun args => Pure.pure (.angle w args) : Read Segment)
        ⟨.mark '<' joint :: ts, left⟩ := by
  have hnone (words : List String) (hwords : ∀ v ∈ words, v ∈ reservedWords) :
      words.contains w = false := by
    rw [List.contains_eq_mem, decide_eq_false_iff_not]
    exact fun h => hw (hwords w h)
  have hself : (w == "Self") = false := by simpa using hnone ["Self"] (by decide)
  refine get_eq.trans ((ite_eq_neg ((startsWordOf_word w _).trans (hnone _ (by decide)))).trans ?_)
  refine get_eq.trans ((ite_eq_neg hself).trans ((bind_eq (reads_ident hw)).trans ?_))
  refine get_eq.trans ((ite_eq_pos ?_).trans ?_)
  · simp [Cursor.startsWith, startsMarks, hts.1, hts.2]
  · exact bind_eq (reads_markIf_not rfl)

end Arguments

end ProtoRest.Code
