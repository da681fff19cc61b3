import ProtoRest.Proofs.Code.GenericTypes
import ProtoRest.Proofs.Code.TypeTexts
import ProtoRest.Route.BindingOfRule
import ProtoRest.Route.Legible

/-! # Types of fields
What generated code makes of the types of fields: the type of one value, the list, the option or the
map around it, and with them the types of bodies (`decides_bodyType`) and of responses
(`decides_responseType`). -/

namespace ProtoRest.Route

open ProtoRest.Code ProtoRest.Schema ProtoRest.Text

/-! ## Types around others -/

/-- Whether steps lead from the root to a type with arguments. -/
def isHead (before : List (List Char)) (last : List Char) : Bool :=
  (before ++ [last]).all (fun s => s.all isNameChar && isStep s) &&
    !reservedWords.contains (String.ofList last)

section Heads

variable {before : List (List Char)} {last inner : List Char} {depth : Nat}

/-- Steps are the head of a type with arguments exactly when all are steps and the last one is no
reserved word. -/
theorem isHead_iff : isHead before last = true ↔
    (AreNames (before ++ [last]) ∧ ∀ s ∈ before ++ [last], isStep s = true) ∧
      String.ofList last ∉ reservedWords := by
  simp only [isHead, Bool.and_eq_true, List.all_eq_true, Bool.not_eq_true', List.contains_eq_mem,
    decide_eq_false_iff_not, AreNames]
  rw [forall₂_and]

/-- A head with arguments in angle brackets is a type. -/
theorem exists_isType_of_isHead (hhead : isHead before last = true)
    (h : ∃ args : List Arg, args.all (isComplete ·.pieces.2) = true ∧ IsArgs depth inner args) :
    ∃ ty, ty.IsPlain ∧
      IsType (depth + 1) (afterFirst (before ++ [last]) ('<' :: inner ++ ['>'])) ty := by
  obtain ⟨⟨hnames, hsteps⟩, hlast⟩ := isHead_iff.mp hhead
  obtain ⟨args, hargs, hread⟩ := h
  refine ⟨_, ⟨fun inExpr => ?_, rfl, rfl⟩, isType_generic hnames hsteps hlast hread⟩
  rw [Path.generic, isComplete_path, isComplete_mk]
  simpa using hargs

/-- The arguments decide a type with arguments. -/
theorem decides_generic (depth : Nat) {text : String} {c : Prop} (hhead : isHead before last = true)
    (htext : text.toList = afterFirst (before ++ [last]) ('<' :: inner ++ ['>'])) (hdepth : depth ≤ 3)
    (hargs : c → ∃ args : List Arg, args.all (isComplete ·.pieces.2) = true ∧
      IsArgs depth inner args)
    (hnot : ¬c → NoArgs depth inner) : Decides c Ty.IsPlain (tyOfText text) := by
  have hmark : text.toList.head? ≠ some '\ufeff' := by
    rw [htext]
    cases before <;> simp [afterFirst]
  refine decides_tyOfText (depth + 1) hmark (Nat.succ_le_succ hdepth) (fun h => ?_) (fun h => ?_)
  · rw [htext]
    exact exists_isType_of_isHead hhead (hargs h)
  · obtain ⟨⟨hnames, hsteps⟩, hlast⟩ := isHead_iff.mp hhead
    rw [htext]
    exact noType_generic hnames hsteps hlast (hnot h)

end Heads

/-- The modules of the type of lists. -/
def listModules : List (List Char) := ["prost".toList, "alloc".toList, "vec".toList]

/-- The modules of the type of values that may be absent. -/
def optionModules : List (List Char) := ["core".toList, "option".toList]

/-- The modules of the type of maps. -/
def mapModules : List (List Char) := ["std".toList, "collections".toList]

/-- The type of a list is a path with the element in angle brackets. -/
theorem toList_listType (type : String) : (listType type).toList =
    afterFirst (listModules ++ ["Vec".toList]) ('<' :: type.toList ++ ['>']) := by
  show ("::prost::alloc::vec::Vec<" ++ type ++ ">").toList = _
  simp only [String.toList_append]
  rfl

/-- The type of an option is a path with the value in angle brackets. -/
theorem toList_optionType (type : String) : (optionType type).toList =
    afterFirst (optionModules ++ ["Option".toList]) ('<' :: type.toList ++ ['>']) := by
  show ("::core::option::Option<" ++ type ++ ">").toList = _
  simp only [String.toList_append]
  rfl

/-- The type of a map is a path with the key and the value in angle brackets. -/
theorem toList_mapType (key value : String) : (mapType key value).toList =
    afterFirst (mapModules ++ ["HashMap".toList])
      ('<' :: (key.toList ++ ',' :: ' ' :: value.toList) ++ ['>']) := by
  show ("::std::collections::HashMap<" ++ key ++ ", " ++ value ++ ">").toList = _
  simp only [String.toList_append, List.append_assoc, List.cons_append]
  rfl

/-! ## Kinds -/

/-- The path of a kind is made of names. -/
def IsNamedKind : FieldKind → Prop
  | .scalar _ | .enum _ => True
  | .message type => IsNamedText type.path

/-- The paths of a field are made of names. -/
def HasNamedKinds (f : Field) : Prop :=
  IsNamedKind f.kind ∧
    match f.label with
    | .singular | .optional | .repeated => True
    | .map key value => IsNamedKind key ∧ IsNamedKind value

/-- Plain words that are a type. -/
theorem exists_isType_of_steps {first : List Char} {steps : List (List Char)}
    (hnames : ((first :: steps).all fun s => s.all isNameChar) = true)
    (h : isTypePath (first :: steps) = true) :
    ∃ ty, ty.IsPlain ∧ IsType 2 (joinWith [':', ':'] (first :: steps)) ty := by
  have hnames : AreNames (first :: steps) := by
    simpa only [AreNames, List.all_eq_true] using hnames
  obtain ⟨ty, hty, hread⟩ := isType_of_isTypePath hnames h
  exact ⟨ty, hty, hread.mono (by decide)⟩

/-- A word that is a path of a type is a type. -/
theorem exists_isType_word {text : String} (hnames : text.toList.all isNameChar = true)
    (h : isTypePath [text.toList] = true) : ∃ ty, ty.IsPlain ∧ IsType 2 text.toList ty :=
  @exists_isType_of_steps text.toList [] (by simpa using hnames) h

/-- The type of bytes is a type. -/
theorem exists_isType_bytes :
    ∃ ty, ty.IsPlain ∧ IsType 2 (ScalarKind.bytes.codeType).toList ty := by
  obtain ⟨ty, hty, hread⟩ := @isType_of_isTypePath ['u', '8'] []
    (by simp [AreNames]; decide) (by decide)
  exact @exists_isType_of_isHead listModules "Vec".toList _ 1 (by decide)
    ⟨[.type ty], by simpa using hty.complete false, hread.isArg.isArgs⟩

/-- The type of a scalar is a type. -/
theorem exists_isType_scalar (kind : ScalarKind) :
    ∃ ty, ty.IsPlain ∧ IsType 2 kind.codeType.toList ty := by
  cases kind with
  | string =>
    exact @exists_isType_of_steps []
      ["prost".toList, "alloc".toList, "string".toList, "String".toList] (by decide) (by decide)
  | bytes => exact exists_isType_bytes
  | double => exact exists_isType_word (by decide) (by decide)
  | float => exact exists_isType_word (by decide) (by decide)
  | int32 => exact exists_isType_word (by decide) (by decide)
  | int64 => exact exists_isType_word (by decide) (by decide)
  | uint32 => exact exists_isType_word (by decide) (by decide)
  | uint64 => exact exists_isType_word (by decide) (by decide)
  | bool => exact exists_isType_word (by decide) (by decide)

section Kinds

variable {kind key value : FieldKind}

/-- The type of a legible kind is a type. -/
theorem exists_isType_kind (hkind : IsNamedKind kind) (h : isLegible kind = true) :
    ∃ ty, ty.IsPlain ∧ IsType 2 kind.codeType.toList ty := by
  cases kind with
  | scalar kind => exact exists_isType_scalar kind
  | enum type => exact exists_isType_scalar .int32
  | message type =>
    obtain ⟨ty, hty, hread⟩ := IsNamedText.exists_isType hkind h
    exact ⟨ty, hty, hread.mono (by decide)⟩

/-- The type of a kind that is not legible is none. -/
theorem noType_kind (hkind : IsNamedKind kind) (h : isLegible kind = false) :
    NoType 0 kind.codeType.toList := by
  cases kind with
  | scalar => cases h
  | enum => cases h
  | message type => exact IsNamedText.noType hkind h

/-- A type is arguments. -/
theorem exists_isArgs_of_isType {text : List Char} {depth : Nat}
    (h : ∃ ty, ty.IsPlain ∧ IsType depth text ty) :
    ∃ args : List Arg, args.all (isComplete ·.pieces.2) = true ∧ IsArgs depth text args := by
  obtain ⟨ty, hty, hread⟩ := h
  exact ⟨[.type ty], by simpa using hty.complete false, hread.isArg.isArgs⟩

/-- The type of a kind that is legible among arguments is an argument. -/
theorem exists_isArgs_kind (hkind : IsNamedKind kind) (h : isLegibleArgs kind = true) :
    ∃ args : List Arg, args.all (isComplete ·.pieces.2) = true ∧
      IsArgs 2 kind.codeType.toList args := by
  cases kind with
  | scalar kind => exact exists_isArgs_of_isType (exists_isType_scalar kind)
  | enum type => exact exists_isArgs_of_isType (exists_isType_scalar .int32)
  | message type =>
    obtain ⟨args, hargs, hread⟩ := IsNamedText.exists_isArgs hkind h
    exact ⟨args, hargs, hread.mono (by decide)⟩

/-- The type of a kind that is not legible among arguments is no argument. -/
theorem noArgs_kind (hkind : IsNamedKind kind) (h : isLegibleArgs kind = false) :
    NoArgs 0 kind.codeType.toList := by
  cases kind with
  | scalar => cases h
  | enum => cases h
  | message type => exact IsNamedText.noArgs hkind h

/-- The type of a kind that is legible as the first argument is one. -/
theorem exists_isArg_kind (hkind : IsNamedKind kind) (h : isLegibleArg kind = true) :
    ∃ arg, isComplete (Arg.pieces arg).2 = true ∧ IsArg 2 kind.codeType.toList arg := by
  have hscalar (kind : ScalarKind) :
      ∃ arg, isComplete (Arg.pieces arg).2 = true ∧ IsArg 2 kind.codeType.toList arg := by
    obtain ⟨ty, hty, hread⟩ := exists_isType_scalar kind
    exact ⟨.type ty, by simpa using hty.complete false, hread.isArg⟩
  cases kind with
  | scalar kind => exact hscalar kind
  | enum type => exact hscalar .int32
  | message type =>
    obtain ⟨arg, harg, hread⟩ := IsNamedText.exists_isArg hkind h
    exact ⟨arg, harg, hread.mono (by decide)⟩

/-- The type of a kind that is not legible as the first argument makes no arguments with others
behind it. -/
theorem noArgs_first_kind (hkind : IsNamedKind kind) (h : isLegibleArg kind = false)
    (texts : List Char) : NoArgs 0 (kind.codeType.toList ++ ',' :: ' ' :: texts) := by
  cases kind with
  | scalar => cases h
  | enum => cases h
  | message type => exact IsNamedText.noArgs_first hkind h texts

/-- No type starts with a mark of the order of bytes. -/
theorem codeType_head? (hkind : IsNamedKind kind) : kind.codeType.toList.head? ≠ some '\ufeff' := by
  cases kind with
  | scalar kind => cases kind <;> decide
  | enum type =>
    rw [FieldKind.codeType]
    decide
  | message type => exact IsNamedText.head? hkind

/-! ## What is made of the types -/

/-- Whether a kind is legible decides whether its type can be written. -/
theorem decides_codeType (hkind : IsNamedKind kind) :
    Decides (isLegible kind = true) Ty.IsPlain (tyOfText kind.codeType) :=
  decides_tyOfText 2 (codeType_head? hkind) (by decide) (exists_isType_kind hkind)
    fun h => (noType_kind hkind (by simpa using h)).mono (by decide)

/-- Whether a kind is legible among arguments decides whether a list of it can be written. -/
theorem decides_listType (hkind : IsNamedKind kind) :
    Decides (isLegibleArgs kind = true) Ty.IsPlain (tyOfText (listType kind.codeType)) :=
  decides_generic 2 (by decide) (toList_listType _) (by decide) (exists_isArgs_kind hkind)
    fun h => (noArgs_kind hkind (by simpa using h)).mono (by decide)

/-- Whether a kind is legible among arguments decides whether an option of it can be written. -/
theorem decides_optionType (hkind : IsNamedKind kind) :
    Decides (isLegibleArgs kind = true) Ty.IsPlain (tyOfText (optionType kind.codeType)) :=
  decides_generic 2 (by decide) (toList_optionType _) (by decide)
    (exists_isArgs_kind hkind) fun h => (noArgs_kind hkind (by simpa using h)).mono (by decide)

/-- Whether both kinds are legible among arguments decides whether a map of them can be written. -/
theorem decides_mapType (hkey : IsNamedKind key) (hvalue : IsNamedKind value) :
    Decides ((isLegibleArg key && isLegibleArgs value) = true) Ty.IsPlain
      (tyOfText (mapType key.codeType value.codeType)) := by
  refine decides_generic 2 (by decide) (toList_mapType _ _) (by decide) (fun h => ?_)
    (fun h => ?_)
  · rw [Bool.and_eq_true] at h
    obtain ⟨arg, harg, hread⟩ := exists_isArg_kind hkey h.1
    obtain ⟨args, hargs, hreads⟩ := exists_isArgs_kind hvalue h.2
    exact ⟨arg :: args, by rw [List.all_cons, harg, hargs]; rfl, hread.cons hreads⟩
  · cases hfirst : isLegibleArg key with
    | false => exact (noArgs_first_kind hkey hfirst _).mono (by decide)
    | true =>
      rw [hfirst, Bool.true_and] at h
      obtain ⟨arg, -, hread⟩ := exists_isArg_kind hkey hfirst
      exact hread.noArgs ((noArgs_kind hvalue (by simpa using h)).mono (by decide))

end Kinds

/-- What is made of the type of a body. -/
theorem decides_bodyType {f : Field} (hf : HasNamedKinds f) :
    Decides (isLegibleBody f = true) Ty.IsPlain (tyOfText (bodyType f).1) := by
  obtain ⟨hkind, hlabel⟩ := hf
  rw [isLegibleBody, bodyType]
  cases h : f.label with
  | singular => exact decides_codeType hkind
  | optional => exact decides_codeType hkind
  | repeated => exact decides_listType hkind
  | map key value =>
    rw [h] at hlabel
    exact decides_mapType hlabel.1 hlabel.2

/-- What is made of the type of a response. -/
theorem decides_responseType {f : Field} (hf : HasNamedKinds f) :
    Decides (isLegibleResponse f = true) Ty.IsPlain (tyOfText (responseType f).1) := by
  obtain ⟨hkind, hlabel⟩ := hf
  rw [isLegibleResponse, responseType]
  cases h : f.label with
  | singular =>
    cases hmessage : isMessage f.kind with
    | true => exact decides_optionType hkind
    | false =>
      -- a field without a message is legible as an argument when it is by itself
      have hsame : isLegibleArgs f.kind = isLegible f.kind := by
        cases hk : f.kind with
        | scalar => rfl
        | enum => rfl
        | message => rw [hk] at hmessage; cases hmessage
      rw [hsame]
      exact decides_codeType hkind
  | optional => exact decides_optionType hkind
  | repeated => exact decides_listType hkind
  | map key value =>
    rw [h] at hlabel
    exact decides_mapType hlabel.1 hlabel.2

end ProtoRest.Route
