import Mathlib.Tactic.SplitIfs
import ProtoRest.Code.Item
import ProtoRest.Proofs.Code.CompletePieces

/-! # Complete layouts of syntax
When the layout of types, expressions, statements and items is complete: it is for what is generated
as long as the types and the literals in it have a layout. Only the constructs of generated code are
covered. -/

namespace ProtoRest.Code

open ProtoRest.Text

/-! ## Lists of trees -/

/-- Attributes one after the other are complete when each of them is. -/
@[simp] theorem isComplete_attrsPieces (attrs : List Attr) :
    isComplete (attrsPieces attrs) = attrs.all (isComplete <| ·.pieces false) := by
  induction attrs with
  | nil => rfl
  | cons a as ih => exact (isComplete_append _ _).trans (congrArg _ ih)

/-- Items one after the other are complete when each of them is. -/
@[simp] theorem isComplete_itemsPieces (items : List Item) :
    isComplete (itemsPieces items) = items.all (isComplete ·.pieces) := by
  induction items with
  | nil => rfl
  | cons item items ih => exact (isComplete_append _ _).trans (congrArg _ ih)

/-- The layouts of expressions are complete when each expression is. -/
@[simp] theorem all_exprsPieces (es : List Expr) :
    (exprsPieces es).all isComplete = es.all (isComplete <| ·.pieces {}) := by
  induction es with
  | nil => rfl
  | cons e es ih => exact congrArg _ ih

/-- The layouts of type arguments are complete when each argument is. -/
@[simp] theorem all_argsPieces (args : List Arg) :
    (argsPieces args).all (isComplete ·.2) = args.all (isComplete ·.pieces.2) := by
  induction args with
  | nil => rfl
  | cons a as ih => exact congrArg _ ih

/-! ## Types -/

section Types

variable (inExpr : Bool)

/-- A type that is a path is complete when the path is. -/
@[simp] theorem isComplete_path (path : Path) :
    isComplete ((Ty.path path).pieces inExpr) = isComplete (path.pieces inExpr) := rfl

/-- A step of a path without arguments is complete. -/
@[simp] theorem isComplete_plain (name : String) :
    isComplete ((Segment.plain name).pieces inExpr) = true := rfl

/-- A step of a path is complete when its arguments in angle brackets are. -/
@[simp] theorem isComplete_angle (name : String) (args : List Arg) :
    isComplete ((Segment.angle name args).pieces inExpr) =
      args.all (isComplete ·.pieces.2) := by
  show isComplete (word name ++ anglePieces inExpr (argsPieces args)) = _
  simp

/-- The steps behind the first one are complete when each of them is. -/
@[simp] theorem isComplete_tailPieces (segments : List Segment) :
    isComplete (tailPieces inExpr segments) =
      segments.all (isComplete <| ·.pieces inExpr) := by
  induction segments with
  | nil => rfl
  | cons s ss ih =>
    show isComplete (word "::" ++ s.pieces inExpr ++ tailPieces inExpr ss) = _
    simp [ih]

/-- A path is complete when its steps are, rooted or not. -/
@[simp] theorem isComplete_mk (rooted : Bool) (segments : List Segment) :
    isComplete ((Path.mk rooted segments).pieces inExpr) =
      segments.all (isComplete <| ·.pieces inExpr) := by
  cases segments with
  | nil => rfl
  | cons s ss =>
    show isComplete ((if rooted then word "::" else []) ++ s.pieces inExpr ++
      tailPieces inExpr ss) = _
    cases rooted <;> simp

/-- An argument that is a type is complete when the type is. -/
@[simp] theorem isComplete_argType (ty : Ty) :
    isComplete (Arg.type ty).pieces.2 = isComplete (ty.pieces false) := rfl

/-- An argument that is a constant is complete when its expression is. -/
@[simp] theorem isComplete_argConst (value : Expr) :
    isComplete (Arg.const value).pieces.2 = isComplete (value.pieces {}) := rfl

/-- An argument that is a lifetime is complete. -/
@[simp] theorem isComplete_argLifetime (name : String) :
    isComplete (Arg.lifetime name).pieces.2 = true := rfl

/-- An argument that sets an associated type is complete when both sides are. -/
@[simp] theorem isComplete_argAssoc (segment : Segment) (ty : Ty) :
    isComplete (Arg.assoc segment ty).pieces.2 =
      (isComplete (segment.pieces false) && isComplete (ty.pieces false)) := by
  show isComplete (segment.pieces false ++ word " = " ++ ty.pieces false) = _
  simp

/-- The type of no value is complete. -/
@[simp] theorem isComplete_unit : isComplete (Ty.unit.pieces inExpr) = true := rfl

/-- A reference is complete when the type behind it is. -/
@[simp] theorem isComplete_reference (lifetime : Option String) (mutable : Bool) (elem : Ty) :
    isComplete ((Ty.reference lifetime mutable elem).pieces inExpr) =
      isComplete (elem.pieces false) := by
  cases lifetime with
  | none =>
    show isComplete (word "&" ++ [] ++ (if mutable then word "mut " else []) ++
      elem.pieces false) = _
    cases mutable <;> simp
  | some name =>
    show isComplete (word "&" ++ (word (lifetimeText name) ++ word " ") ++
      (if mutable then word "mut " else []) ++ elem.pieces false) = _
    cases mutable <;> simp

/-- A slice is complete when the type of its elements is. -/
@[simp] theorem isComplete_slice (elem : Ty) :
    isComplete ((Ty.slice elem).pieces inExpr) = isComplete (elem.pieces false) := by
  show isComplete (word "[" ++ elem.pieces false ++ word "]") = _
  simp

/-- A qualified path is complete when its type, its trait and the steps behind them are. -/
@[simp] theorem isComplete_qualified (self : Ty) (path : Path) (rest : List Segment) :
    isComplete ((Ty.qualified self (some path) rest).pieces inExpr) =
      (isComplete (self.pieces false) && isComplete (path.pieces false) &&
        rest.all (isComplete <| ·.pieces inExpr)) := by
  show isComplete (word "<" ++ self.pieces false ++ (word " as " ++ path.pieces false ++
    word ">") ++ tailPieces inExpr rest) = _
  simp [Bool.and_assoc]

/-- A bound that is a lifetime is complete. -/
@[simp] theorem isComplete_boundLifetime (name : String) :
    isComplete (Bound.lifetime name).pieces = true := rfl

/-- A bound that is a path is complete when the path is. -/
@[simp] theorem isComplete_boundOf (path : Path) :
    isComplete (Bound.of path).pieces = isComplete (path.pieces false) := by
  show isComplete ([] ++ [] ++ [] ++ path.pieces false ++ []) = _
  simp

/-- Bounds are complete when each of them is, however they break. -/
@[simp] theorem isComplete_boundsPieces (stay : Bool) (bounds : List Bound) :
    isComplete (boundsPieces stay bounds) = bounds.all (isComplete ·.pieces) := by
  have hmore (bounds : List Bound) :
      isComplete (moreBoundsPieces stay bounds) = bounds.all (isComplete ·.pieces) := by
    induction bounds with
    | nil => rfl
    | cons b bs ih =>
      show isComplete ((if stay then word " + " else blankGap ++ word "+ ") ++ b.pieces ++
        moreBoundsPieces stay bs) = _
      cases stay <;> simp [ih]
  cases bounds with
  | nil => rfl
  | cons b bs => exact (isComplete_append _ _).trans (congrArg _ (hmore bs))

/-- A type that is given by its bounds is complete when they are. -/
@[simp] theorem isComplete_impl (bounds : List Bound) (open_ : Bool) :
    isComplete ((Ty.impl bounds open_).pieces inExpr) = bounds.all (isComplete ·.pieces) := by
  show isComplete (word "impl " ++ boundsPieces true bounds) = _
  simp

/-- A trait object is complete when its bounds are, with or without the keyword. -/
@[simp] theorem isComplete_object (keyword : Bool) (bounds : List Bound) (open_ : Bool) :
    isComplete ((Ty.object keyword bounds open_).pieces inExpr) =
      bounds.all (isComplete ·.pieces) := by
  show isComplete (word "dyn " ++ boundsPieces true bounds) = _
  simp

end Types

/-! ## Patterns and inputs -/

/-- A pattern that binds a name is complete. -/
@[simp] theorem isComplete_patName (byRef mutable : Bool) (name : String) :
    isComplete (Pat.name byRef mutable name none).pieces = true := rfl

/-- A pattern with the parts of a value is complete when its type and all parts are. -/
@[simp] theorem isComplete_tupleStruct (ty : Ty) (elems : List Pat) :
    isComplete (Pat.tupleStruct ty elems).pieces =
      (isComplete (ty.pieces true) && elems.all (isComplete ·.pieces)) := by
  have helems : (patsPieces elems).all isComplete = elems.all (isComplete ·.pieces) := by
    induction elems with
    | nil => rfl
    | cons e es ih => exact congrArg _ ih
  show isComplete (ty.pieces true ++ word "(" ++ bracketed indentStep (patsPieces elems) ++
    word ")") = _
  simp [helems]

/-- A pattern with a type is complete when both are. -/
@[simp] theorem isComplete_patTyped (inner : Pat) (ty : Ty) :
    isComplete (Pat.typed inner ty).pieces =
      (isComplete inner.pieces && isComplete (ty.pieces false)) := by
  show isComplete (inner.pieces ++ word ": " ++ ty.pieces false) = _
  simp

/-- Whether the layout of an input is complete. -/
def Input.isComplete : Input → Bool
  | .self attrs _ ty => attrs.all (Code.isComplete <| ·.pieces false) &&
      ty.all fun ty => Code.isComplete (ty.pieces false)
  | .typed attrs pat ty => attrs.all (Code.isComplete <| ·.pieces false) &&
      pat.all (fun pat => Code.isComplete pat.pieces) && Code.isComplete (ty.pieces false)
  | .rest attrs pat => attrs.all (Code.isComplete <| ·.pieces false) &&
      pat.all fun pat => Code.isComplete pat.pieces

/-- The layouts of inputs are complete when each input is. -/
@[simp] theorem all_inputsPieces (inputs : List Input) :
    (inputsPieces inputs).all (isComplete ·.2) = inputs.all Input.isComplete := by
  induction inputs with
  | nil => rfl
  | cons input inputs ih =>
    rw [List.all_cons, ← ih]
    -- the pieces of an input depend on what it leaves out, so each case is looked at by itself
    cases input with
    | self attrs intro ty =>
      cases ty with
      | none =>
        show (isComplete (attrsPieces attrs ++ word (intro ++ "self") ++ []) && _) = _
        simp [Input.isComplete]
      | some ty =>
        show (isComplete (attrsPieces attrs ++ word (intro ++ "self") ++
          (word ": " ++ ty.pieces false)) && _) = _
        simp [Input.isComplete]
    | typed attrs pat ty =>
      cases pat with
      | none =>
        show (isComplete (attrsPieces attrs ++ ty.pieces false) && _) = _
        simp [Input.isComplete]
      | some pat =>
        show (isComplete (attrsPieces attrs ++ pat.pieces ++ word ": " ++ ty.pieces false) && _) = _
        simp [Input.isComplete, Bool.and_assoc]
    | rest attrs pat =>
      cases pat with
      | none =>
        show (isComplete (attrsPieces attrs ++ word "...") && _) = _
        simp [Input.isComplete]
      | some pat =>
        show (isComplete (attrsPieces attrs ++ pat.pieces ++ word ": ...") && _) = _
        simp [Input.isComplete]

/-! ## Expressions -/

section Expressions

variable (place : Place)

/-- A literal is complete unless it is the mark of code without a layout. -/
@[simp] theorem isComplete_literal (text : String) :
    isComplete ((Expr.literal text).pieces place) = (text != placeholder) := by
  show isComplete (place.leaf (literalPieces text)) = _
  simp

/-- An expression that is a path is complete when the path is. -/
@[simp] theorem isComplete_exprPath (ty : Ty) :
    isComplete ((Expr.path ty).pieces place) = isComplete (ty.pieces true) := by
  show isComplete (place.leaf (ty.pieces true)) = _
  simp

/-- An array is complete when its elements are. -/
@[simp] theorem isComplete_array (elems : List Expr) :
    isComplete ((Expr.array elems).pieces place) = elems.all (isComplete <| ·.pieces {}) := by
  show isComplete (place.leaf (arrayPieces (elems.all (·.isPlainValue)) (exprsPieces elems))) = _
  simp

/-- A call is complete when the function and the arguments are. -/
@[simp] theorem isComplete_call (function : Expr) (args : List Expr) :
    isComplete ((Expr.call function args).pieces place) =
      (isComplete (function.pieces ⟨place.inChain, place.atStart && !place.inChain⟩) &&
        args.all (isComplete <| ·.pieces {})) := by
  show isComplete (function.pieces ⟨place.inChain, place.atStart && !place.inChain⟩ ++
    callPieces args (exprsPieces args)) = _
  simp

/-- The call of a method is complete when the receiver, the types and the arguments are. -/
@[simp] theorem isComplete_method (receiver : Expr) (name : String) (types : List Arg)
    (args : List Expr) :
    isComplete ((Expr.method receiver name types args).pieces place) =
      (isComplete (receiver.pieces ⟨true, place.atStart⟩) && types.all (isComplete ·.pieces.2) &&
        args.all (isComplete <| ·.pieces {})) := by
  show isComplete (place.link (receiver.pieces ⟨true, place.atStart⟩ ++ place.dotGap receiver ++
    word ("." ++ name) ++ anglePieces true (argsPieces types) ++
    whole (if place.atStart && !place.inChain && receiver.isShortName then -indentStep else 0)
      (callPieces args (exprsPieces args)))) = _
  simp [Bool.and_assoc]

/-- The access to a field is complete when what it is taken of is. -/
@[simp] theorem isComplete_field (base : Expr) (name : String) :
    isComplete ((Expr.field base name).pieces place) =
      isComplete (base.pieces ⟨true, place.atStart⟩) := by
  show isComplete (place.link (base.pieces ⟨true, place.atStart⟩ ++ place.dotGap base ++
    word ("." ++ name))) = _
  simp

/-- Waiting is complete when what is waited for is. -/
@[simp] theorem isComplete_await (base : Expr) :
    isComplete ((Expr.await base).pieces place) =
      isComplete (base.pieces ⟨true, place.atStart⟩) := by
  show isComplete (place.link (base.pieces ⟨true, place.atStart⟩ ++ place.dotGap base ++
    word ".await")) = _
  simp

/-- A question mark is complete when what stands before it is. -/
@[simp] theorem isComplete_try (base : Expr) :
    isComplete ((Expr.try_ base).pieces place) = isComplete (base.pieces place) := by
  show isComplete (base.pieces place ++ word "?") = _
  simp

/-- An operator in front is complete when its operand is. -/
@[simp] theorem isComplete_unary (operator : String) (base : Expr) :
    isComplete ((Expr.unary operator base).pieces place) = isComplete (base.pieces {}) := by
  show isComplete (place.leaf (word operator ++ base.pieces {})) = _
  simp

/-- An operator between two operands is complete when both are. -/
@[simp] theorem isComplete_binary (left : Expr) (operator : String) (right : Expr) :
    isComplete ((Expr.binary left operator right).pieces place) =
      (isComplete (left.pieces {}) && isComplete (right.pieces {})) := by
  show isComplete (place.leaf (flow indentStep (flow (-indentStep) (left.pieces {}) ++ blankGap ++
    word operator ++ word " " ++ right.pieces {}))) = _
  simp

/-- An assignment is complete when both sides are. -/
@[simp] theorem isComplete_assign (left right : Expr) :
    isComplete ((Expr.assign left right).pieces place) =
      (isComplete (left.pieces {}) && isComplete (right.pieces {})) := by
  show isComplete (place.leaf (flow 0 (left.pieces {} ++ word " = " ++ stayGap ++
    right.pieces {}))) = _
  simp

/-- A test against a pattern is complete when the pattern and the value are. -/
@[simp] theorem isComplete_matches (pat : Pat) (value : Expr) :
    isComplete ((Expr.matches pat value).pieces place) =
      (isComplete pat.pieces && isComplete (value.pieces {})) := by
  show isComplete (place.leaf (flow 0 (word "let " ++ flow 0 pat.pieces ++ word " = " ++ stayGap ++
    value.pieces {}))) = _
  simp

end Expressions

/-! ## Names and texts -/

/-- A path of names is complete. -/
@[simp] theorem isComplete_relative (inExpr : Bool) (names : List String) :
    isComplete ((Path.relative names).pieces inExpr) = true := by
  simp [Path.relative]

/-- A rooted path of names is complete. -/
@[simp] theorem isComplete_root (inExpr : Bool) (names : List String) :
    isComplete ((Path.root names).pieces inExpr) = true := by
  simp [Path.root]

/-- A type with a name is complete. -/
@[simp] theorem isComplete_namedTy (inExpr : Bool) (name : String) :
    isComplete ((Ty.named name).pieces inExpr) = true := by
  simp [Ty.named]

/-- A pattern with a name is complete. -/
@[simp] theorem isComplete_namedPat (name : String) : isComplete (Pat.named name).pieces = true :=
  isComplete_patName false false name

/-- An expression that is a name is complete. -/
@[simp] theorem isComplete_named (place : Place) (name : String) :
    isComplete ((Expr.named name).pieces place) = true := by
  simp [Expr.named]

/-- A quoted text stands for itself. -/
@[simp] theorem literal_ne_placeholder (text : String) : Text.literal text ≠ placeholder := by
  intro h
  have hhead := congrArg (·.toList.head?) h
  simp [Text.literal, placeholder] at hhead

/-! ## Statements and choices -/

/-- Whether the layout of a statement is complete, wherever it stands. -/
def Stmt.IsComplete (s : Stmt) : Prop := ∀ alone, isComplete (s.pieces alone) = true

/-- Statements are complete when each of them is, also when they stand alone in a block. -/
theorem isComplete_stmtsPieces {ss : List Stmt} (h : ∀ s ∈ ss, s.IsComplete) (alone : Bool) :
    isComplete (stmtsPieces alone ss) = true := by
  induction ss generalizing alone with
  | nil => rfl
  | cons s ss ih =>
    have hs := h s List.mem_cons_self
    have ih := ih fun s hs => h s (List.mem_cons_of_mem _ hs)
    -- only the last statement can be alone, and an attribute does not count as one before it
    cases ss with
    | nil =>
      cases s <;> exact hs alone
    | cons t ss =>
      cases s with
      | about attr =>
        show isComplete (attr.pieces true ++ stmtsPieces alone (t :: ss)) = true
        have hattr : isComplete (attr.pieces true) = true := hs alone
        rw [isComplete_append, hattr, ih alone]
        rfl
      | _ =>
        exact (isComplete_append _ _).trans (by rw [hs false, ih false]; rfl)

/-- A statement that is an expression is complete when the expression is. -/
@[simp] theorem Stmt.isComplete_expr (value : Expr) (semicolon : Bool) :
    (Stmt.expr value semicolon).IsComplete ↔ isComplete (value.pieces ⟨false, true⟩) = true := by
  have hpieces (alone : Bool) : isComplete ((Stmt.expr value semicolon).pieces alone) =
      isComplete (value.pieces ⟨false, true⟩) := by
    show isComplete (if alone && !semicolon then flow 0 (value.pieces ⟨false, true⟩) ++ blankGap
      else stmtLine (value.pieces ⟨false, true⟩ ++
        (if if semicolon then !value.dropsSemicolon else value.addsSemicolon then word ";"
          else []))) = _
    simp
  simp [Stmt.IsComplete, hpieces]

/-- A binding is complete when its attributes, its pattern and its value are. -/
@[simp] theorem Stmt.isComplete_bind (attrs : List Attr) (pat : Pat) (value : Expr) :
    (Stmt.bind attrs pat (some value) none).IsComplete ↔
      (attrs.all (isComplete <| ·.pieces false) && isComplete pat.pieces &&
        isComplete (value.pieces {})) = true := by
  have hpieces (alone : Bool) : isComplete ((Stmt.bind attrs pat (some value) none).pieces alone) =
      (attrs.all (isComplete <| ·.pieces false) && isComplete pat.pieces &&
        isComplete (value.pieces {})) := by
    show isComplete (attrsPieces attrs ++ stmtLine (word "let " ++ pat.pieces ++ word " = " ++
      stayGap ++ value.pieces {} ++ word ";")) = _
    simp [Bool.and_assoc]
  simp [Stmt.IsComplete, hpieces]

/-- A condition without another branch is complete when its parts are. -/
theorem isComplete_ite_expr (place : Place) {condition : Expr} {yes : List Stmt}
    (hcondition : isComplete (condition.pieces {}) = true) (hyes : ∀ s ∈ yes, s.IsComplete) :
    isComplete ((Expr.ite condition yes none).pieces place) = true := by
  show isComplete (place.leaf (whole indentStep (word "if " ++
    whole (-indentStep) (conditionGroup condition (condition.pieces {})) ++
    if yes.isEmpty then word "\x7b\x7d"
    else word "\x7b" ++ dedent (hardGap ++ stmtsPieces false yes) ++ word "\x7d"))) = true
  simp [hcondition, isComplete_stmtsPieces hyes]

/-- A condition with another branch is complete when its parts are. -/
theorem isComplete_ite_else (place : Place) {condition : Expr} {yes no : List Stmt}
    (hcondition : isComplete (condition.pieces {}) = true) (hyes : ∀ s ∈ yes, s.IsComplete)
    (hno : ∀ s ∈ no, s.IsComplete) :
    isComplete ((Expr.ite condition yes (some (.braces no))).pieces place) = true := by
  show isComplete (place.leaf (whole indentStep (word "if " ++
    whole (-indentStep) (conditionGroup condition (condition.pieces {})) ++
    (blockPieces yes.isEmpty (stmtsPieces true yes) ++ word " else " ++
      blockPieces no.isEmpty (stmtsPieces true no))))) = true
  simp [hcondition, isComplete_stmtsPieces hyes, isComplete_stmtsPieces hno]

/-- Whether the layout of a branch without a block is complete. -/
def Arm.IsComplete : Arm → Prop
  | .mk attrs pat guard body =>
    attrs.all (isComplete <| ·.pieces false) = true ∧ isComplete pat.pieces = true ∧ guard = none ∧
      ∃ text, body = .literal text ∧ text ≠ placeholder

/-- A distinction of cases is complete when the value and all arms are. -/
theorem isComplete_switch (place : Place) {value : Expr} {arms : List Arm}
    (hvalue : isComplete (value.pieces {}) = true) (harms : ∀ a ∈ arms, a.IsComplete) :
    isComplete ((Expr.switch value [] arms).pieces place) = true := by
  have hlines : isComplete (armsPieces arms) = true := by
    induction arms with
    | nil => rfl
    | cons a arms ih =>
      have ha := harms a List.mem_cons_self
      obtain ⟨attrs, pat, guard, body⟩ := a
      -- a complete arm has no guard, and a literal as its body
      obtain ⟨hattrs, hpat, rfl, text, rfl, htext⟩ := ha
      show isComplete (attrsPieces attrs ++ flow 0 (pat.pieces ++ [] ++ word " => " ++
        branchPieces (.literal text) ((Expr.literal text).pieces _)) ++ hardGap ++
        armsPieces arms) = true
      simp [hattrs, hpat, htext, ih fun a ha => harms a (List.mem_cons_of_mem _ ha)]
  show isComplete (place.leaf (flow 0 (word "match " ++ conditionGroup value (value.pieces {}) ++
    bodyPieces ([] ++ armsPieces arms)))) = true
  simp [hvalue, hlines]

/-! ## Items -/

/-- A line of documentation is complete, since its text is its own layout. -/
@[simp] theorem isComplete_attrDoc (inside : Bool) (text : String) :
    isComplete ((Attr.doc text).pieces inside) = true := by
  show isComplete (((if inside then CommentStyle.docInside else CommentStyle.doc).pieces? text).getD
    (word (attrOpening inside ++ "doc = " ++ Text.literal text ++ "]") ++ blankGap)) = true
  generalize (if inside then CommentStyle.docInside else CommentStyle.doc) = style
  unfold CommentStyle.pieces?
  simp only
  split_ifs <;> simp

/-- An attribute that is a list of tokens is complete, since tokens are printed as they are. -/
@[simp] theorem isComplete_attrList (inside : Bool) (path : PlainPath) (bracket : Bracket)
    (tokens : List Token) : isComplete ((Attr.list path bracket tokens).pieces inside) = true := by
  show isComplete (word (attrOpening inside ++ path.text) ++
    attrPieces false [.group bracket tokens] ++ word "]" ++ blankGap) = true
  simp

/-- Generic parameters with nothing but names are complete. -/
@[simp] theorem all_paramsPieces_named (names : List String) :
    (paramsPieces (names.map .named)).all (isComplete ·.2) = true := by
  induction names with
  | nil => rfl
  | cons name names ih =>
    show (isComplete ([] ++ word name ++ flow indentStep ([] ++ [] ++ [])) && _) = true
    rw [ih]
    rfl

/-- A constant is complete when its attributes, its type and its value are. -/
@[simp] theorem isComplete_value (attrs : List Attr) (intro name : String) (ty : Ty)
    (value : Expr) :
    isComplete (Item.value attrs intro name ty (some value)).pieces =
      (attrs.all (isComplete <| ·.pieces false) && isComplete (ty.pieces false) &&
        isComplete (value.pieces {})) := by
  show isComplete (attrsPieces attrs ++ whole 0 (word (intro ++ name ++ ": ") ++ ty.pieces false ++
    (word " = " ++ stayGap ++ value.pieces {}) ++ word ";") ++ hardGap) = _
  simp [Bool.and_assoc]

/-- Whether the layout of a requirement without lifetimes of its own is complete. -/
def Requirement.IsComplete : Requirement → Prop
  | .lifetime _ _ => False
  | .type binder ty bounds =>
    binder = none ∧ isComplete (ty.pieces false) = true ∧
      bounds.all (isComplete ·.pieces) = true

/-- The layouts of requirements are complete when each requirement is. -/
theorem all_requirementsPieces {requirements : List Requirement}
    (h : ∀ r ∈ requirements, r.IsComplete) :
    (requirementsPieces requirements).all isComplete = true := by
  induction requirements with
  | nil => rfl
  | cons r rs ih =>
    have hr := h r List.mem_cons_self
    have ih := ih fun r hr => h r (List.mem_cons_of_mem _ hr)
    cases r with
    | lifetime => exact hr.elim
    | type binder ty bounds =>
      obtain ⟨rfl, hty, hbounds⟩ := hr
      show (isComplete ([] ++ ty.pieces false ++ word ":" ++
        flow (if bounds.length = 1 then 0 else indentStep)
          ((if bounds.isEmpty then [] else word " ") ++ boundsPieces false bounds)) && _) = true
      rw [ih]
      simp [hty, hbounds]

/-- The layout of a function is complete when that of its parts is. -/
theorem isComplete_function {head : Signature} {attrs : List Attr} {body : Option (List Stmt)}
    (hattrs : attrs.all (isComplete <| ·.pieces false) = true)
    (hinputs : head.inputs.all Input.isComplete = true)
    (houtput : isComplete (head.output.pieces false) = true)
    (hrequirements : ∀ r ∈ head.requirements, r.IsComplete)
    (hbody : ∀ stmts ∈ body, ∀ s ∈ stmts, s.IsComplete) :
    isComplete (head.item attrs body).pieces = true := by
  have hhead : isComplete (word (head.intro ++ head.name.text) ++
      genericsPieces (paramsPieces (head.generics.map .named)) ++ word "(" ++ stayGap ++
      whole 0 (dedent (zeroGap ++ inputList (inputsPieces head.inputs))) ++ word ")" ++
      whole (-indentStep) (word " -> " ++ head.output.pieces false)) = true := by
    simp [hinputs, houtput]
  have hclause := all_requirementsPieces hrequirements
  -- without a body the requirements end the item, and with one they stand before the braces
  cases body with
  | none =>
    show isComplete (attrsPieces attrs ++ whole indentStep (_ ++
      requirementClause true hardGap (requirementsPieces head.requirements)) ++ hardGap) = true
    rw [isComplete_append, isComplete_append, isComplete_whole, isComplete_append, hhead]
    simp [hattrs, hclause]
  | some stmts =>
    have hstmts := isComplete_stmtsPieces (hbody stmts rfl) false
    show isComplete (attrsPieces attrs ++ (whole indentStep (_ ++
      requirementClause false hardGap (requirementsPieces head.requirements) ++ word "\x7b" ++
      lines (stmtsPieces false stmts)) ++ word "\x7d") ++ hardGap) = true
    rw [isComplete_append, isComplete_append, isComplete_append, isComplete_whole,
      isComplete_append, isComplete_append, isComplete_append, hhead]
    simp [hattrs, hclause, hstmts]

/-- The layout of a structure is complete when that of its fields is. -/
theorem isComplete_record {attrs : List Attr} {name : Ident} {fields : List StructField}
    (hattrs : attrs.all (isComplete <| ·.pieces false) = true)
    (hfields : (structFieldsPieces fields).all isComplete = true) :
    isComplete (Item.record attrs name fields).pieces = true := by
  -- each field stands on a line of its own
  have hlines : isComplete ((structFieldsPieces fields).flatMap (· ++ word "," ++ hardGap)) =
      true := by
    generalize structFieldsPieces fields = ps at hfields
    induction ps with
    | nil => rfl
    | cons p ps ih => simp_all
  show isComplete (attrsPieces attrs ++ (whole indentStep (word ("pub struct " ++ name.text) ++
    genericsPieces (paramsPieces []) ++ requirementClause false hardGap (requirementsPieces []) ++
    word "\x7b" ++ lines ((structFieldsPieces fields).flatMap (· ++ word "," ++ hardGap))) ++
    word "\x7d") ++ hardGap) = true
  rw [isComplete_append, isComplete_append, isComplete_append, isComplete_whole,
    isComplete_append, isComplete_lines, hlines]
  simp [hattrs, paramsPieces, requirementsPieces]

/-- The layouts of fields are complete when the attributes and the type of each field are. -/
@[simp] theorem all_structFieldsPieces (fields : List StructField) :
    (structFieldsPieces fields).all isComplete = fields.all fun
      | .mk attrs _ _ ty => attrs.all (isComplete <| ·.pieces false) &&
          isComplete (ty.pieces false) := by
  induction fields with
  | nil => rfl
  | cons field fields ih =>
    obtain ⟨attrs, intro, name, ty⟩ := field
    show (isComplete (attrsPieces attrs ++ word (intro ++ name.elim "" (· ++ ": ")) ++
      ty.pieces false) && _) = _
    simp [ih]

/-- The layout of a type that a trait leaves open is complete when that of its bounds is. -/
theorem isComplete_type {attrs : List Attr} {intro name : String} {bounds : List Bound}
    (hattrs : attrs.all (isComplete <| ·.pieces false) = true)
    (hbounds : bounds.all (isComplete ·.pieces) = true) :
    isComplete (Item.type attrs intro name [] bounds none []).pieces = true := by
  show isComplete (attrsPieces attrs ++ whole indentStep (word (intro ++ name) ++
    genericsPieces (paramsPieces []) ++ (if bounds.isEmpty then [] else word ": ") ++
    boundsPieces false bounds ++ [] ++ requirementClause true blankGap (requirementsPieces [])) ++
    hardGap) = true
  simp [hattrs, hbounds, paramsPieces, requirementsPieces, requirementClause]

/-- The layout of a trait is complete when that of its bounds and members is. -/
theorem isComplete_trait {attrs : List Attr} {intro name : String} {bounds : List Bound}
    {members : List Item} (hattrs : attrs.all (isComplete <| ·.pieces false) = true)
    (hbounds : bounds.all (isComplete ·.pieces) = true)
    (hmembers : members.all (isComplete ·.pieces) = true) :
    isComplete (Item.trait attrs intro name [] bounds [] members).pieces = true := by
  show isComplete (attrsPieces attrs ++ whole indentStep (word (intro ++ name) ++
    genericsPieces (paramsPieces []) ++ (if bounds.isEmpty then [] else word ": ") ++
    boundsPieces true bounds ++ requirementClause false hardGap (requirementsPieces []) ++
    word "\x7b" ++ lines (itemsPieces members)) ++ word "\x7d" ++ hardGap) = true
  simp [hattrs, hbounds, hmembers, paramsPieces, requirementsPieces]

/-- The layout of an implementation is complete when that of its type, its trait and its members
is. -/
theorem isComplete_implementation {attrs : List Attr} {role : Option Path} {ty : Ty}
    {members : List Item} (hattrs : attrs.all (isComplete <| ·.pieces false) = true)
    (hrole : role.all (fun path => isComplete (path.pieces false)) = true)
    (hty : isComplete (ty.pieces false) = true)
    (hmembers : members.all (isComplete ·.pieces) = true) :
    isComplete (Item.impl attrs "impl" [] false role ty [] members).pieces = true := by
  -- the trait stands between the keyword and the type, if there is one
  cases role with
  | none =>
    show isComplete (attrsPieces attrs ++ whole indentStep
      (flow (-indentStep) (whole indentStep (word "impl" ++ genericsPieces (paramsPieces [])) ++
        word " " ++ [] ++ ty.pieces false) ++
        requirementClause false hardGap (requirementsPieces []) ++ word "\x7b" ++
        lines (itemsPieces members)) ++ word "\x7d" ++ hardGap) = true
    simp [hattrs, hty, hmembers, paramsPieces, requirementsPieces]
  | some path =>
    show isComplete (attrsPieces attrs ++ whole indentStep
      (flow (-indentStep) (whole indentStep (word "impl" ++ genericsPieces (paramsPieces [])) ++
        word " " ++ (word (if false then "!" else "") ++ path.pieces false ++ blankGap ++
          word "for ") ++ ty.pieces false) ++
        requirementClause false hardGap (requirementsPieces []) ++ word "\x7b" ++
        lines (itemsPieces members)) ++ word "\x7d" ++ hardGap) = true
    have hrole : isComplete (path.pieces false) = true := hrole
    simp [hattrs, hrole, hty, hmembers, paramsPieces, requirementsPieces]

/-- The text of items of which every layout is complete. -/
theorem render_eq_ok {items : List Item} (h : items.all (isComplete ·.pieces) = true) :
    render items = .ok (print (whole 0 (itemsPieces items))) := by
  rw [render]
  simp only [isComplete_whole, isComplete_itemsPieces, h, if_true]

end ProtoRest.Code
