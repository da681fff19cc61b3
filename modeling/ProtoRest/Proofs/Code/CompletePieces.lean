import ProtoRest.Code.Fragment

/-! # Complete layouts
When a layout holds no place where code without a layout stands: a layout that is made of others is
complete exactly when all of these are. -/

namespace ProtoRest.Code

open ProtoRest.Text

/-! ## Pieces -/

/-- Nothing is complete. -/
@[simp] theorem isComplete_nil : isComplete [] = true := rfl

/-- Two layouts one behind the other are complete when both are. -/
@[simp] theorem isComplete_append (p q : Pieces) :
    isComplete (p ++ q) = (isComplete p && isComplete q) := List.all_append

/-- A word is complete. -/
@[simp] theorem isComplete_word (s : String) : isComplete (word s) = true := rfl

/-- A gap in front changes nothing. -/
@[simp] theorem isComplete_gap_cons (g : Gap) (p : Pieces) :
    isComplete (.gap g :: p) = isComplete p := rfl

/-- A gap that may be empty is complete. -/
@[simp] theorem isComplete_zeroGap : isComplete zeroGap = true := rfl

/-- A gap that is a blank or a break is complete. -/
@[simp] theorem isComplete_blankGap : isComplete blankGap = true := rfl

/-- A gap that always breaks is complete. -/
@[simp] theorem isComplete_hardGap : isComplete hardGap = true := rfl

/-- A gap that never breaks is complete. -/
@[simp] theorem isComplete_stayGap : isComplete stayGap = true := rfl

/-- A choice between two layouts is complete when the chosen one is. -/
@[simp] theorem isComplete_ite (c : Prop) [Decidable c] (p q : Pieces) :
    isComplete (if c then p else q) = if c then isComplete p else isComplete q := by
  split <;> rfl

/-- A group is complete when what is in it is. -/
@[simp] theorem isComplete_group (offset : Int) (consistent : Bool) (p : Pieces) :
    isComplete (group offset consistent p) = isComplete p := by
  fun_cases group offset consistent p with
  | case1 => rfl
  | case2 =>
    show isComplete (p ++ [.stop]) = isComplete p
    rw [isComplete_append]
    exact Bool.and_true _

/-- A group whose gaps break together is complete when what is in it is. -/
@[simp] theorem isComplete_whole (offset : Int) (p : Pieces) :
    isComplete (whole offset p) = isComplete p := isComplete_group offset true p

/-- A group whose gaps break one by one is complete when what is in it is. -/
@[simp] theorem isComplete_flow (offset : Int) (p : Pieces) :
    isComplete (flow offset p) = isComplete p := isComplete_group offset false p

/-- A step back of the last gap changes nothing. -/
@[simp] theorem isComplete_dedent (p : Pieces) : isComplete (dedent p) = isComplete p := by
  rw [dedent]
  fun_induction shiftLast (-indentStep) p with
  | case1 => rfl
  | case2 => rfl
  | case3 => rfl
  | case4 p q ps ih =>
    rw [isComplete, List.all_cons, ← isComplete, ih]
    rfl

/-- The comma behind an element is complete. -/
@[simp] theorem isComplete_commaAfter (isLast : Bool) : isComplete (commaAfter isLast) = true := by
  cases isLast <;> rfl

/-- A list with commas is complete when its elements are. -/
@[simp] theorem isComplete_commaList (ps : List Pieces) :
    isComplete (commaList ps) = ps.all isComplete := by
  fun_induction commaList ps with
  | case1 => rfl
  | case2 p => simp
  | case3 p q ps ih => simp [ih]

/-- A list in brackets is complete when its elements are. -/
@[simp] theorem isComplete_bracketed (offset : Int) (ps : List Pieces) :
    isComplete (bracketed offset ps) = ps.all isComplete := by
  simp [bracketed]

/-- Lines of their own are complete when what is on them is. -/
@[simp] theorem isComplete_lines (p : Pieces) : isComplete (lines p) = isComplete p := by
  rw [lines]
  cases p with
  | nil => rfl
  | cons => simp

/-! ## Fragments -/

/-- A literal is complete unless it is the mark of code without a layout. -/
@[simp] theorem isComplete_literalPieces (text : String) :
    isComplete (literalPieces text) = (text != placeholder) := by
  rw [literalPieces]
  split
  · simp_all [forbiddenPiece, isComplete]
  · simp_all

/-- What a condition is put in changes nothing. -/
@[simp] theorem isComplete_conditionGroup (condition : Expr) (p : Pieces) :
    isComplete (conditionGroup condition p) = isComplete p := by
  simp [conditionGroup]

/-- The line of a statement is complete when the statement is. -/
@[simp] theorem isComplete_stmtLine (p : Pieces) : isComplete (stmtLine p) = isComplete p := by
  simp [stmtLine]

/-- A body in braces is complete when what is in it is. -/
@[simp] theorem isComplete_bodyPieces (p : Pieces) :
    isComplete (bodyPieces p) = isComplete p := by
  simp [bodyPieces]

/-- A block is complete when it is empty or what is in it is complete. -/
@[simp] theorem isComplete_blockPieces (isEmpty : Bool) (p : Pieces) :
    isComplete (blockPieces isEmpty p) = (isEmpty || isComplete p) := by
  cases isEmpty <;> simp [blockPieces]

/-- A list of inputs is complete when each of them is. -/
@[simp] theorem isComplete_inputList (ps : List (Bool × Pieces)) :
    isComplete (inputList ps) = ps.all (isComplete ·.2) := by
  fun_induction inputList ps with
  | case1 => rfl
  | case2 isRest p => simp
  | case3 isRest p q ps ih => simp [ih]

/-- Putting lifetimes first neither adds nor drops an argument. -/
@[simp] theorem all_lifetimesFirst (args : List (Bool × Pieces)) :
    (lifetimesFirst args).all isComplete = args.all (isComplete ·.2) := by
  rw [lifetimesFirst, List.all_map, List.all_append]
  induction args with
  | nil => rfl
  | cons arg args ih =>
    rw [List.all_cons, ← ih]
    cases h : arg.1 <;> simp [h, Bool.and_assoc, Bool.and_left_comm]

/-- Arguments in angle brackets are complete when each of them is. -/
@[simp] theorem isComplete_anglePieces (inExpr : Bool) (args : List (Bool × Pieces)) :
    isComplete (anglePieces inExpr args) = args.all (isComplete ·.2) := by
  cases args with
  | nil => rfl
  | cons => simp [anglePieces]

/-- Generic parameters are complete when each of them is. -/
@[simp] theorem isComplete_genericsPieces (params : List (Bool × Pieces)) :
    isComplete (genericsPieces params) = params.all (isComplete ·.2) := by
  cases params with
  | nil => rfl
  | cons => simp [genericsPieces]

/-- The gap before a dot is complete. -/
@[simp] theorem isComplete_dotGap (place : Place) (base : Expr) :
    isComplete (place.dotGap base) = true := by
  simp [Place.dotGap]

/-- A link of a chain is complete when what it holds is. -/
@[simp] theorem isComplete_link (place : Place) (p : Pieces) :
    isComplete (place.link p) = isComplete p := by
  simp [Place.link]

/-- The start of a chain is complete when what it holds is. -/
@[simp] theorem isComplete_leaf (place : Place) (p : Pieces) :
    isComplete (place.leaf p) = isComplete p := by
  simp [Place.leaf]

/-- The arguments of a call are complete when each of them is. -/
@[simp] theorem isComplete_callPieces (args : List Expr) (ps : List Pieces) :
    isComplete (callPieces args ps) = ps.all isComplete := by
  unfold callPieces
  split <;> simp

/-- The elements of an array are complete when each of them is. -/
@[simp] theorem isComplete_arrayPieces (plain : Bool) (ps : List Pieces) :
    isComplete (arrayPieces plain ps) = ps.all isComplete := by
  have hfill (ps : List Pieces) : isComplete (arrayPieces.fill ps) = ps.all isComplete := by
    fun_induction arrayPieces.fill ps with
    | case1 => rfl
    | case2 p => simp
    | case3 p q ps ih => simp [ih]
  fun_cases arrayPieces plain ps <;> simp [hfill]

/-- A branch is complete when its value is, in braces or not. -/
@[simp] theorem isComplete_branchPieces (value : Expr) (p : Pieces) :
    isComplete (branchPieces value p) = isComplete p := by
  have hcons (g : Gap) (q : Pieces) : isComplete ([.gap g] ++ q) = isComplete q := rfl
  simp only [branchPieces, isComplete_append, isComplete_whole, isComplete_gap_cons,
    isComplete_stayGap, isComplete_nil, Bool.and_true, Bool.true_and]

/-- Requirements are complete when each of them is and the gap before them is. -/
theorem isComplete_requirementList (atEnd : Bool) {gap : Pieces} (hgap : isComplete gap = true)
    (ps : List Pieces) : isComplete (requirementList atEnd gap ps) = ps.all isComplete := by
  fun_induction requirementList atEnd gap ps with
  | case1 => rfl
  | case2 p => simp [hgap]
  | case3 p q ps ih => simp [ih, hgap]

/-- The clause of requirements is complete when each of them is. -/
@[simp] theorem isComplete_requirementClause (atEnd : Bool) (ps : List Pieces) :
    isComplete (requirementClause atEnd hardGap ps) = ps.all isComplete := by
  cases ps with
  | nil => rfl
  | cons p ps =>
    have hlist := isComplete_requirementList atEnd isComplete_hardGap (p :: ps)
    cases atEnd <;> simp [requirementClause, hlist]

/-! ## Tokens -/

/-- The gap between two tokens of a macro is complete. -/
@[simp] theorem isComplete_macroGap (held blank isPoint : Bool) :
    isComplete (macroGap held blank isPoint) = true := by
  simp [macroGap]

/-- The tokens of a macro are complete, whatever they are. -/
@[simp] theorem isComplete_macroPieces (pattern : Bool) (state : MacroState) (held : Bool)
    (tokens : List Token) : isComplete (macroPieces pattern state held tokens) = true := by
  fun_induction macroPieces pattern state held tokens <;> simp_all +zetaDelta

/-- The tokens of an attribute are complete, whatever they are. -/
@[simp] theorem isComplete_attrPieces (afterWord : Bool) (tokens : List Token) :
    isComplete (attrPieces afterWord tokens) = true := by
  fun_induction attrPieces afterWord tokens with
  | case8 afterWord bracket inner rest ih ih' => cases bracket <;> simp_all
  | _ => simp_all

end ProtoRest.Code
