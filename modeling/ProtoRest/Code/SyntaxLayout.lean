import ProtoRest.Code.Fragment

/-! # Layout of syntax
The pieces of types, patterns, expressions, statements and items. Lists in brackets go one element per
line when they do not fit. A chain of fields, method calls and awaits ends its lines before the dots,
unless it starts a line with a very short name. Each item ends its last line; between two items there
is no empty line. -/

namespace ProtoRest.Code

open ProtoRest.Text

/-! ## Trees -/

mutual

/-- The pieces of an attribute, up to what it is about; `inside` says that it stands inside of that. -/
def Attr.pieces (inside : Bool) : Attr → Pieces
  | .doc text =>
    ((if inside then CommentStyle.docInside else CommentStyle.doc).pieces? text).getD
      (word (attrOpening inside ++ "doc = " ++ Text.literal text ++ "]") ++ blankGap)
  | .name path => word (attrOpening inside ++ path.text ++ "]") ++ blankGap
  | .list path bracket tokens =>
    word (attrOpening inside ++ path.text) ++ attrPieces false [.group bracket tokens] ++
      word "]" ++ blankGap
  | .value path value =>
    (commentOf? path value).getD
      (word (attrOpening inside ++ path.text ++ " = ") ++ value.pieces {} ++ word "]" ++ blankGap)

/-- The pieces of attributes before what they are about. -/
def attrsPieces : List Attr → Pieces
  | [] => []
  | a :: as => a.pieces false ++ attrsPieces as

/-- The pieces of attributes inside of what they are about. -/
def aboutPieces : List Attr → Pieces
  | [] => []
  | a :: as => a.pieces true ++ aboutPieces as

/-- The pieces of what is introduced, and whether it is a lifetime. -/
def GenericParam.pieces : GenericParam → Bool × Pieces
  | .lifetime attrs name bounds =>
    (true, attrsPieces attrs ++
      word (lifetimeText name ++
        (if bounds.isEmpty then "" else ": " ++ " + ".intercalate (bounds.map lifetimeText))))
  | .type attrs name bounds default =>
    (false, attrsPieces attrs ++ word name ++
      flow indentStep
        ((if bounds.isEmpty then [] else word ": ") ++ boundsPieces false bounds ++
          (match default with
           | none => []
           | some ty => blankGap ++ word "= " ++ ty.pieces false)))
  | .const attrs name ty default =>
    (false, attrsPieces attrs ++ word ("const " ++ name ++ ": ") ++ ty.pieces false ++
      (match default with
       | none => []
       | some value => word " = " ++ value.pieces {}))

/-- The pieces of all that is introduced, and whether each is a lifetime. -/
def paramsPieces : List GenericParam → List (Bool × Pieces)
  | [] => []
  | param :: params => param.pieces :: paramsPieces params

/-- The pieces of a type; in an expression, arguments stand after a double colon. -/
def Ty.pieces (inExpr : Bool) : Ty → Pieces
  | .path path => path.pieces inExpr
  | .qualified self as_ rest =>
    word "<" ++ self.pieces false ++
      (match as_ with
       | none => word ">"
       | some path => word " as " ++ path.pieces false ++ word ">") ++
      tailPieces inExpr rest
  | .tuple elems => tuplePieces "," (tysPieces elems)
  | .paren elem => word "(" ++ elem.pieces false ++ word ")"
  | .reference lifetime mutable elem =>
    word "&" ++
      (match lifetime with
       | none => []
       | some name => word (lifetimeText name) ++ word " ") ++
      (if mutable then word "mut " else []) ++ elem.pieces false
  | .pointer mutable elem =>
    word "*" ++ word (if mutable then "mut " else "const ") ++ elem.pieces false
  | .slice elem => word "[" ++ elem.pieces false ++ word "]"
  | .array elem length =>
    word "[" ++ elem.pieces false ++ word "; " ++ length.pieces {} ++ word "]"
  | .function binder intro inputs output =>
    (match binder with
     | none => []
     | some params => binderPieces (paramsPieces params)) ++
      word (intro ++ "fn(") ++
      whole indentStep (dedent (zeroGap ++ inputList (inputsPieces inputs))) ++ word ")" ++
      (match output with
       | none => []
       | some ty => word " -> " ++ ty.pieces false)
  | .object _ bounds _ => word "dyn " ++ boundsPieces true bounds
  | .impl bounds _ => word "impl " ++ boundsPieces true bounds
  | .never => word "!"
  | .infer => word "_"
  | .macroCall call => call.pieces
  | .unprintable => forbiddenPiece

/-- The pieces of types. -/
def tysPieces : List Ty → List Pieces
  | [] => []
  | ty :: tys => ty.pieces false :: tysPieces tys

/-- The pieces of inputs, and whether each is a rest. -/
def inputsPieces : List Input → List (Bool × Pieces)
  | [] => []
  | .self attrs intro ty :: inputs =>
    (false, attrsPieces attrs ++ word (intro ++ "self") ++
      (match ty with
       | none => []
       | some ty => word ": " ++ ty.pieces false)) :: inputsPieces inputs
  | .typed attrs none ty :: inputs =>
    (false, attrsPieces attrs ++ ty.pieces false) :: inputsPieces inputs
  | .typed attrs (some pat) ty :: inputs =>
    (false, attrsPieces attrs ++ pat.pieces ++ word ": " ++ ty.pieces false) :: inputsPieces inputs
  | .rest attrs none :: inputs => (true, attrsPieces attrs ++ word "...") :: inputsPieces inputs
  | .rest attrs (some pat) :: inputs =>
    (true, attrsPieces attrs ++ pat.pieces ++ word ": ...") :: inputsPieces inputs

/-- The pieces of a path. -/
def Path.pieces (inExpr : Bool) : Path → Pieces
  | .mk rooted segments => segmentsPieces inExpr rooted segments

/-- The pieces of segments; `colons` says whether the first one has colons before it. -/
def segmentsPieces (inExpr : Bool) (colons : Bool) : List Segment → Pieces
  | [] => []
  | s :: ss => (if colons then word "::" else []) ++ s.pieces inExpr ++ tailPieces inExpr ss

/-- The pieces of segments with colons before each. -/
def tailPieces (inExpr : Bool) : List Segment → Pieces
  | [] => []
  | s :: ss => word "::" ++ s.pieces inExpr ++ tailPieces inExpr ss

/-- The pieces of a segment. -/
def Segment.pieces (inExpr : Bool) : Segment → Pieces
  | .plain name => word name
  | .angle name args => word name ++ anglePieces inExpr (argsPieces args)
  | .call name inputs output =>
    word name ++ whole indentStep (word "(" ++ dedent (zeroGap ++ commaList (tysPieces inputs)) ++
      word ")" ++
      (match output with
       | none => []
       | some ty => word " -> " ++ ty.pieces false))

/-- The pieces of arguments, and whether each is a lifetime. -/
def argsPieces : List Arg → List (Bool × Pieces)
  | [] => []
  | arg :: args => arg.pieces :: argsPieces args

/-- The pieces of an argument, and whether it is a lifetime. -/
def Arg.pieces : Arg → Bool × Pieces
  | .lifetime name => (true, word (lifetimeText name))
  | .type ty => (false, ty.pieces false)
  | .const value => (false, value.pieces {})
  | .assoc segment ty => (false, segment.pieces false ++ word " = " ++ ty.pieces false)
  | .assocConst segment value => (false, segment.pieces false ++ word " = " ++ value.pieces {})
  | .constraint segment bounds =>
    (false, segment.pieces false ++
      flow indentStep ((if bounds.isEmpty then [] else word ": ") ++ boundsPieces false bounds))

/-- The pieces of a bound. -/
def Bound.pieces : Bound → Pieces
  | .lifetime name => word (lifetimeText name)
  | .trait paren maybe binder path =>
    (if paren then word "(" else []) ++
      (match binder with
       | none => []
       | some params => binderPieces (paramsPieces params)) ++
      (if maybe then word "?" else []) ++ path.pieces false ++ (if paren then word ")" else [])
  | .capture names => word ("use<" ++ ", ".intercalate names ++ ">")
  | .unprintable => forbiddenPiece

/-- The pieces of bounds joined by plus signs; `stay` says whether lines cannot end there. -/
def boundsPieces (stay : Bool) : List Bound → Pieces
  | [] => []
  | b :: bs => b.pieces ++ moreBoundsPieces stay bs

/-- The pieces of bounds with a plus sign before each. -/
def moreBoundsPieces (stay : Bool) : List Bound → Pieces
  | [] => []
  | b :: bs =>
    (if stay then word " + " else blankGap ++ word "+ ") ++ b.pieces ++ moreBoundsPieces stay bs

/-- The pieces of a pattern. -/
def Pat.pieces : Pat → Pieces
  | .name byRef mutable name sub =>
    word ((if byRef then "ref " else "") ++ (if mutable then "mut " else "") ++ name) ++
      (match sub with
       | none => []
       | some pat => word " @ " ++ pat.pieces)
  | .literal text => literalPieces text
  | .path ty => ty.pieces true
  | .range start closed stop =>
    (match start with
     | none => []
     | some e => e.pieces {}) ++
      word (if closed then "..=" else "..") ++
      (match stop with
       | none => []
       | some e => e.pieces {})
  | .either cases =>
    group 0 (!cases.all (·.isPlain)) (alternatives (patsPieces cases))
  | .tuple elems comma => tuplePieces (if comma then "," else "") (patsPieces elems)
  | .paren inner => word "(" ++ inner.pieces ++ word ")"
  | .reference mutable inner => word (if mutable then "&mut " else "&") ++ inner.pieces
  | .rest => word ".."
  | .slice elems => word "[" ++ commaList (patsPieces elems) ++ word "]"
  | .struct ty fields => structPieces none (ty.pieces true) (fieldPatsPieces fields)
  | .tupleStruct ty elems =>
    ty.pieces true ++ word "(" ++ bracketed indentStep (patsPieces elems) ++ word ")"
  | .typed inner ty => inner.pieces ++ word ": " ++ ty.pieces false
  | .wild => word "_"
  | .macroCall call => call.pieces
  | .const body =>
    word "const " ++ whole indentStep (blockPieces body.isEmpty (stmtsPieces true body))
  | .attributed attrs inner => attrsPieces attrs ++ inner.pieces
  | .unprintable => forbiddenPiece

/-- The pieces of patterns. -/
def patsPieces : List Pat → List Pieces
  | [] => []
  | p :: ps => p.pieces :: patsPieces ps

/-- The pieces of the fields in a pattern, and whether each is a rest. -/
def fieldPatsPieces : List FieldPat → List (Bool × Pieces)
  | [] => []
  | .field attrs none pat :: fields => (false, attrsPieces attrs ++ pat.pieces) :: fieldPatsPieces fields
  | .field attrs (some name) pat :: fields =>
    (false, attrsPieces attrs ++ word (name ++ ": ") ++ pat.pieces) :: fieldPatsPieces fields
  | .rest attrs :: fields => (true, attrsPieces attrs ++ word "..") :: fieldPatsPieces fields

/-- The pieces of an expression. -/
def Expr.pieces (place : Place) : Expr → Pieces
  | .literal text => place.leaf (literalPieces text)
  | .path ty => place.leaf (ty.pieces true)
  | .array elems => place.leaf (arrayPieces (elems.all (·.isPlainValue)) (exprsPieces elems))
  | .replicate elem count =>
    place.leaf (word "[" ++ elem.pieces {} ++ word "; " ++ count.pieces {} ++ word "]")
  | .tuple elems => place.leaf (tuplePieces "," (exprsPieces elems))
  | .paren inner => place.leaf (word "(" ++ inner.pieces {} ++ word ")")
  | .call function args =>
    function.pieces ⟨place.inChain, place.atStart && !place.inChain⟩ ++
      callPieces args (exprsPieces args)
  | .method receiver name types args =>
    place.link
      (receiver.pieces ⟨true, place.atStart⟩ ++ place.dotGap receiver ++ word ("." ++ name) ++
        anglePieces true (argsPieces types) ++
        whole (if place.atStart && !place.inChain && receiver.isShortName then -indentStep else 0)
          (callPieces args (exprsPieces args)))
  | .field base name =>
    place.link (base.pieces ⟨true, place.atStart⟩ ++ place.dotGap base ++ word ("." ++ name))
  | .index base position =>
    base.pieces place ++ word "[" ++ position.pieces {} ++ word "]"
  | .await base =>
    place.link (base.pieces ⟨true, place.atStart⟩ ++ place.dotGap base ++ word ".await")
  | .try_ base => base.pieces place ++ word "?"
  | .unary operator base => place.leaf (word operator ++ base.pieces {})
  | .binary left operator right =>
    place.leaf (flow indentStep (flow (-indentStep) (left.pieces {}) ++ blankGap ++
      word operator ++ word " " ++ right.pieces {}))
  | .assign left right =>
    place.leaf (flow 0 (left.pieces {} ++ word " = " ++ stayGap ++ right.pieces {}))
  | .cast base ty =>
    place.leaf (flow indentStep (flow (-indentStep) (base.pieces {}) ++ blankGap ++ word "as " ++
      ty.pieces false))
  | .range start closed stop =>
    place.leaf
      ((match start with
        | none => []
        | some e => e.pieces {}) ++
        word (if closed then "..=" else "..") ++
        (match stop with
         | none => []
         | some e => e.pieces {}))
  | .matches pat value =>
    place.leaf (flow 0 (word "let " ++ flow 0 pat.pieces ++ word " = " ++ stayGap ++
      value.pieces {}))
  | .ite condition yes no =>
    place.leaf (whole indentStep (word "if " ++
      whole (-indentStep) (conditionGroup condition (condition.pieces {})) ++
      (match no with
       | none =>
         if yes.isEmpty then word "\x7b\x7d"
         else word "\x7b" ++ dedent (hardGap ++ stmtsPieces false yes) ++ word "\x7d"
       | some e => blockPieces yes.isEmpty (stmtsPieces true yes) ++ word " else " ++ e.elsePieces)))
  | .switch value about arms =>
    place.leaf (flow 0 (word "match " ++ conditionGroup value (value.pieces {}) ++
      bodyPieces (aboutPieces about ++ armsPieces arms)))
  | .block label intro body =>
    place.leaf (labelPieces label ++ word intro ++
      whole indentStep (blockPieces body.isEmpty (stmtsPieces true body)))
  | .loop label body =>
    place.leaf (labelPieces label ++ word "loop \x7b" ++
      whole indentStep (dedent (hardGap ++ stmtsPieces false body)) ++ word "\x7d")
  | .while_ label condition body =>
    place.leaf (labelPieces label ++ word "while " ++
      conditionGroup condition (condition.pieces {}) ++ bodyPieces (stmtsPieces false body))
  | .for_ label pat values body =>
    place.leaf (flow 0 (labelPieces label ++ word "for " ++ pat.pieces ++ word " in " ++ stayGap ++
      conditionGroup values (values.pieces {}) ++ bodyPieces (stmtsPieces false body)))
  | .closure binder intro inputs output body =>
    place.leaf (flow 0
      ((match binder with
        | none => []
        | some params => binderPieces (paramsPieces params)) ++
        word intro ++
        (match output with
         | none =>
           whole indentStep (dedent (word "|" ++
             closureInputs false (patsPieces inputs) ++ word "|" ++ blankGap)) ++
             stayGap ++ closureBody body (body.pieces {})
         | some ty =>
           whole indentStep (word "|" ++ dedent (closureInputs true (patsPieces inputs)) ++
             word "|") ++
             word " -> " ++ ty.pieces false ++ word " " ++ stayGap ++ body.pieces {})))
  | .struct ty fields =>
    place.leaf (structPieces (some 34) (flow (-indentStep) (ty.pieces true))
      (fieldValuesPieces fields))
  | .jump keyword label value =>
    place.leaf (word keyword ++ word (label.elim "" fun name => " " ++ lifetimeText name) ++
      (match value with
       | none => []
       | some e => word " " ++ e.pieces {}))
  | .macroCall call => place.leaf call.pieces
  | .infer => place.leaf (word "_")
  | .attributed attrs inner => attrsPieces attrs ++ inner.pieces place
  | .unprintable => forbiddenPiece

/-- The pieces of expressions. -/
def exprsPieces : List Expr → List Pieces
  | [] => []
  | e :: es => e.pieces {} :: exprsPieces es

/-- The pieces of the other branch of a choice. -/
def Expr.elsePieces : Expr → Pieces
  | .ite condition yes no =>
    word "if " ++ whole (-indentStep) (conditionGroup condition (condition.pieces {})) ++
      blockPieces yes.isEmpty (stmtsPieces true yes) ++
      (match no with
       | none => []
       | some e => word " else " ++ e.elsePieces)
  | .block _ _ body => blockPieces body.isEmpty (stmtsPieces true body)
  | _ => []

/-- The pieces of the fields of a structure that is built, and whether each is a rest. -/
def fieldValuesPieces : List FieldValue → List (Bool × Pieces)
  | [] => []
  | .field attrs name none :: fields =>
    (false, attrsPieces attrs ++ word name) :: fieldValuesPieces fields
  | .field attrs name (some value) :: fields =>
    (false, attrsPieces attrs ++ word (name ++ ": ") ++ flow 0 (value.pieces {})) ::
      fieldValuesPieces fields
  | .rest base :: fields => (true, word ".." ++ base.pieces {}) :: fieldValuesPieces fields

/-- The lines of the branches of a choice. -/
def armsPieces : List Arm → Pieces
  | [] => []
  | .mk attrs pat guard body :: arms =>
    attrsPieces attrs ++
      flow 0
        (pat.pieces ++
          (match guard with
           | none => []
           | some e => word " if " ++ e.pieces {}) ++
          word " => " ++
          (match body with
           | .block label "" stmts | .attributed _ (.block label "" stmts) =>
             labelPieces label ++ bodyPieces (stmtsPieces false stmts)
           | body => branchPieces body (body.pieces ⟨false, body.startsStatement⟩))) ++
      hardGap ++ armsPieces arms

/-- The pieces of statements, each with the end of its line; `alone` says that a single expression
stays on the line of the brackets around it when it fits. -/
def stmtsPieces (alone : Bool) : List Stmt → Pieces
  | [] => []
  | [s] => s.pieces alone
  | .about attr :: ss => attr.pieces true ++ stmtsPieces alone ss
  | s :: ss => s.pieces false ++ stmtsPieces false ss

/-- The pieces of a statement. -/
def Stmt.pieces (alone : Bool) : Stmt → Pieces
  | .bind attrs pat value otherwise =>
    attrsPieces attrs ++
      (match value with
       | none => stmtLine (word "let " ++ pat.pieces ++ word ";")
       | some e =>
         let start := word "let " ++ pat.pieces ++ word " = " ++ stayGap ++ e.pieces {}
         match otherwise with
         | none => stmtLine (start ++ word ";")
         | some block =>
           flow 0 (start ++ blankGap ++ word "else ") ++ stayGap ++ block.pieces {} ++ word ";" ++
             hardGap)
  | .expr value semicolon =>
    if alone && !semicolon then flow 0 (value.pieces ⟨false, true⟩) ++ blankGap
    else
      stmtLine (value.pieces ⟨false, true⟩ ++
        (if if semicolon then !value.dropsSemicolon else value.addsSemicolon then word ";" else []))
  | .macroCall attrs call => attrsPieces attrs ++ call.itemPieces
  | .item item => item.pieces
  | .about attr => attr.pieces true
  | .empty => []

/-- The pieces of requirements. -/
def requirementsPieces : List Requirement → List Pieces
  | [] => []
  | .lifetime name bounds :: requirements =>
    (word (lifetimeText name ++ ":") ++
      flow indentStep (lifetimeBounds bounds)) :: requirementsPieces requirements
  | .type binder ty bounds :: requirements =>
    ((match binder with
      | none => []
      | some params => binderPieces (paramsPieces params)) ++
      ty.pieces false ++ word ":" ++
      flow (if bounds.length = 1 then 0 else indentStep)
        ((if bounds.isEmpty then [] else word " ") ++ boundsPieces false bounds)) ::
      requirementsPieces requirements

/-- The pieces of the fields of a structure. -/
def structFieldsPieces : List StructField → List Pieces
  | [] => []
  | .mk attrs intro name ty :: fields =>
    (attrsPieces attrs ++ word (intro ++ name.elim "" (· ++ ": ")) ++ ty.pieces false) ::
      structFieldsPieces fields

/-- The lines of the variants of an enum. -/
def variantsPieces : List EnumVariant → Pieces
  | [] => []
  | .mk attrs name shape fields number :: variants =>
    attrsPieces attrs ++ word name ++
      (match shape with
       | .unit => []
       | .tuple => whole indentStep (tupleFields (structFieldsPieces fields))
       | .named => namedFields (structFieldsPieces fields)) ++
      (match number with
       | none => []
       | some value => word " = " ++ value.pieces {}) ++
      word "," ++ hardGap ++ variantsPieces variants

/-- The pieces of an item. -/
def Item.pieces : Item → Pieces
  | .value attrs intro name ty value =>
    attrsPieces attrs ++
      whole 0 (word (intro ++ name ++ ": ") ++ ty.pieces false ++
        (match value with
         | none => []
         | some value => word " = " ++ stayGap ++ value.pieces {}) ++ word ";") ++ hardGap
  | .fn attrs intro name params inputs output requirements body =>
    let head :=
      word (intro ++ name) ++ genericsPieces (paramsPieces params) ++ word "(" ++ stayGap ++
        whole 0 (dedent (zeroGap ++ inputList (inputsPieces inputs))) ++ word ")" ++
        whole (-indentStep)
          (match output with
           | none => []
           | some ty => word " -> " ++ ty.pieces false)
    let requirements := requirementsPieces requirements
    attrsPieces attrs ++
      (match body with
       | none => whole indentStep (head ++ requirementClause true hardGap requirements)
       | some (.block _ _ stmts) =>
         whole indentStep (head ++ requirementClause false hardGap requirements ++ word "\x7b" ++
           lines (stmtsPieces false stmts)) ++ word "\x7d"
       | some _ => forbiddenPiece) ++ hardGap
  | .alias attrs intro name params requirements ty =>
    attrsPieces attrs ++
      whole indentStep (word (intro ++ name) ++ genericsPieces (paramsPieces params) ++
        requirementClause false blankGap (requirementsPieces requirements) ++ word "= " ++
        stayGap ++ flow (-indentStep) (ty.pieces false) ++ word ";") ++ hardGap
  | .type attrs intro name params bounds ty requirements =>
    attrsPieces attrs ++
      whole indentStep (word (intro ++ name) ++ genericsPieces (paramsPieces params) ++
        (if bounds.isEmpty then [] else word ": ") ++ boundsPieces false bounds ++
        (match ty with
         | none => []
         | some ty => word " = " ++ stayGap ++ flow (-indentStep) (ty.pieces false)) ++
        requirementClause true blankGap (requirementsPieces requirements)) ++ hardGap
  | .elsewhere attrs intro name params =>
    attrsPieces attrs ++
      whole 0 (word (intro ++ name) ++ genericsPieces (paramsPieces params) ++ word ";") ++ hardGap
  | .struct attrs intro name params shape fields requirements =>
    let head := word (intro ++ name) ++ genericsPieces (paramsPieces params)
    let requirements := requirementsPieces requirements
    let fields := structFieldsPieces fields
    attrsPieces attrs ++
      (match shape with
       | .unit => whole indentStep (head ++ requirementClause true hardGap requirements)
       | .tuple =>
         whole indentStep (head ++ tupleFields fields ++
           requirementClause true hardGap requirements)
       | .named =>
         whole indentStep (head ++ requirementClause false hardGap requirements ++ word "\x7b" ++
           lines (fields.flatMap (· ++ word "," ++ hardGap))) ++ word "\x7d") ++ hardGap
  | .enum attrs intro name params requirements variants =>
    attrsPieces attrs ++
      whole indentStep (word (intro ++ name) ++ genericsPieces (paramsPieces params) ++
        requirementClause false hardGap (requirementsPieces requirements) ++ word "\x7b" ++
        lines (variantsPieces variants)) ++ word "\x7d" ++ hardGap
  | .trait attrs intro name params bounds requirements members =>
    attrsPieces attrs ++
      whole indentStep (word (intro ++ name) ++ genericsPieces (paramsPieces params) ++
        (if bounds.isEmpty then [] else word ": ") ++ boundsPieces true bounds ++
        requirementClause false hardGap (requirementsPieces requirements) ++ word "\x7b" ++
        lines (itemsPieces members)) ++ word "\x7d" ++ hardGap
  | .traitAlias attrs intro name params bounds requirements =>
    attrsPieces attrs ++
      whole indentStep (word (intro ++ name) ++ genericsPieces (paramsPieces params) ++
        (if bounds.isEmpty then [] else word " = ") ++ boundsPieces false bounds ++
        requirementClause true hardGap (requirementsPieces requirements)) ++ hardGap
  | .impl attrs intro params negative role ty requirements members =>
    attrsPieces attrs ++
      whole indentStep
        (flow (-indentStep)
          (whole indentStep (word intro ++ genericsPieces (paramsPieces params)) ++ word " " ++
            (match role with
             | none => []
             | some path =>
               word (if negative then "!" else "") ++ path.pieces false ++ blankGap ++
                 word "for ") ++
            ty.pieces false) ++
          requirementClause false hardGap (requirementsPieces requirements) ++ word "\x7b" ++
          lines (itemsPieces members)) ++ word "\x7d" ++ hardGap
  | .mod attrs intro name items =>
    attrsPieces attrs ++
      whole indentStep (word (intro ++ name ++ " \x7b") ++ lines (itemsPieces items)) ++
      word "\x7d" ++ hardGap
  | .foreign attrs intro members =>
    attrsPieces attrs ++
      whole indentStep (word (intro ++ "\x7b") ++ lines (itemsPieces members)) ++ word "\x7d" ++
      hardGap
  | .use attrs intro tree => attrsPieces attrs ++ word intro ++ tree.pieces ++ word ";" ++ hardGap
  | .externCrate attrs intro name other =>
    attrsPieces attrs ++ word (intro ++ name ++ other.elim "" (" as " ++ ·) ++ ";") ++ hardGap
  | .macroCall attrs call => attrsPieces attrs ++ call.itemPieces
  | .about attr => attr.pieces true
  | .unprintable => forbiddenPiece

/-- The pieces of items. -/
def itemsPieces : List Item → Pieces
  | [] => []
  | item :: items => item.pieces ++ itemsPieces items

end

end ProtoRest.Code
