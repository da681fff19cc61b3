import Mathlib.Tactic.SplitIfs
import ProtoRest.Proofs.Code.CompleteSyntax
import ProtoRest.Proofs.Code.TypeArguments
import ProtoRest.Route.Server

/-! # Layout of server code
The code that is generated for a service has a layout, and nothing in it fails to be read back, as
soon as the types in it are plain. -/

namespace ProtoRest.Route

open ProtoRest.Code

/-! ## Parts of the code -/

section Types

variable (inExpr : Bool) (ty : Ty)

/-- An optional type has a layout when the type has. -/
@[simp] theorem isComplete_optionOf :
    isComplete ((optionOf ty).pieces inExpr) = isComplete (ty.pieces false) := by
  simp [optionOf, Path.generic]

/-- A result has a layout when its type and that of its error have. -/
@[simp] theorem isComplete_resultOf (error : Ty) :
    isComplete ((resultOf ty error).pieces inExpr) =
      (isComplete (ty.pieces false) && isComplete (error.pieces false)) := by
  simp [resultOf, Path.generic]

/-- A type around another one has a layout when the inner one has. -/
@[simp] theorem isComplete_framed (modules : List String) (name : String) :
    isComplete ((framed modules name ty).pieces inExpr) = isComplete (ty.pieces false) := by
  simp [framed, Path.generic]

/-- The type of the shared server has a layout. -/
@[simp] theorem isComplete_sharedServer : isComplete (sharedServer.pieces inExpr) = true := by
  simp [sharedServer, Path.generic]

end Types

section Values

variable (place : Place)

/-- A path from the root has a layout. -/
@[simp] theorem isComplete_rootExpr (names : List String) :
    isComplete ((rootExpr names).pieces place) = true := by
  simp [rootExpr]

/-- An option with a value has a layout when the value has. -/
@[simp] theorem isComplete_someOf (value : Expr) :
    isComplete ((someOf value).pieces place) = isComplete (value.pieces {}) := by
  simp [someOf]

/-- The default of a type has a layout when the type has. -/
@[simp] theorem isComplete_defaultOf (ty : Ty) :
    isComplete ((defaultOf ty).pieces place) = isComplete (ty.pieces false) := by
  simp [defaultOf]

/-- A field of the request has a layout. -/
@[simp] theorem isComplete_requestField (ident : Ident) :
    isComplete ((requestField ident).pieces place) = true := by
  simp [requestField]

end Values

/-- An assignment has a layout when both sides have. -/
@[simp] theorem isComplete_assignment (left right : Expr) :
    (assignment left right).IsComplete ↔
      (isComplete (left.pieces {}) && isComplete (right.pieces {})) = true := by
  simp [assignment]

/-! ## Parameters -/

/-- A parameter with a plain type and a name that can be accessed. -/
structure Param.IsGood (p : Param) : Prop where
  /-- Its type is plain. -/
  ty : p.ty.IsPlain
  /-- Its name is no underscore. -/
  ident : p.field.ident ≠ "_"

/-- The structure of parameters has a layout when the types of the parameters have. -/
theorem isComplete_paramsItem (kind : String) (derived : List PlainPath) (route : String)
    (name : Ident) (presence : Presence) {params : List Param} (h : ∀ p ∈ params, p.IsGood) :
    (paramsItem kind derived route name presence params).all (isComplete ·.pieces) = true := by
  rw [paramsItem]
  split
  · rfl
  · rw [List.all_cons, isComplete_record, List.all_nil, Bool.and_true]
    · simp [Attr.docLine, Attr.call]
    · rw [all_structFieldsPieces, List.all_map, List.all_eq_true]
      intro p hp
      have hty := (h p hp).ty.complete
      simp only [Function.comp, Param.structField, StructField.visible]
      split_ifs <;> simp [Attr.call, hty]

/-- An extractor has a layout when its type has. -/
theorem isComplete_extractor (modules : List String) (name pat : String) {ty : Ty}
    (hty : isComplete (ty.pieces false) = true) : (extractor modules name pat ty).isComplete = true := by
  simp [extractor, Input.of, Input.isComplete, hty]

/-- The inputs for parameters have layouts. -/
theorem all_paramsInput (name pat : String) (type : Ident) (params : List Param) :
    (paramsInput name pat type params).all Input.isComplete = true := by
  rw [paramsInput]
  split
  · rfl
  · rw [List.all_cons, isComplete_extractor _ _ _ (by simp)]
    rfl

/-- The assignment of a path parameter has a layout. -/
theorem isComplete_pathAssignment (p : Param) : (pathAssignment p).IsComplete := by
  rw [pathAssignment, isComplete_assignment]
  split_ifs <;> simp

/-- The assignments of a query parameter have layouts when its type has. -/
theorem isComplete_queryAssignment (omitEmpty : Bool) {p : Param} (h : p.IsGood) :
    ∀ s ∈ queryAssignment omitEmpty p, s.IsComplete := by
  have hassigned : (assignment (requestField p.ident)
      (if p.field.optional then someOf (.named "value") else .named "value")).IsComplete := by
    rw [isComplete_assignment]
    split_ifs <;> simp
  rw [queryAssignment]
  intro s hs
  -- when empty values are left out, the assignment stands inside two conditions
  cases omitEmpty with
  | false =>
    simp only [Bool.false_eq_true, if_false, List.mem_cons, List.not_mem_nil, or_false] at hs
    obtain rfl | rfl := hs
    · simp [Stmt.let_]
    · exact hassigned
  | true =>
    simp only [if_true, List.mem_singleton] at hs
    subst hs
    rw [Stmt.isComplete_expr]
    refine isComplete_ite_expr _ (by simp) fun s hs => ?_
    obtain rfl := List.mem_singleton.mp hs
    rw [Stmt.isComplete_expr]
    refine isComplete_ite_expr _ (by simp [h.ty.complete]) fun s hs => ?_
    obtain rfl := List.mem_singleton.mp hs
    exact hassigned

/-! ## Handlers -/

/-- The code for a body with a layout. -/
structure BodyCode.IsGood (body : BodyCode) : Prop where
  /-- Its inputs have one. -/
  inputs : body.inputs.all Input.isComplete = true
  /-- Its assignments have one. -/
  assignments : ∀ s ∈ body.assignments, s.IsComplete
  /-- Its first value has one. -/
  init : isComplete (body.init.pieces {}) = true

/-- A method with plain types. -/
structure MethodCode.IsGood (code : MethodCode) : Prop where
  /-- The type of the request is plain. -/
  request : code.request.IsPlain
  /-- The type of the reply is plain. -/
  reply : code.reply.IsPlain

/-- Generated code that has a layout and can be read back. -/
structure Generated.IsGood (g : Generated) : Prop where
  /-- It has a layout. -/
  items : g.items.all (isComplete ·.pieces) = true
  /-- It can be read back. -/
  faults : g.faults = []

/-- What is generated in parts has layouts when each part has. -/
theorem Generated.IsGood.join {parts : List Generated} (h : ∀ g ∈ parts, g.IsGood) :
    (Generated.join parts).IsGood := by
  constructor
  · rw [Generated.join, List.all_flatMap, List.all_eq_true]
    exact fun g hg => (h g hg).items
  · rw [Generated.join, List.flatMap_eq_nil_iff]
    exact fun g hg => (h g hg).faults

/-- The bound of the server has a layout. -/
theorem serverBound_isComplete (service : Ident) : (serverBound service).IsComplete := by
  simp [serverBound, Requirement.of, Requirement.IsComplete]

/-- The handler of a binding has a layout. -/
theorem isComplete_handler (names : BindingIdents) {code : MethodCode} {doc : List Attr}
    (path query : List Param) {body : BodyCode} {assignments : List Stmt} {responseType : Ty}
    {response : Expr} (hcode : code.IsGood) (hdoc : doc.all (isComplete <| ·.pieces false) = true)
    (hbody : body.IsGood) (hassignments : ∀ s ∈ assignments, s.IsComplete)
    (hresponseType : responseType.IsPlain)
    (hresponse : isComplete (response.pieces {}) = true) :
    let head : Signature :=
      { intro := "pub async fn "
        name := names.handler
        generics := ["S"]
        inputs :=
          extractor ["extract"] "State" "server" sharedServer ::
            (paramsInput "Path" "path" names.pathParams path ++
              paramsInput "Query" "query" names.queryParams query ++ body.inputs)
        output := resultOf (framed [] "Json" responseType) (.path (.relative ["S", "Error"]))
        requirements := [serverBound code.service] }
    let request : Stmt :=
      .bind [] (.typed (.name false (!assignments.isEmpty) "request" none) code.request)
        (some body.init) none
    let reply : Stmt :=
      .let_ "reply"
        (.try_ (.await (.method (.named "server") code.name.text [] [.named "request"])))
    let result : Stmt :=
      .expr (.call (rootExpr ["core", "result", "Result", "Ok"])
        [.call (rootExpr ["axum", "Json"]) [response]]) false
    isComplete (head.item doc (some (request :: (assignments ++ [reply, result])))).pieces = true := by
  intro head request reply result
  refine isComplete_function hdoc ?_ ?_ ?_ ?_
  · simp [head, isComplete_extractor, all_paramsInput, hbody.inputs]
  · simp [head, hresponseType.complete]
  · intro r hr
    obtain rfl := List.mem_singleton.mp hr
    exact serverBound_isComplete code.service
  · -- the statements are the request, the assignments, the call and the result
    intro stmts hstmts s hs
    obtain rfl := Option.some.inj hstmts
    obtain rfl | hs := List.mem_cons.mp hs
    · simp [request, hcode.request.complete, hbody.init]
    · obtain hs | hs := List.mem_append.mp hs
      · exact hassignments s hs
      · simp only [List.mem_cons, List.not_mem_nil, or_false] at hs
        obtain rfl | rfl := hs
        · simp [reply, Stmt.let_]
        · simp [result, hresponse]

/-! ## Services -/

/-- The method of the trait has a layout. -/
theorem isComplete_traitMethod (m : MethodRoutes) {code : MethodCode} (hcode : code.IsGood) :
    isComplete (traitMethod m code).pieces = true := by
  refine isComplete_function ?_ ?_ ?_ ?_ ?_
  · split_ifs <;> simp [Attr.docLine]
  · simp [Input.byRef, Input.of, Input.isComplete, hcode.request.complete]
  · simp [Path.generic, hcode.reply.complete]
  · simp
  · simp

/-- The trait of a service has a layout when its methods have. -/
theorem isComplete_traitItem (service : ServiceRoutes) (name : Ident) {methods : List Item}
    (h : methods.all (isComplete ·.pieces) = true) :
    isComplete (traitItem service name methods).pieces = true := by
  refine isComplete_trait (by simp [Attr.docLine]) (by simp [rootBound]) ?_
  rw [List.all_cons, h, isComplete_type (by simp [Attr.docLine]) (by simp [rootBound])]
  rfl

/-- The handler that is mounted has a layout. -/
@[simp] theorem isComplete_handlerExpr (place : Place) (name : String) :
    isComplete ((handlerExpr name).pieces place) = true := by
  simp [handlerExpr, Path.generic]

/-- The chain of handlers that is mounted on a route has a layout. -/
theorem isComplete_chain (m : Mount) :
    m.chain.toList.all (fun chain => isComplete (chain.pieces {})) = true := by
  have hfold (hs : List Handler) (chain : Expr) (place : Place)
      (h : ∀ place, isComplete (chain.pieces place) = true) :
      isComplete ((hs.foldl (fun chain h =>
        .method chain h.verb.routingName [] [handlerExpr h.name]) chain).pieces place) = true := by
    induction hs generalizing chain with
    | nil => exact h place
    | cons handler hs ih => exact ih _ fun place => by simp [h]
  rw [Mount.chain]
  cases m.handlers with
  | nil => rfl
  | cons h hs => simpa using hfold hs _ {} fun place => by simp

/-- A router has a layout after any number of mounts. -/
theorem isComplete_routes (mounts : List Mount) {router : Expr} (place : Place)
    (h : ∀ place, isComplete (router.pieces place) = true) :
    isComplete ((mounts.foldl Mount.register router).pieces place) = true := by
  induction mounts generalizing router with
  | nil => exact h place
  | cons m mounts ih =>
    refine ih fun place => ?_
    simpa [Mount.register, h] using isComplete_chain m

/-- The register function has a layout, whatever is mounted. -/
theorem isComplete_registerItem (service : ServiceRoutes) (name server : Ident) :
    isComplete (registerItem service name server).pieces = true := by
  have hroutes (place : Place) : isComplete ((service.mounts.foldl Mount.register
      (.call (rootExpr ["axum", "Router", "new"]) [])).pieces place) = true :=
    isComplete_routes _ place fun place => by simp
  refine isComplete_function (by simp [Attr.docLine]) ?_ ?_ ?_ ?_
  · simp [Input.of, Input.isComplete]
  · simp
  · intro r hr
    obtain rfl := List.mem_singleton.mp hr
    exact serverBound_isComplete server
  · intro stmts hstmts s hs
    obtain rfl := Option.some.inj hstmts
    simp only [List.mem_cons, List.not_mem_nil, or_false] at hs
    obtain rfl | rfl := hs
    · simp [Stmt.let_, hroutes]
    · simp

end ProtoRest.Route
