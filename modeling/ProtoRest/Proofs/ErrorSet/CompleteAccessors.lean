import Mathlib.Tactic.SplitIfs
import ProtoRest.ErrorSet.Accessors
import ProtoRest.Proofs.Code.CompleteSyntax
import ProtoRest.Proofs.Code.Identifiers
import ProtoRest.Proofs.Code.TypeArguments

/-! # Layout of accessors
The code that is generated for an error set has a layout as soon as the type of its enum is
plain. -/

namespace ProtoRest.ErrorSet

open ProtoRest.Code

/-! ## Numbers -/

/-- A text without brackets is no placeholder. -/
theorem ne_placeholder {text : String} (h : '(' ∉ text.toList) : text ≠ placeholder := by
  rintro rfl
  exact h (by decide)

/-- No written number is a placeholder. -/
theorem natText_ne_placeholder (n : Nat) : toString n ≠ placeholder := by
  refine ne_placeholder fun hmem => ?_
  exact absurd (hasNameChars_toString n '(' hmem) (by decide)

/-- No written integer is a placeholder. -/
theorem intText_ne_placeholder (n : Int) : toString n ≠ placeholder := by
  cases n with
  | ofNat n => exact natText_ne_placeholder n
  | negSucc n =>
    refine ne_placeholder fun hmem => ?_
    rw [show toString (Int.negSucc n) = "-" ++ toString (n + 1) from rfl, String.toList_append,
      List.mem_append] at hmem
    obtain hmem | hmem := hmem
    · exact absurd hmem (by decide)
    · exact absurd (hasNameChars_toString (n + 1) '(' hmem) (by decide)

/-! ## Accessors -/

/-- A call on the value itself is complete. -/
@[simp] theorem isComplete_selfCall (place : Place) (name : String) :
    isComplete ((selfCall name).pieces place) = true := by
  simp [selfCall]

/-- The type of a fixed text is complete. -/
@[simp] theorem isComplete_staticStr (inExpr : Bool) : isComplete (staticStr.pieces inExpr) = true := by
  simp [staticStr]

/-- The path of a variant is complete. -/
theorem isComplete_variantPath (v : Variant) (inExpr : Bool) :
    isComplete (v.path.pieces inExpr) = true := by
  simp [Variant.path]

/-- A function to a property has a layout when the property is never code without one. -/
theorem isComplete_accessor (doc name : String) {ty : Ty} {property : Entry → String}
    (variants : List Variant) (hty : isComplete (ty.pieces false) = true)
    (hproperty : ∀ entry, property entry ≠ placeholder) :
    isComplete (accessor doc name ty property variants).pieces = true := by
  refine isComplete_function (by simp [Attr.docLine]) (by simp [Input.byRef, Input.isComplete]) hty
    (by simp) fun stmts hstmts s hs => ?_
  obtain rfl := Option.some.inj hstmts
  obtain rfl := List.mem_singleton.mp hs
  rw [Stmt.isComplete_expr]
  refine isComplete_switch _ (by simp) fun a ha => ?_
  obtain ⟨v, -, rfl⟩ := List.mem_map.mp ha
  exact ⟨rfl, isComplete_variantPath v true, rfl, _, rfl, hproperty v.entry⟩

/-- All accessors are complete. -/
theorem isComplete_accessors (variants : List Variant) :
    (accessors variants).all (isComplete ·.pieces) = true := by
  have herrors : isComplete (Item.const [.docLine "Every error of this set, in declaration order"]
      ⟨"ERRORS"⟩ (.reference (some "static") false (.slice (.named "Self")))
      (.unary "&" (.array (variants.map fun v => .path v.path)))).pieces = true := by
    simp [Item.const, Attr.docLine, isComplete_variantPath]
  -- no text returned is the placeholder of what could not be told
  have hstatus := isComplete_accessor "HTTP status of the error" "status" variants
    (isComplete_namedTy false "u16") fun entry => natText_ne_placeholder entry.status
  have hcode := isComplete_accessor "Application error code" "code" variants
    (isComplete_namedTy false "i32") fun entry => intText_ne_placeholder entry.shownCode
  have hreason := isComplete_accessor "Machine-readable reason" "reason" variants
    (isComplete_staticStr false) fun entry => literal_ne_placeholder entry.shownReason
  have hmessage := isComplete_accessor "Human-readable message, empty when unset" "message" variants
    (isComplete_staticStr false) fun entry => literal_ne_placeholder entry.shownMessage
  simp only [accessors, List.all_cons, List.all_nil, herrors, hstatus, hcode, hreason, hmessage,
    Bool.and_true]

/-! ## Displaying -/

/-- The call that writes the text is complete. -/
theorem isComplete_writeCall : isComplete writeCall.pieces = true := by
  show isComplete (word _ ++ word _ ++ tokensInside false _ _ ++ word _) = true
  simp [tokensInside]

/-- The function that displays an error is complete. -/
theorem isComplete_displayFn : isComplete displayFn.pieces = true := by
  refine isComplete_function rfl ?_ ?_ (by simp [displayHead]) fun stmts hstmts s hs => ?_
  · simp [displayHead, Input.byRef, Input.of, Input.isComplete, Path.generic]
  · simp [displayHead]
  · obtain rfl := Option.some.inj hstmts
    simp only [List.mem_cons, List.not_mem_nil, or_false] at hs
    obtain rfl | rfl := hs
    · simp [Stmt.let_]
    · rw [Stmt.isComplete_expr]
      refine isComplete_ite_else _ (by simp) ?_ ?_
      · simp
      · intro s hs
        obtain rfl := List.mem_singleton.mp hs
        rw [Stmt.isComplete_expr]
        show isComplete (Place.leaf _ writeCall.pieces) = true
        rw [isComplete_leaf, isComplete_writeCall]

/-! ## Items -/

/-- The items of an error set have a layout when the type of its enum is plain. -/
theorem isComplete_enumItems {ty : Ty} (hty : ty.IsPlain) (e : ErrorEnum)
    (variants : List Variant) : (enumItems ty e variants).all (isComplete ·.pieces) = true := by
  have hinherent : isComplete (Item.inherent (if e.comment = "" then [] else [.docLine e.comment])
      ty (accessors variants)).pieces = true := by
    rw [Item.inherent, hty.unsplit]
    refine isComplete_implementation ?_ rfl (hty.complete false) (isComplete_accessors variants)
    split_ifs <;> simp [Attr.docLine]
  have hdisplay : isComplete (Item.implements (.root ["core", "fmt", "Display"]) ty
      [displayFn]).pieces = true := by
    refine isComplete_implementation rfl ?_ (hty.complete false) ?_
    · simp
    · simp [isComplete_displayFn]
  have herror : isComplete (Item.implements (.root ["std", "error", "Error"]) ty []).pieces =
      true :=
    isComplete_implementation rfl (by simp) (hty.complete false) rfl
  simp only [enumItems, List.all_cons, List.all_nil, hinherent, hdisplay, herror, Bool.and_true]

end ProtoRest.ErrorSet
