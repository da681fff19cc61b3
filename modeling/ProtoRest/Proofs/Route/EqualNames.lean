import ProtoRest.Proofs.Related
import ProtoRest.Proofs.Text.Words
import ProtoRest.Route.Names

/-! # Equal names of items
When two items of generated code have one name. Items of two kinds never do: the last characters of
their names tell them apart, and constants have capitals where functions have none. Two items of one
kind have one name when their **stems** are equal, which join the names of a service and of a method
(`handlerName_inj`). -/

namespace ProtoRest.Route

open ProtoRest.Text

variable {s t m n : String} {i j : Nat}

/-! ## Numbers -/

/-- A number is written in digits alone. -/
theorem isDigit_of_mem_toString {c : Char} (h : c ∈ (toString i).toList) : c.isDigit = true := by
  rw [Nat.toString_eq_repr, Nat.toList_repr] at h
  exact Nat.isDigit_of_mem_toDigits (by decide) (by decide) h

/-- Two numbers written alike are equal. -/
theorem toString_inj : toString i = toString j ↔ i = j := by
  refine ⟨fun h => ?_, congrArg toString⟩
  rw [Nat.toString_eq_repr, Nat.toString_eq_repr, ← String.toList_inj, Nat.toList_repr,
    Nat.toList_repr] at h
  rw [← Nat.ofDigitChars_ten_toDigits (n := i), h, Nat.ofDigitChars_ten_toDigits]

/-- A text with a character that is no digit is not a number. -/
theorem toList_toString_ne {cs : List Char} {c : Char} (hc : c ∈ cs) (hdigit : c.isDigit = false) :
    (toString i).toList ≠ cs := by
  rintro rfl
  rw [isDigit_of_mem_toString hc] at hdigit
  cases hdigit

/-- A number is never written as the empty text. -/
theorem toString_ne_empty : toString i ≠ "" := by
  rw [Nat.toString_eq_repr]
  exact Nat.repr_ne_empty

/-! ## Handlers -/

/-- What the name of a handler starts with: the names of the service and of the method. -/
def handlerStem (service method : String) : String := snakeCase service ++ "_" ++ snakeCase method

/-- What follows the last underscore in the name of a handler. -/
def handlerTail (index : Nat) : List Char :=
  if index = 0 then "handler".toList else (toString index).toList

/-- What stands behind the last underscore of a handler's name holds no underscore. -/
theorem underscore_notMem_handlerTail : '_' ∉ handlerTail i := by
  rw [handlerTail]
  split_ifs
  · decide
  · intro h
    exact absurd (isDigit_of_mem_toString h) (by decide)

/-- Handlers of different indices end differently behind their last underscore. -/
theorem handlerTail_inj : handlerTail i = handlerTail j ↔ i = j := by
  refine ⟨fun h => ?_, congrArg handlerTail⟩
  rw [handlerTail, handlerTail] at h
  have hdigits (k : Nat) : (toString k).toList ≠ "handler".toList :=
    toList_toString_ne (c := 'h') (by decide) rfl
  split_ifs at h with hi hj hj
  · rw [hi, hj]
  · exact absurd h.symm (hdigits j)
  · exact absurd h (hdigits i)
  · exact toString_inj.mp (String.toList_inj.mp h)

/-- A handler's name is its stem, a mark for a further binding, an underscore and its tail. -/
theorem toList_handlerName : (handlerName s m i).toList =
    (handlerStem s m ++ if i = 0 then "" else "_handler").toList ++ '_' :: handlerTail i := by
  rw [handlerName, handlerStem, handlerTail]
  split_ifs <;> simp

/-- Two handlers have one name when they have one stem and one index. -/
theorem handlerName_inj :
    handlerName s m i = handlerName t n j ↔ handlerStem s m = handlerStem t n ∧ i = j := by
  constructor
  · intro h
    have h := congrArg String.toList h
    rw [toList_handlerName, toList_handlerName] at h
    -- no tail has an underscore, so the last underscore splits both names in the same way
    obtain ⟨hfront, htail⟩ :=
      append_cons_inj underscore_notMem_handlerTail underscore_notMem_handlerTail h
    obtain rfl := handlerTail_inj.mp htail
    exact ⟨(String.append_left_inj _).mp (String.toList_inj.mp hfront), rfl⟩
  · rintro ⟨h, rfl⟩
    rw [handlerStem, handlerStem] at h
    rw [handlerName, handlerName, h]

/-! ## Other functions and constants -/

/-- Two services share a register function exactly when they agree in snake case. -/
theorem registerName_inj : registerName s = registerName t ↔ snakeCase s = snakeCase t := by
  rw [registerName, registerName, String.append_left_inj, String.append_right_inj]

/-- No handler is named as a register function. -/
theorem handlerName_ne_registerName : handlerName s m i ≠ registerName t := by
  intro h
  have h := congrArg String.toList h
  -- after the last underscore, one name has `server` and the other `handler` or a number
  have hregister : (registerName t).toList =
      ("register_" ++ snakeCase t ++ "_http").toList ++ '_' :: "server".toList := by
    simp [registerName]
  rw [toList_handlerName, hregister] at h
  obtain ⟨-, htail⟩ := append_cons_inj underscore_notMem_handlerTail (by decide) h
  rw [handlerTail] at htail
  split_ifs at htail
  · exact absurd htail (by decide)
  · exact toList_toString_ne (c := 's') (by decide) rfl htail

/-- A text without capitals of ASCII. -/
def HasNoCapital (text : String) : Prop := ∀ c ∈ text.toList, c.isUpper = false

instance (text : String) : Decidable (HasNoCapital text) :=
  decidable_of_iff (text.toList.all (!·.isUpper) = true) (by simp [HasNoCapital])

/-- Two texts without capitals are joined to one without capitals. -/
theorem HasNoCapital.append {a b : String} (ha : HasNoCapital a) (hb : HasNoCapital b) :
    HasNoCapital (a ++ b) := by
  intro c hc
  rw [String.toList_append, List.mem_append] at hc
  exact hc.elim (ha c) (hb c)

/-- A written number holds no capital. -/
theorem hasNoCapital_toString : HasNoCapital (toString i) := by
  intro c hc
  have hdigit := isDigit_of_mem_toString hc
  rw [Char.isDigit, Bool.and_eq_true, decide_eq_true_eq, decide_eq_true_eq] at hdigit
  refine isUpper_eq_false (.inl ?_)
  have h9 : '9'.val.toNat = 57 := rfl
  have hle := UInt32.le_iff_toNat_le.mp hdigit.2
  rw [Char.toNat]
  omega

/-- Handler names hold no capital. -/
theorem hasNoCapital_handlerName : HasNoCapital (handlerName s m i) := by
  have hsnake (name : String) : HasNoCapital (snakeCase name) := fun _ => isUpper_of_mem_snakeCase
  have hnumber : HasNoCapital (if i = 0 then "" else "_" ++ toString i) := by
    split_ifs
    · exact fun _ h => nomatch h
    · exact HasNoCapital.append (by decide) hasNoCapital_toString
  rw [handlerName]
  exact (((hsnake s).append (by decide)).append (hsnake m)).append
    (by decide) |>.append hnumber

/-- No constant of a method is named as a handler, whose name holds no capital. -/
theorem operationName_ne_handlerName : operationName s m ≠ handlerName t n i := by
  intro h
  have hcapital : 'O' ∈ (handlerName t n i).toList := by
    rw [← h, operationName]
    simp
  exact absurd (hasNoCapital_handlerName 'O' hcapital) (by decide)

/-- No constant of a method is named as a register function. -/
theorem operationName_ne_registerName : operationName s m ≠ registerName t := by
  intro h
  -- the first characters differ already
  have h := congrArg (String.toList · |>.head?) h
  simp [operationName, registerName] at h

/-! ## Types -/

/-- Two services share a trait exactly when they agree in camel case. -/
theorem traitName_inj : traitName s = traitName t ↔ upperCamelCase s = upperCamelCase t := by
  rw [traitName, traitName, String.append_left_inj]

/-- Two bindings of one method have one stem when they have one index. -/
theorem paramsStem_inj : paramsStem s m i = paramsStem s m j ↔ i = j := by
  refine ⟨fun h => ?_, congrArg (paramsStem s m)⟩
  rw [paramsStem, paramsStem, String.append_right_inj] at h
  split_ifs at h with hi hj hj
  · rw [hi, hj]
  · exact absurd h.symm toString_ne_empty
  · exact absurd h toString_ne_empty
  · exact toString_inj.mp h

/-- Texts with two endings whose last seven characters differ are different. -/
theorem append_ne_append {a b u v : String} (hu : 7 ≤ u.length) (hv : 7 ≤ v.length)
    (h : u.toList.reverse.take 7 ≠ v.toList.reverse.take 7) : a ++ u ≠ b ++ v := by
  have hend {a u : String} (hu : 7 ≤ u.length) :
      (a ++ u).toList.reverse.take 7 = u.toList.reverse.take 7 := by
    rw [String.toList_append, List.reverse_append, List.take_append_of_le_length]
    rwa [List.length_reverse, String.length_toList]
  intro heq
  rw [← hend hu, ← hend hv, heq] at h
  exact h rfl

/-- No trait is named as a struct of path parameters. -/
theorem traitName_ne_path : traitName s ≠ paramsStem t m i ++ "PathParams" := by
  rw [traitName]
  exact append_ne_append (by decide) (by decide) (by decide)

/-- No trait is named as a struct of query parameters. -/
theorem traitName_ne_query : traitName s ≠ paramsStem t m i ++ "QueryParams" := by
  rw [traitName]
  exact append_ne_append (by decide) (by decide) (by decide)

/-- No struct of path parameters is named as one of query parameters. -/
theorem path_ne_query : paramsStem s m i ++ "PathParams" ≠ paramsStem t n j ++ "QueryParams" :=
  append_ne_append (by decide) (by decide) (by decide)

end ProtoRest.Route
