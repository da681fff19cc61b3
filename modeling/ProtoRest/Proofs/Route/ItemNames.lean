import ProtoRest.Proofs.Code.Identifiers
import ProtoRest.Route.Server

/-! # Names of items
Which names of services and methods give identifiers for the items that are named after them. Only
the name of the trait depends on how the service leads (`decides_traitName`); the names of a binding
are identifiers once those of its service and of its method are (`decides_bindingIdents`). -/

namespace ProtoRest.Route

open ProtoRest.Code ProtoRest.Schema ProtoRest.Text

variable {service method : String} (hservice : HasNameChars service)
  (hmethod : HasNameChars method)

/-- Two texts in a row begin as the first does, or as the second when the first is empty. -/
theorem head?_append (s t : String) : (s ++ t).toList.head? = s.toList.head?.or t.toList.head? := by
  rw [String.toList_append, List.head?_append]

/-- What the names of a binding after the first carry. -/
theorem hasNameChars_number (index : Nat) {text : String} (h : HasNameChars text) :
    HasNameChars (if index = 0 then "" else text) := by
  split
  · decide
  · exact h

section Service

include hservice

/-- A text after a name in any case is an identifier when the name does not lead with a digit and
the text is one. -/
theorem isIdentText_append {cased text : String} {case : Char → Char}
    (hcase : ∀ c, isNameChar c = true → (case c).isDigit = c.isDigit)
    (hcased : HasNameChars cased) (hhead : cased.toList.head? = (lead? service).map case)
    (htext : HasNameChars text) (hident : isIdentText text.toList = true) :
    isIdentText (cased ++ text).toList = true ↔ leadsWithDigit service = false := by
  rw [isIdentText_iff (hcased.append htext), head?_append, hhead, leadsWithDigit]
  cases hlead : lead? service with
  | none => simpa using (isIdentText_iff htext).mp hident
  | some c => simp [hcase c (lead?_cases hservice hlead).1]

/-- A service's snake case form with an identifier behind it is an identifier unless the service
leads with a digit. -/
theorem isIdentText_snakeCase_append {text : String} (htext : HasNameChars text)
    (hident : isIdentText text.toList = true) :
    isIdentText (snakeCase service ++ text).toList = true ↔ leadsWithDigit service = false :=
  isIdentText_append hservice (fun _ hc => (isNameChar_toLower hc).2)
    (isNameChar_snakeCase hservice) (head?_snakeCase hservice) htext hident

/-- A service's camel case form with an identifier behind it is an identifier unless the service
leads with a digit. -/
theorem isIdentText_upperCamelCase_append {text : String} (htext : HasNameChars text)
    (hident : isIdentText text.toList = true) :
    isIdentText (upperCamelCase service ++ text).toList = true ↔ leadsWithDigit service = false :=
  isIdentText_append hservice (fun _ hc => (isNameChar_toUpper hc).2)
    (isNameChar_upperCamelCase hservice) (head?_upperCamelCase hservice) htext hident

/-- How a service leads decides whether its trait has a name. -/
theorem decides_traitName : Decides (leadsWithDigit service = false) (fun _ => True)
    (Ident.make (traitName service)) :=
  ((decides_make _).imp fun _ _ => trivial).congr
    (isIdentText_upperCamelCase_append hservice (by decide) (by decide))

/-- The name of a register function is always an identifier. -/
theorem decides_registerName :
    Decides True (fun _ => True) (Ident.make (registerName service)) := by
  refine (decides_make_of_isIdentText ?_).imp fun _ _ => trivial
  have hchars : HasNameChars (registerName service) :=
    (HasNameChars.append (by decide) (isNameChar_snakeCase hservice)).append (by decide)
  rw [isIdentText_iff hchars]
  exact ⟨'r', by rw [registerName, head?_append, head?_append]; rfl, rfl⟩

end Service

include hservice hmethod

/-- The name of a method's constant is always an identifier. -/
theorem decides_operationName :
    Decides True (fun _ => True) (Ident.make (operationName service method)) := by
  refine (decides_make_of_isIdentText ?_).imp fun _ _ => trivial
  have hchars : HasNameChars (operationName service method) :=
    ((HasNameChars.append (by decide) (isNameChar_shoutyCase hservice)).append (by decide)).append
      (isNameChar_shoutyCase hmethod)
  rw [isIdentText_iff hchars]
  exact ⟨'O', by simp only [operationName, head?_append]; rfl, rfl⟩

/-- A handler's name is an identifier unless its service leads with a digit. -/
theorem isIdentText_handlerName (hdigit : leadsWithDigit service = false) (index : Nat) :
    isIdentText (handlerName service method index).toList = true := by
  have hnumber := hasNameChars_number index
    (HasNameChars.append (s := "_") (by decide) (hasNameChars_toString index))
  have hchars : HasNameChars ("_" ++ (snakeCase method ++ ("_handler" ++
      if index = 0 then "" else "_" ++ toString index))) :=
    HasNameChars.append (by decide)
      (HasNameChars.append (isNameChar_snakeCase hmethod)
        (HasNameChars.append (by decide) hnumber))
  rw [handlerName, String.append_assoc, String.append_assoc, String.append_assoc]
  refine (isIdentText_snakeCase_append hservice hchars ?_).mpr hdigit
  rw [isIdentText_iff hchars]
  exact ⟨'_', by rw [head?_append]; rfl, rfl⟩

/-- The name of a struct is an identifier when its service does not lead with a digit and its method
leads with a letter. -/
theorem isIdentText_paramsStem (hdigit : leadsWithDigit service = false)
    (hletter : leadsWithLetter method = true) (index : Nat) {ending : String}
    (hending : HasNameChars ending) :
    isIdentText (paramsStem service method index ++ ending).toList = true := by
  have hnumber := hasNameChars_number index (hasNameChars_toString index)
  have hchars : HasNameChars (upperCamelCase method ++
      ((if index = 0 then "" else toString index) ++ ending)) :=
    HasNameChars.append (isNameChar_upperCamelCase hmethod) (hnumber.append hending)
  rw [paramsStem, String.append_assoc, String.append_assoc]
  refine (isIdentText_upperCamelCase_append hservice hchars ?_).mpr hdigit
  obtain ⟨c, hlead, hc⟩ := (leadsWithLetter_iff hmethod).mp hletter
  rw [isIdentText_iff hchars, head?_append, head?_upperCamelCase hmethod, hlead]
  exact ⟨c.toUpper, rfl, (isNameChar_toUpper (lead?_cases hmethod hlead).1).2.trans hc⟩

/-- The names of a binding. -/
theorem decides_bindingIdents (hdigit : leadsWithDigit service = false)
    (hletter : leadsWithLetter method = true) (index : Nat) :
    Decides True (fun _ => True) (BindingIdents.make service method index) := by
  have hparams (ending : String) (h : HasNameChars ending) :=
    decides_make_of_isIdentText
      (isIdentText_paramsStem hservice hmethod hdigit hletter index h)
  have hhandler := decides_make_of_isIdentText
    (isIdentText_handlerName hservice hmethod hdigit index)
  refine (hhandler.bind fun _ handler _ => (hparams "PathParams" (by decide)).bind fun _ path _ =>
    (hparams "QueryParams" (by decide)).map fun _ _ => trivial).congr ?_
  simp

end ProtoRest.Route
