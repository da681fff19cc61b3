import ProtoRest.Proofs.Schema.TypePaths

/-! # Where paths lead
From the module of one package to that of another the steps go up to what both share and down again
(`follow_between`), so the path of a type leads to the module of its package and its parents
(`paths_lead_to_types`). -/

namespace ProtoRest.Schema

open ProtoRest.Code ProtoRest.Text

/-! ## What lists share -/

/-- Two lists agree in their common part. -/
theorem take_commonLength (as bs : List String) :
    as.take (commonLength as bs) = bs.take (commonLength as bs) := by
  fun_induction commonLength as bs with
  | case1 a as bs ih => rw [List.take_succ_cons, List.take_succ_cons, ih]
  | case2 a as b bs hne => rfl
  | case3 as bs hnil => rfl

/-! ## Following steps -/

/-- No step leads nowhere else. -/
@[simp] theorem follow_nil (place : List String) : follow place [] = some place := by
  rw [follow]

/-- Steps in a row are followed one part after the other. -/
theorem follow_append (place front back : List String) :
    follow place (front ++ back) = (follow place front).bind (follow · back) := by
  induction front generalizing place with
  | nil => simp
  | cons step steps ih =>
    simp only [List.cons_append, follow]
    split_ifs
    · rfl
    · exact ih _
    · rfl
    · exact ih _

/-- One step up for each module leads out of all of them. -/
theorem follow_up (place inner : List String) :
    follow (place ++ inner) (List.replicate inner.length "super") = some place := by
  induction inner using List.reverseRecOn with
  | nil => rw [List.append_nil, List.length_nil, List.replicate_zero, follow_nil]
  | append_singleton inner inmost ih =>
    rw [← List.append_assoc, List.length_append, List.length_singleton, List.replicate_succ,
      follow, if_pos rfl, if_neg (by simp), List.dropLast_concat, ih]

/-- Steps that name modules lead down to them. -/
theorem follow_down (place : List String) {steps : List String}
    (hsteps : ∀ step ∈ steps, step ≠ "super" ∧ step ≠ "") :
    follow place steps = some (place ++ steps) := by
  induction steps generalizing place with
  | nil => rw [follow_nil, List.append_nil]
  | cons step steps ih =>
    rw [List.forall_mem_cons] at hsteps
    rw [follow, if_neg hsteps.1.1, if_neg hsteps.1.2, ih _ hsteps.2, List.append_assoc,
      List.singleton_append]

/-- Up to what two lists of components share and down again, in modules that are named by any
rule. -/
theorem follow_between (toModule : String → String) (source target inner : List String)
    (hdown : ∀ part ∈ target.drop (commonLength source target) ++ inner,
      toModule part ≠ "super" ∧ toModule part ≠ "") :
    follow (source.map toModule)
      (List.replicate (source.length - commonLength source target) "super" ++
        (target.drop (commonLength source target) ++ inner).map toModule) =
      some ((target ++ inner).map toModule) := by
  have hshared := take_commonLength source target
  generalize commonLength source target = common at hdown hshared ⊢
  -- one step up for each part of the source that is not shared
  have hup : follow (source.map toModule) (List.replicate (source.length - common) "super") =
      some ((source.take common).map toModule) := by
    have hsource : source.map toModule =
        (source.take common).map toModule ++ (source.drop common).map toModule := by
      rw [← List.map_append, List.take_append_drop]
    have hlength : source.length - common = ((source.drop common).map toModule).length := by
      rw [List.length_map, List.length_drop]
    rw [hsource, hlength, follow_up]
  rw [follow_append, hup, Option.bind_some, follow_down, hshared, ← List.map_append,
    ← List.append_assoc, List.take_append_drop]
  intro step hstep
  obtain ⟨part, hpart, rfl⟩ := List.mem_map.mp hstep
  exact hdown part hpart

/-- A path of modules and a name leads to the name where the steps lead. -/
theorem resolve_of_steps {path : String} {steps : List String} {name : String}
    (hsteps : pathSteps path.toList = (steps ++ [name]).map String.toList) (place : List String) :
    resolve place path = (follow place steps).map (·, name) := by
  have htexts : (pathSteps path.toList).map String.ofList = steps ++ [name] := by
    rw [hsteps, List.map_map]
    simp
  rw [resolve, htexts, List.getLast?_concat, List.dropLast_concat]
  cases follow place steps <;> rfl

/-! ## Paths of types -/

namespace NamedType

variable {t : NamedType} {fromPackage : String}

/-- From the module of a package the path of a type leads to its module, with modules that are named
by any rule which gives the steps of the path. -/
theorem resolve_path (toModule : String → String) (hnative : ¬t.IsWellKnown fromPackage)
    (hin : ∀ part ∈ (packageParts t.package).drop (t.common fromPackage) ++ t.parents,
      snakeCase part = toModule part ∧ snakeCase part ≠ "super" ∧ snakeCase part ≠ "") :
    resolve ((packageParts fromPackage).map toModule)
        ("::".intercalate (t.wayOut fromPackage ++ t.wayIn fromPackage)) =
      some ((packageParts t.package ++ t.parents).map toModule, upperCamelCase t.name) := by
  have hmap := List.map_inj_left.mpr fun part hpart => (hin part hpart).1
  have hsteps := pathSteps_ways fromPackage t
  -- the path goes up to the shared package, down to the modules of the type and to its name
  have hways : t.wayOut fromPackage ++ t.wayIn fromPackage =
      List.replicate ((packageParts fromPackage).length - t.common fromPackage) "super" ++
        ((packageParts t.package).drop (t.common fromPackage) ++ t.parents).map toModule ++
        [upperCamelCase t.name] := by
    rw [wayOut, wayIn, if_neg hnative, if_neg hnative, hmap, List.append_assoc]
  nth_rewrite 2 [hways] at hsteps
  have hdown : ∀ part ∈ (packageParts t.package).drop (t.common fromPackage) ++ t.parents,
      toModule part ≠ "super" ∧ toModule part ≠ "" := by
    intro part hpart
    obtain ⟨hname, hmodule⟩ := hin part hpart
    rwa [hname] at hmodule
  rw [resolve_of_steps hsteps, common, follow_between toModule _ _ _ hdown, Option.map_some]

/-- The path of a type leads from the module of any package to the module of the type. -/
theorem paths_lead_to_types (fromPackage : String) (t : NamedType) (dots : Nat)
    (hhome : t.package = wellKnownPackage → fromPackage = t.package)
    (hmodules : ∀ part ∈ packageParts t.package ++ t.parents,
      snakeCase part ≠ "super" ∧ snakeCase part ≠ "") :
    resolve (moduleOfPackage fromPackage) (typePath fromPackage t.package (t.reference dots)) =
      some (t.place, upperCamelCase t.name) := by
  have hnative : ¬t.IsWellKnown fromPackage := fun h => h.2 (hhome h.1)
  have hplace : t.place = (packageParts t.package ++ t.parents).map snakeCase := by
    rw [place, moduleOfPackage, List.map_append]
  rw [typePath_reference (fun h => hnative h.1), moduleOfPackage, hplace]
  refine resolve_path snakeCase hnative fun part hpart => ⟨rfl, hmodules part ?_⟩
  exact ((List.drop_sublist _ _).append_right _).subset hpart

/-- A kind of things, two messages deep in a package next to the one that mentions it. -/
def kindOfThing : NamedType where
  package := "shared.common"
  parents := ["Outer", "InnerThing"]
  name := "thing_kind"
  named_package := by decide
  named_parents := by decide
  named_type := by decide

/-- The path to an enum in two nested messages leads out of one package and into their modules. -/
theorem path_leads_to_kindOfThing :
    typePath "shared.v1.admin" "shared.common" ".shared.common.Outer.InnerThing.thing_kind" =
      "super::super::common::outer::inner_thing::ThingKind" ∧
    resolve ["shared", "v1", "admin"] "super::super::common::outer::inner_thing::ThingKind" =
      some (["shared", "common", "outer", "inner_thing"], "ThingKind") := by
  have hpath : typePath "shared.v1.admin" kindOfThing.package (kindOfThing.reference 1) =
      "super::super::common::outer::inner_thing::ThingKind" := by decide +kernel
  have hleads := paths_lead_to_types "shared.v1.admin" kindOfThing 1 (by decide) (by decide +kernel)
  rw [hpath] at hleads
  have hfrom : moduleOfPackage "shared.v1.admin" = ["shared", "v1", "admin"] := by decide +kernel
  have hplace : kindOfThing.place = ["shared", "common", "outer", "inner_thing"] := by
    decide +kernel
  have hname : upperCamelCase kindOfThing.name = "ThingKind" := by decide +kernel
  rw [hfrom, hplace, hname] at hleads
  have hreference : kindOfThing.reference 1 = ".shared.common.Outer.InnerThing.thing_kind" := by
    decide +kernel
  exact ⟨hreference ▸ hpath, hleads⟩

end NamedType

end ProtoRest.Schema
