import ProtoRest.Proofs.Route.ServerVerdict

/-! # When the code of a file can be generated
Code is generated for a table exactly when every site of its file is legible
(`decides_render`). -/

namespace ProtoRest.Route

open ProtoRest.Code ProtoRest.Schema ProtoRest.Setting ProtoRest.Result

variable (settings : RouteSettings) (file : File)

/-! ## Legible sites -/

/-- The sites of a file are the numbered rules of its methods. -/
theorem mem_sites {site : Site} : site ∈ sites file ↔
    ∃ s ∈ file.services, ∃ m ∈ s.methods, ∃ rule ∈ m.rules.zipIdx,
      site = ⟨s, m, rule.2, rule.1⟩ := by
  simp only [sites, sitesOfMethod, List.mem_flatMap, List.mem_map, eq_comm]

/-- A site is legible exactly when its service, its method and its rule are. -/
theorem Site.isLegible_iff {s : Service} {m : Method} {rule : HttpRule × Nat} (package : String) :
    Site.isLegible settings package ⟨s, m, rule.2, rule.1⟩ = true ↔
      leadsWithDigit s.name = false ∧ isLegibleMethod m = true ∧
        IsLegibleRule settings package s m rule := by
  rw [Site.isLegible, Bool.and_eq_true, Bool.and_eq_true, Bool.not_eq_true', and_assoc]
  refine and_congr Iff.rfl (and_congr Iff.rfl ?_)
  rw [IsLegibleRule, Site.binding]
  cases bindingOfRule settings package s m rule.2 rule.1 with
  | ok b => simp
  | error => simp

/-- A bound method has a rule. -/
theorem exists_rule_of_isBound {m : Method} (h : m.isBound = true) : ∃ rule, rule ∈ m.rules.zipIdx := by
  obtain ⟨rule, -, hrules⟩ := Method.rules_of_isBound h
  rw [hrules, HttpRule.all]
  exact ⟨(rule, 0), by simp⟩

/-- A method with a rule is bound. -/
theorem isBound_of_mem {m : Method} {rule : HttpRule × Nat} (h : rule ∈ m.rules.zipIdx) :
    m.isBound = true := by
  cases hbound : m.isBound with
  | true => rfl
  | false =>
    rw [Method.rules_eq_nil hbound] at h
    cases h

/-- Every site is legible exactly when every bound service is. -/
theorem forall_isLegible_iff :
    (∀ site ∈ sites file, site.isLegible settings file.package = true) ↔
      ∀ s ∈ file.services.filter Service.isBound, IsLegibleService settings file.package s := by
  constructor
  · intro h s hs
    obtain ⟨hmem, hbound⟩ := List.mem_filter.mp hs
    have hsite (m : Method) (hm : m ∈ s.methods) (rule : HttpRule × Nat)
        (hrule : rule ∈ m.rules.zipIdx) :=
      (Site.isLegible_iff settings file.package).mp
        (h _ ((mem_sites file).mpr ⟨s, hmem, m, hm, rule, hrule, rfl⟩))
    -- what is bound has a site, and that site shows what is legible of its service and method
    refine ⟨?_, fun m hm => ?_⟩
    · obtain ⟨m, hm, hmethod⟩ := List.any_eq_true.mp hbound
      obtain ⟨rule, hrule⟩ := exists_rule_of_isBound hmethod
      exact (hsite m hm rule hrule).1
    · obtain ⟨hm, hmethod⟩ := List.mem_filter.mp hm
      obtain ⟨rule, hrule⟩ := exists_rule_of_isBound hmethod
      exact ⟨(hsite m hm rule hrule).2.1, fun rule hrule => (hsite m hm rule hrule).2.2⟩
  · intro h site hsite
    obtain ⟨s, hs, m, hm, rule, hrule, rfl⟩ := (mem_sites file).mp hsite
    have hmethod := isBound_of_mem hrule
    have hservice := h s (List.mem_filter.mpr ⟨hs, List.any_eq_true.mpr ⟨m, hm, hmethod⟩⟩)
    have hlegible := hservice.2 m (List.mem_filter.mpr ⟨hm, hmethod⟩)
    exact (Site.isLegible_iff settings file.package).mpr
      ⟨hservice.1, hlegible.1, hlegible.2 rule hrule⟩

/-! ## Code of a table -/

variable {settings file} (hfile : ∀ s ∈ file.services, IsNamedService s)

include hfile

/-- The items of a table are made exactly when all sites of the file are legible. -/
theorem decides_items {table : Table} (h : Table.ofFile settings file = .ok table) :
    Decides (∀ site ∈ sites file, site.isLegible settings file.package = true)
      (fun items => items.all (isComplete ·.pieces) = true) table.items := by
  obtain ⟨hclean, rfl⟩ := (ofFile_eq_ok_iff settings file).mp h
  have hparts := Decides.mapM_of_forall₂ (R := fun _ (g : Generated) => g.IsGood)
    (forall₂_services settings file hclean) fun s hs routes hroutes =>
      decides_generateService (hfile s (List.mem_of_mem_filter hs)) hroutes file.package
  rw [Table.items, forall_isLegible_iff]
  refine (hparts.bind (d := True) fun _ parts hparts => ?_).congr (by rw [and_true])
  have hgood : (Generated.join parts).IsGood := by
    refine .join fun g hg => ?_
    obtain ⟨_, -, hgood⟩ := exists_left_of_forall₂ hparts g hg
    exact hgood
  rw [hgood.faults]
  exact .of_eq_ok rfl hgood.items

/-- Legible sites decide whether code is generated for a table. -/
theorem decides_render {table : Table} (h : Table.ofFile settings file = .ok table)
    (header : String) :
    Decides (∀ site ∈ sites file, site.isLegible settings file.package = true) (fun _ => True)
      (table.render header) := by
  rw [Table.render]
  refine ((decides_items hfile h).bind (d := True) fun _ items hitems => ?_).congr (by rw [and_true])
  rw [render_eq_ok hitems]
  exact .of_eq_ok rfl trivial

end ProtoRest.Route
