import ProtoRest.Proofs.Related
import ProtoRest.Proofs.Route.RuleBinding
import ProtoRest.Route.Site

/-! # Files with their declarations in another order
A file is **rearranged** when its services, the methods of its services or the rules of its methods
come in another order. What decides about clashes is the list of `targets` of a file, the verb and
the route of each rule, and a rearranged file has the same targets up to order. -/

namespace ProtoRest.Route

open ProtoRest.Schema ProtoRest.Setting

/-! ## Rearranged files -/

/-- Two methods that differ at most in the order of their rules. Any of the rules can be the
annotation itself, so the rules are compared without their further rules. -/
structure RearrangedMethod (m n : Method) : Prop where
  /-- All but the rules is the same. -/
  same : { m with rule := none } = { n with rule := none }
  /-- The rules are the same up to order. -/
  rules : (m.annotated.map HttpRule.alone).Perm (n.annotated.map HttpRule.alone)

/-- Two services that differ at most in the order of their methods and of the rules of these. -/
structure RearrangedService (s t : Service) : Prop where
  /-- All but the methods is the same. -/
  same : { s with methods := [] } = { t with methods := [] }
  /-- The methods are the same up to order. -/
  methods : ∃ methods, s.methods.Perm methods ∧ List.Forall₂ RearrangedMethod methods t.methods

/-- Two files that differ at most in the order of their services, methods and rules. -/
structure Rearranged (f g : File) : Prop where
  /-- All but the services is the same. -/
  same : { f with services := [] } = { g with services := [] }
  /-- The services are the same up to order. -/
  services : ∃ services, f.services.Perm services ∧ List.Forall₂ RearrangedService services g.services

/-! ## Targets -/

/-- The verb and the route of a rule, or why it has none. -/
abbrev Target := Except BindingFault (Verb × String)

/-- Whether two targets clash. -/
def AtOddsTargets (x y : Target) : Prop :=
  ∃ verb route other otherRoute, x = .ok (verb, route) ∧ y = .ok (other, otherRoute) ∧
    shape route = shape otherRoute ∧ (route ≠ otherRoute ∨ verb = other)

/-- Clashing is symmetric. -/
theorem AtOddsTargets.symm {x y : Target} (h : AtOddsTargets x y) : AtOddsTargets y x := by
  obtain ⟨verb, route, other, otherRoute, hx, hy, hshape, hroute⟩ := h
  exact ⟨other, otherRoute, verb, route, hy, hx, hshape.symm, hroute.imp Ne.symm Eq.symm⟩

/-- The targets of a method. -/
def targetsOfMethod (m : Method) : List Target := m.rules.map (ruleTarget m.input m.output)

/-- The targets of a service. -/
def targetsOfService (s : Service) : List Target := s.methods.flatMap targetsOfMethod

/-- The targets of a file. -/
def targets (file : File) : List Target := file.services.flatMap targetsOfService

/-- The target of a site. -/
def Site.target (site : Site) : Target :=
  ruleTarget site.method.input site.method.output site.rule

/-- The target of a site is the verb and the route of its binding. -/
theorem Site.target_eq (settings : RouteSettings) (package : String) (site : Site) :
    site.target = (site.binding settings package).map fun b => (b.verb, b.route) :=
  (map_bindingOfRule settings package site.service site.method site.index site.rule).symm

/-- A site has a target exactly when it has a binding. -/
theorem Site.exists_target_iff (settings : RouteSettings) (package : String) {site : Site} :
    (∃ x, site.target = .ok x) ↔ ∃ b, site.binding settings package = .ok b := by
  rw [site.target_eq settings package]
  cases site.binding settings package <;> simp [Except.map]

/-- Two sites clash exactly when their targets do. -/
theorem Site.atOddsTargets_iff (settings : RouteSettings) (package : String) {a b : Site} :
    AtOddsTargets a.target b.target ↔ a.AtOdds settings package b := by
  rw [a.target_eq settings package, b.target_eq settings package, AtOddsTargets, Site.AtOdds]
  cases a.binding settings package with
  | error => simp [Except.map]
  | ok x =>
    cases b.binding settings package with
    | error => simp [Except.map]
    | ok y => simp [Except.map]

/-- The targets of a file are those of its sites, in order. -/
theorem map_target_sites (file : File) : (sites file).map Site.target = targets file := by
  rw [sites, targets, List.map_flatMap]
  refine List.flatMap_congr fun service _ => ?_
  rw [targetsOfService, List.map_flatMap]
  refine List.flatMap_congr fun method _ => ?_
  rw [sitesOfMethod, List.map_map, targetsOfMethod]
  conv_rhs => rw [← List.zipIdx_map_fst 0 method.rules]
  rw [List.map_map]
  rfl

/-- Whether all rules of a file have bindings and no two clash can be told from its targets. -/
theorem sites_agree_iff (settings : RouteSettings) (file : File) :
    ((∀ site ∈ sites file, ∃ b, site.binding settings file.package = .ok b) ∧
        (sites file).Pairwise fun a b => ¬ a.AtOdds settings file.package b) ↔
      (∀ t ∈ targets file, ∃ x, t = .ok x) ∧
        (targets file).Pairwise fun x y => ¬ AtOddsTargets x y := by
  rw [← map_target_sites, List.forall_mem_map, List.pairwise_map]
  simp only [Site.exists_target_iff settings file.package,
    Site.atOddsTargets_iff settings file.package]

/-! ## Targets of rearranged files -/

/-- A rearranged method has the same targets in some order. -/
theorem perm_targetsOfMethod {m n : Method} (h : RearrangedMethod m n) :
    (targetsOfMethod m).Perm (targetsOfMethod n) := by
  have hsame := h.same
  rw [Method.mk.injEq] at hsame
  obtain ⟨-, -, -, hinput, houtput, -, -, -, hclient, hserver⟩ := hsame
  rw [targetsOfMethod, targetsOfMethod, m.rules_eq, n.rules_eq, hinput, houtput, hclient, hserver]
  split
  · exact .nil
  · -- a target does not depend on the further rules of its rule
    have hrules := h.rules.map (ruleTarget n.input n.output)
    rw [List.map_map, List.map_map] at hrules
    exact hrules

/-- A rearranged service has the same targets in some order. -/
theorem perm_targetsOfService {s t : Service} (h : RearrangedService s t) :
    (targetsOfService s).Perm (targetsOfService t) := by
  obtain ⟨methods, hperm, hmethods⟩ := h.methods
  exact (hperm.flatMap_right targetsOfMethod).trans
    (perm_flatMap_of_forall₂ (hmethods.imp fun _ _ => perm_targetsOfMethod))

/-- A rearranged file has the same targets in some order. -/
theorem perm_targets {f g : File} (h : Rearranged f g) : (targets f).Perm (targets g) := by
  obtain ⟨services, hperm, hservices⟩ := h.services
  exact (hperm.flatMap_right targetsOfService).trans
    (perm_flatMap_of_forall₂ (hservices.imp fun _ _ => perm_targetsOfService))

end ProtoRest.Route
