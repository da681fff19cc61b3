import ProtoRest.Proofs.Route.Rearrangement
import ProtoRest.Proofs.Route.Walk

/-! # When a file has a route table
`Table.ofFile` accepts a file exactly when every rule has a binding and no two rules clash, and the
order in which services, methods and rules are declared does not matter
(`table_exists_iff_no_clash`). When it refuses, it reports every refused rule once and in order; when
it accepts, nothing of the file is lost (`rules_are_bound_or_reported`). -/

namespace ProtoRest.Route

open ProtoRest.Schema ProtoRest.Setting

variable (settings : RouteSettings) (file : File)

/-! ## The verdict -/

/-- The faults found in a file. -/
def refusals : List Fault :=
  (collect (buildService settings file) {} file.services).2.refused.faults

/-- The table that is built from a file, faults or not. -/
def built : Table :=
  { file := file.name
    package := file.package
    services := (collect (buildService settings file) {} file.services).1 }

/-- Without refusals a file gives all that was built. -/
theorem ofFile_of_no_refusal (h : refusals settings file = []) :
    Table.ofFile settings file = .ok (built settings file) := by
  rw [refusals] at h
  simp [Table.ofFile, Fault.Collector.result, Fault.Collector.joined?, h, built]

/-- With refusals a file gives all of them, joined. -/
theorem ofFile_of_refusal (h : refusals settings file ≠ []) :
    Table.ofFile settings file = .error (.several (refusals settings file)) := by
  obtain ⟨fault, faults, hf⟩ := List.exists_cons_of_ne_nil h
  rw [hf]
  rw [refusals] at hf
  simp [Table.ofFile, Fault.Collector.result, Fault.Collector.joined?, hf]

/-- A file gives a table exactly when nothing is refused, and the table is what was built. -/
theorem ofFile_eq_ok_iff {table : Table} :
    Table.ofFile settings file = .ok table ↔
      refusals settings file = [] ∧ table = built settings file := by
  by_cases h : refusals settings file = []
  · rw [ofFile_of_no_refusal settings file h, Except.ok.injEq, eq_comm]
    simp [h]
  · simp [ofFile_of_refusal settings file h, h]

/-- A file gives a fault exactly when something is refused, and the fault joins the refusals. -/
theorem ofFile_eq_error_iff {fault : Fault} :
    Table.ofFile settings file = .error fault ↔
      refusals settings file ≠ [] ∧ fault = .several (refusals settings file) := by
  by_cases h : refusals settings file = []
  · simp [ofFile_of_no_refusal settings file h, h]
  · rw [ofFile_of_refusal settings file h, Except.error.injEq, eq_comm]
    simp [h]

/-- There is no fault exactly when every site is accepted. -/
theorem refusals_eq_nil_iff :
    refusals settings file = [] ↔
      ∀ i < (sites file).length, AcceptedAt settings file.package (sites file) i := by
  have hlen := (forall₂_refused settings file).length_eq
  rw [refusals, ← List.length_eq_zero_iff, ← hlen, List.length_eq_zero_iff,
    List.eq_nil_iff_forall_not_mem]
  constructor
  · intro h i hi
    by_contra hn
    exact h i (mem_refusedPositions.mpr ⟨hi, hn⟩)
  · intro h i hi
    obtain ⟨hlt, hn⟩ := mem_refusedPositions.mp hi
    exact hn (h i hlt)

/-- Every site of a list is accepted exactly when all have bindings and no two are at odds. -/
theorem forall_acceptedAt_iff (package : String) (all : List Site) :
    (∀ i < all.length, AcceptedAt settings package all i) ↔
      (∀ site ∈ all, ∃ b, site.binding settings package = .ok b) ∧
        all.Pairwise fun a b => ¬ a.AtOdds settings package b := by
  constructor
  · intro h
    constructor
    · intro site hsite
      obtain ⟨i, hi, rfl⟩ := List.mem_iff_getElem.mp hsite
      have hacc := h i hi
      rw [AcceptedAt] at hacc
      obtain ⟨site, b, hsite, hb, -⟩ := hacc
      rw [List.getElem?_eq_getElem hi] at hsite
      cases hsite
      exact ⟨b, hb⟩
    · -- the later site of two is at odds with no accepted one before it, and the earlier one is
      -- accepted
      rw [List.pairwise_iff_getElem]
      intro i j hi hj hij
      have hacc := h j hj
      rw [AcceptedAt] at hacc
      obtain ⟨site, b, hsite, -, hfree⟩ := hacc
      rw [List.getElem?_eq_getElem hj] at hsite
      cases hsite
      exact hfree i hij (h i hi) all[i] (List.getElem?_eq_getElem hi)
  · rintro ⟨hbuilds, hpair⟩ i hi
    rw [AcceptedAt]
    obtain ⟨b, hb⟩ := hbuilds all[i] (List.getElem_mem hi)
    refine ⟨all[i], b, List.getElem?_eq_getElem hi, hb, fun j hji _ other hother => ?_⟩
    rw [List.getElem?_eq_getElem (Nat.lt_trans hji hi)] at hother
    cases hother
    exact List.pairwise_iff_getElem.mp hpair j i (Nat.lt_trans hji hi) hi hji

/-! ## What an accepted file becomes -/

/-- The routes of a method hold one binding for each of its rules: the one at a position is built
from the rule at that position. -/
structure CoversMethod (package : String) (service : Service) (m : Method) (r : MethodRoutes) :
    Prop where
  /-- The routes are those of the method. -/
  same : r.name = m.name ∧ r.fullName = m.fullName ∧ r.comment = m.comment ∧
    r.request = m.input.type ∧ r.reply = m.output.type
  /-- There is a binding for the annotation and one for each of its further rules. -/
  length : ∃ rule, m.rule = some rule ∧ r.bindings.length = 1 + rule.additional.length
  /-- Each binding is built from its own rule. -/
  bindings : List.Forall₂ (fun site b => b.index = site.2 ∧
    bindingOfRule settings package service m site.2 site.1 = .ok b) m.rules.zipIdx r.bindings

/-- The routes of a service hold the routes of its bound methods, in declaration order. -/
structure CoversService (package : String) (service : Service) (r : ServiceRoutes) : Prop where
  /-- The routes are those of the service. -/
  same : r.name = service.name ∧ r.fullName = service.fullName ∧ r.comment = service.comment
  /-- One entry for each bound method. -/
  methods : List.Forall₂ (CoversMethod settings package service)
    (service.methods.filter Method.isBound) r.methods

/-- A service without bound methods has no sites. -/
theorem flatMap_sitesOfMethod_eq_nil {s : Service} (h : s.isBound = false) :
    s.methods.flatMap (sitesOfMethod s) = [] := by
  rw [List.flatMap_eq_nil_iff]
  intro m hm
  have hmethod : m.isBound = false := by
    rw [Service.isBound, List.any_eq_false] at h
    exact Bool.eq_false_iff.mpr (h m hm)
  rw [sitesOfMethod, Method.rules_eq_nil hmethod]
  rfl

/-- A state without faults. -/
def Building.IsClean (s : Building) : Prop := s.refused.faults = []

/-- A site leaves a state without faults only if there was none before, and then it gives its
binding. -/
theorem buildSite_of_clean {s : Building} (site : Site)
    (h : (buildSite settings file s site).2.IsClean) :
    s.IsClean ∧ ∃ b, (buildSite settings file s site).1 = some b ∧
      site.binding settings file.package = .ok b := by
  obtain ⟨cause, -, hs⟩ | ⟨b, m, -, -, hs⟩ | ⟨b, hb, -, hs⟩ := buildSite_cases settings file s site
  · simp [hs, Building.IsClean] at h
  · simp [hs, Building.IsClean] at h
  · rw [hs] at h ⊢
    exact ⟨h, b, rfl, hb⟩

/-- When a method is built without refusals there were none before, and its routes cover it when it
is bound. -/
theorem buildMethod_of_clean {service : Service} {s : Building} {m : Method}
    (h : (buildMethod settings file service s m).2.IsClean) :
    s.IsClean ∧
      (m.isBound = true → ∃ r, (buildMethod settings file service s m).1 = some r ∧
        CoversMethod settings file.package service m r) ∧
      (m.isBound = false → (buildMethod settings file service s m).1 = none) := by
  obtain ⟨hclean, hbindings⟩ := forall₂_collect (f := buildRule settings file service m)
    Building.IsClean (fun _ => true)
    (fun rule b => b.index = rule.2 ∧
      bindingOfRule settings file.package service m rule.2 rule.1 = .ok b)
    (fun s rule hs => (buildSite_of_clean settings file ⟨service, m, rule.2, rule.1⟩ hs).1)
    (fun s rule hs _ => by
      obtain ⟨-, b, hgives, hb⟩ :=
        buildSite_of_clean settings file ⟨service, m, rule.2, rule.1⟩ hs
      exact ⟨b, hgives, index_of_bindingOfRule hb, hb⟩)
    (fun _ _ _ hfalse => Bool.noConfusion hfalse) s m.rules.zipIdx h
  rw [List.filter_eq_self.mpr fun _ _ => rfl] at hbindings
  refine ⟨hclean, fun hbound => ?_, fun hbound => ?_⟩
  · -- a bound method has a rule and so a binding, hence its routes are kept
    obtain ⟨rule, hrule, hrules⟩ := Method.rules_of_isBound hbound
    have hlength := hbindings.length_eq
    have hcount : m.rules.length = 1 + rule.additional.length := by
      rw [hrules, HttpRule.all, List.length_cons, Nat.add_comm]
    rw [List.length_zipIdx, hcount] at hlength
    have hne : (collect (buildRule settings file service m) s m.rules.zipIdx).1 ≠ [] := by
      intro hnil
      rw [hnil, List.length_nil] at hlength
      omega
    exact ⟨_, if_neg hne,
      ⟨⟨rfl, rfl, rfl, rfl, rfl⟩, ⟨rule, hrule, hlength.symm⟩, hbindings⟩⟩
  · have hnil : (collect (buildRule settings file service m) s m.rules.zipIdx).1 = [] := by
      rw [Method.rules_eq_nil hbound]
      rfl
    exact if_pos hnil

/-- When a service is built without refusals there were none before, and its routes cover it when it
is bound. -/
theorem buildService_of_clean {s : Building} {service : Service}
    (h : (buildService settings file s service).2.IsClean) :
    s.IsClean ∧
      (service.isBound = true → ∃ r, (buildService settings file s service).1 = some r ∧
        CoversService settings file.package service r) ∧
      (service.isBound = false → (buildService settings file s service).1 = none) := by
  obtain ⟨hclean, hmethods⟩ := forall₂_collect (f := buildMethod settings file service)
    Building.IsClean Method.isBound (CoversMethod settings file.package service)
    (fun _ _ hs => (buildMethod_of_clean settings file hs).1)
    (fun _ _ hs => (buildMethod_of_clean settings file hs).2.1)
    (fun _ _ hs => (buildMethod_of_clean settings file hs).2.2) s service.methods h
  refine ⟨hclean, fun hbound => ?_, fun hbound => ?_⟩
  · -- a bound service has a bound method, hence its routes are kept
    have hne : (collect (buildMethod settings file service) s service.methods).1 ≠ [] := by
      intro hnil
      rw [hnil, List.forall₂_nil_right_iff, List.filter_eq_nil_iff] at hmethods
      obtain ⟨m, hm, hmbound⟩ := List.any_eq_true.mp hbound
      exact hmethods m hm hmbound
    exact ⟨_, if_neg hne, ⟨⟨rfl, rfl, rfl⟩, hmethods⟩⟩
  · have hnil : service.methods.filter Method.isBound = [] := by
      rw [List.filter_eq_nil_iff]
      exact List.any_eq_false.mp hbound
    rw [hnil] at hmethods
    exact if_pos (List.forall₂_nil_left_iff.mp hmethods)

/-- The table of an accepted file holds the routes of its bound services, in declaration order. -/
theorem forall₂_services (h : refusals settings file = []) :
    List.Forall₂ (CoversService settings file.package) (file.services.filter Service.isBound)
      (built settings file).services :=
  (forall₂_collect (f := buildService settings file) Building.IsClean
    Service.isBound (CoversService settings file.package)
    (fun _ _ hs => (buildService_of_clean settings file hs).1)
    (fun _ _ hs => (buildService_of_clean settings file hs).2.1)
    (fun _ _ hs => (buildService_of_clean settings file hs).2.2) {} file.services h).2

/-! ## Bindings of accepted files -/

/-- The bindings of an accepted file are those of its sites, in the same order. -/
theorem forall₂_bindings (h : refusals settings file = []) :
    List.Forall₂ (fun site b => site.binding settings file.package = .ok b) (sites file)
      (built settings file).bindings := by
  have hservices := forall₂_services settings file h
  rw [sites, Table.bindings,
    ← flatMap_filter_of_nil Service.isBound (fun s hs => flatMap_sitesOfMethod_eq_nil hs)
      file.services]
  refine List.rel_flatMap hservices fun service r hr => ?_
  rw [ServiceRoutes.bindings, ← flatMap_filter_of_nil Method.isBound
    (fun m hm => by rw [sitesOfMethod, Method.rules_eq_nil hm]; rfl) service.methods]
  refine List.rel_flatMap hr.methods fun m r hm => ?_
  rw [sitesOfMethod, List.forall₂_map_left_iff]
  exact hm.bindings.imp fun _ _ hb => hb.2

/-- Two bindings of an accepted file with routes of one shape have the same route and different
verbs. -/
theorem pairwise_bindings {table : Table} (h : Table.ofFile settings file = .ok table) :
    table.bindings.Pairwise fun x y =>
      shape x.route = shape y.route → x.route = y.route ∧ x.verb ≠ y.verb := by
  obtain ⟨hclean, rfl⟩ := (ofFile_eq_ok_iff settings file).mp h
  have hagree := (forall_acceptedAt_iff settings file.package (sites file)).mp
    ((refusals_eq_nil_iff settings file).mp hclean)
  refine pairwise_of_forall₂ ?_ (forall₂_bindings settings file hclean) hagree.2
  intro a a' x y hx hy hodds hshape
  constructor
  · by_contra hroute
    exact hodds ⟨x, y, hx, hy, hshape, .inl hroute⟩
  · intro hverb
    exact hodds ⟨x, y, hx, hy, hshape, .inr hverb⟩

/-- A file has a table exactly when each site has a binding and no two sites clash. -/
theorem exists_table_iff :
    (∃ table, Table.ofFile settings file = .ok table) ↔
      (∀ site ∈ sites file, ∃ b, site.binding settings file.package = .ok b) ∧
        (sites file).Pairwise fun a b => ¬ a.AtOdds settings file.package b := by
  rw [← forall_acceptedAt_iff, ← refusals_eq_nil_iff]
  constructor
  · rintro ⟨table, h⟩
    exact ((ofFile_eq_ok_iff settings file).mp h).1
  · intro h
    exact ⟨_, ofFile_of_no_refusal settings file h⟩

/-- No refusal of a site is fatal. -/
theorem not_fatal_of_refusedAt {i : Nat} {fault : Fault}
    (h : RefusedAt settings file (sites file) i fault) : fault.isFatal = false := by
  obtain ⟨site, -, ⟨_, -, rfl⟩ | ⟨_, _, _, _, -, -, -, -, -, -, rfl⟩⟩ := h <;>
    rw [Site.fault, Fault.isFatal]

/-- A file without a table is refused alone. -/
theorem not_fatal_of_ofFile {fault : Fault} (h : Table.ofFile settings file = .error fault) :
    fault.isFatal = false := by
  obtain ⟨-, rfl⟩ := (ofFile_eq_error_iff settings file).mp h
  rw [Fault.isFatal, Fault.anyFatal_eq_any, List.any_eq_false]
  intro f hf
  obtain ⟨i, -, hi⟩ := exists_left_of_forall₂ (forall₂_refused settings file) f hf
  rw [not_fatal_of_refusedAt settings file hi]
  exact Bool.false_ne_true

/-! ## Main statements -/

/-- A file has a table exactly when every one of its rules has a binding and no two of them clash.
Then any two of its bindings with routes of one shape, of one method or of two, have the same route
and different verbs. Whether a file has a table does not depend on the order of its services, of
their methods and of the rules of these. -/
theorem table_exists_iff_no_clash :
    ((∃ table, Table.ofFile settings file = .ok table) ↔
      (∀ site ∈ sites file, ∃ b, site.binding settings file.package = .ok b) ∧
        (sites file).Pairwise fun a b => ¬ a.AtOdds settings file.package b) ∧
    (∀ table, Table.ofFile settings file = .ok table →
      table.bindings.Pairwise fun x y =>
        shape x.route = shape y.route → x.route = y.route ∧ x.verb ≠ y.verb) ∧
    (∀ other, Rearranged file other →
      ((∃ table, Table.ofFile settings file = .ok table) ↔
        ∃ table, Table.ofFile settings other = .ok table)) := by
  refine ⟨exists_table_iff settings file, fun _ h => pairwise_bindings settings file h, ?_⟩
  intro other hother
  have hperm := perm_targets hother
  rw [exists_table_iff, exists_table_iff, sites_agree_iff, sites_agree_iff,
    hperm.pairwise_iff fun hxy hyx => hxy hyx.symm]
  simp only [hperm.mem_iff]

/-- Every rule is bound or reported. A file without a table is refused with one fault for each rule
that has no binding or clashes with an accepted one before it, in the order of the rules; each fault
names the file and the method and concerns nothing else. The table of an accepted file holds just the
services and methods with rules, in the order of their declaration, and each method has one binding
for each of its rules, numbered by its position and built from that rule. -/
theorem rules_are_bound_or_reported :
    (∀ fault, Table.ofFile settings file = .error fault →
      ∃ faults, fault = .several faults ∧ faults ≠ [] ∧
        (∀ f ∈ faults, f.isFatal = false) ∧
        List.Forall₂ (RefusedAt settings file (sites file))
          (refusedPositions settings file.package (sites file) (sites file).length) faults) ∧
    (∀ table, Table.ofFile settings file = .ok table →
      table.file = file.name ∧ table.package = file.package ∧
        List.Forall₂ (CoversService settings file.package)
          (file.services.filter Service.isBound) table.services) := by
  constructor
  · intro fault h
    obtain ⟨hne, rfl⟩ := (ofFile_eq_error_iff settings file).mp h
    have hfaults := forall₂_refused settings file
    refine ⟨_, rfl, hne, fun f hf => ?_, hfaults⟩
    obtain ⟨i, -, hi⟩ := exists_left_of_forall₂ hfaults f hf
    exact not_fatal_of_refusedAt settings file hi
  · intro table h
    obtain ⟨hclean, rfl⟩ := (ofFile_eq_ok_iff settings file).mp h
    exact ⟨rfl, rfl, forall₂_services settings file hclean⟩

end ProtoRest.Route
