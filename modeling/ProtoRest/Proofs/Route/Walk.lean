import ProtoRest.Proofs.Related
import ProtoRest.Route.Site

/-! # The walk over the sites of a file
`Table.ofFile` goes through services, methods and rules in three nested passes with one state.
`walk_eq` flattens them into one pass over the sites of the file. A site is **accepted** when it has
a binding that clashes with no accepted site before it, and `walk_invariant` says that after any
number of sites the state holds the accepted bindings and one fault per refused site. -/

namespace ProtoRest.Route

open ProtoRest.Schema ProtoRest.Setting

/-! ## Passes with a state -/

section Collect

variable {α β γ δ σ : Type}

/-- Collecting over two lists in a row collects over the second from where the first ended. -/
theorem collect_append (f : σ → α → Option β × σ) (s : σ) (as bs : List α) :
    collect f s (as ++ bs) =
      ((collect f s as).1 ++ (collect f (collect f s as).2 bs).1,
        (collect f (collect f s as).2 bs).2) := by
  induction as generalizing s with
  | nil => simp
  | cons a as ih => simp only [List.cons_append, collect_cons, ih, List.append_assoc]

/-- Collecting over mapped entries maps each before its step. -/
theorem collect_map (f : σ → α → Option β × σ) (h : γ → α) (s : σ) (cs : List γ) :
    collect f s (cs.map h) = collect (fun s c => f s (h c)) s cs := by
  induction cs generalizing s with
  | nil => rfl
  | cons c cs ih => simp only [List.map_cons, collect_cons, ih]

/-- A pass whose steps are passes over parts leaves the state of one pass over all parts. -/
theorem snd_collect_flatMap {f : σ → α → Option β × σ} {g : σ → γ → Option δ × σ}
    {parts : α → List γ} (h : ∀ s a, (f s a).2 = (collect g s (parts a)).2) (s : σ)
    (as : List α) : (collect f s as).2 = (collect g s (as.flatMap parts)).2 := by
  induction as generalizing s with
  | nil => rfl
  | cons a as ih => rw [collect_cons, List.flatMap_cons, collect_append, ih, h]

/-- What a pass gives when its last state is good: one related value for each element that counts.
A state that is good after a step was good before it, so every step of the pass ends well. -/
theorem forall₂_collect {f : σ → α → Option β × σ} (good : σ → Prop) (counts : α → Bool)
    (R : α → β → Prop) (before : ∀ s a, good (f s a).2 → good s)
    (gives : ∀ s a, good (f s a).2 → counts a = true → ∃ b, (f s a).1 = some b ∧ R a b)
    (skips : ∀ s a, good (f s a).2 → counts a = false → (f s a).1 = none) (s : σ) (as : List α)
    (h : good (collect f s as).2) :
    good s ∧ List.Forall₂ R (as.filter counts) (collect f s as).1 := by
  induction as generalizing s with
  | nil => exact ⟨h, .nil⟩
  | cons a as ih =>
    rw [collect_cons] at h ⊢
    obtain ⟨hstep, hrest⟩ := ih (f s a).2 h
    refine ⟨before s a hstep, ?_⟩
    -- only what counts gives a result, and all of it does
    cases hc : counts a with
    | false =>
      rw [List.filter_cons_of_neg (by simp [hc]), skips s a hstep hc]
      exact hrest
    | true =>
      obtain ⟨b, hb, hR⟩ := gives s a hstep hc
      rw [List.filter_cons_of_pos hc, hb]
      exact .cons hR hrest

end Collect

/-! ## One pass over the sites -/

variable (settings : RouteSettings) (file : File)

/-- Builds the rule of a site. -/
def buildSite (s : Building) (site : Site) : Option Binding × Building :=
  buildRule settings file site.service site.method s (site.rule, site.index)

/-- The state after a number of sites. -/
def walk (sites : List Site) : Building := (collect (buildSite settings file) {} sites).2

/-- Building a method takes the building through the method's sites. -/
theorem snd_buildMethod (service : Service) (s : Building) (method : Method) :
    (buildMethod settings file service s method).2 =
      (collect (buildSite settings file) s (sitesOfMethod service method)).2 := by
  rw [sitesOfMethod, collect_map]
  rfl

/-- Building a service takes the building through the sites of its methods. -/
theorem snd_buildService (s : Building) (service : Service) :
    (buildService settings file s service).2 =
      (collect (buildSite settings file) s
        (service.methods.flatMap (sitesOfMethod service))).2 :=
  snd_collect_flatMap (snd_buildMethod settings file service) s service.methods

/-- The three nested passes leave the state of one pass over the sites. -/
theorem walk_eq :
    (collect (buildService settings file) {} file.services).2 = walk settings file (sites file) :=
  snd_collect_flatMap (snd_buildService settings file) {} file.services

/-- A walk over one more site ends with the step at that site. -/
theorem walk_append_singleton (before : List Site) (site : Site) :
    walk settings file (before ++ [site]) =
      (buildSite settings file (walk settings file before) site).2 := by
  rw [walk, collect_append]
  rfl

/-- The fault of a refused site. -/
def Site.fault (site : Site) (fault : BindingFault) : Fault :=
  .schema file.name site.method.fullName fault.message

/-- What a site with a binding puts among the accepted bindings. -/
def Site.mounted (site : Site) (b : Binding) : Mounted := ⟨b.verb, b.route, site.method.fullName⟩

/-- Everything that one site can do: it has no binding, or its binding clashes with an accepted one,
or it is accepted. -/
theorem buildSite_cases (s : Building) (site : Site) :
    (∃ fault, site.binding settings file.package = .error fault ∧
      buildSite settings file s site =
        (none, { s with refused := s.refused.add (site.fault file fault) })) ∨
    (∃ b m, site.binding settings file.package = .ok b ∧
      (s.mounted.find? fun m => clash b.verb b.route m.verb m.route) = some m ∧
      buildSite settings file s site =
        (none, { s with refused := s.refused.add (site.fault file (clashFault b m)) })) ∨
    (∃ b, site.binding settings file.package = .ok b ∧
      (s.mounted.find? fun m => clash b.verb b.route m.verb m.route) = none ∧
      buildSite settings file s site =
        (some b, { s with mounted := s.mounted ++ [site.mounted b] })) := by
  -- the rule has no binding, clashes with one that is mounted, or is mounted itself
  cases hb : site.binding settings file.package with
  | error fault =>
    rw [Site.binding] at hb
    exact .inl ⟨fault, rfl, by simp only [buildSite, buildRule, hb, Site.fault]⟩
  | ok b =>
    rw [Site.binding] at hb
    cases hm : s.mounted.find? fun m => clash b.verb b.route m.verb m.route with
    | some m =>
      exact .inr (.inl ⟨b, m, rfl, hm, by simp only [buildSite, buildRule, hb, hm, Site.fault]⟩)
    | none =>
      exact .inr (.inr ⟨b, rfl, hm, by simp only [buildSite, buildRule, hb, hm, Site.mounted]⟩)

/-! ## Accepted positions -/

section Accepted

variable (package : String) (all : List Site)

/-- The site at a position is accepted: it has a binding, and no accepted site before it is at odds
with it. -/
def AcceptedAt (i : Nat) : Prop :=
  ∃ site b, all[i]? = some site ∧ site.binding settings package = .ok b ∧
    ∀ j, j < i → AcceptedAt j → ∀ other, all[j]? = some other →
      ¬ other.AtOdds settings package site
termination_by i

open Classical in
/-- The positions of the accepted sites among the first `n`. -/
noncomputable def acceptedPositions (n : Nat) : List Nat :=
  (List.range n).filter fun i => decide (AcceptedAt settings package all i)

open Classical in
/-- The positions of the refused sites among the first `n`. -/
noncomputable def refusedPositions (n : Nat) : List Nat :=
  (List.range n).filter fun i => decide (¬ AcceptedAt settings package all i)

variable {settings package all}

/-- The accepted positions are those up to a bound at which a site is accepted. -/
theorem mem_acceptedPositions {n i : Nat} :
    i ∈ acceptedPositions settings package all n ↔ i < n ∧ AcceptedAt settings package all i := by
  simp [acceptedPositions]

/-- The refused positions are those up to a bound at which no site is accepted. -/
theorem mem_refusedPositions {n i : Nat} :
    i ∈ refusedPositions settings package all n ↔
      i < n ∧ ¬ AcceptedAt settings package all i := by
  simp [refusedPositions]

/-- An accepted site adds its position to the accepted ones. -/
theorem positions_succ_of_accepted {n : Nat} (h : AcceptedAt settings package all n) :
    acceptedPositions settings package all (n + 1) =
        acceptedPositions settings package all n ++ [n] ∧
      refusedPositions settings package all (n + 1) = refusedPositions settings package all n := by
  simp [acceptedPositions, refusedPositions, List.range_succ, h]

/-- A refused site adds its position to the refused ones. -/
theorem positions_succ_of_refused {n : Nat} (h : ¬ AcceptedAt settings package all n) :
    acceptedPositions settings package all (n + 1) = acceptedPositions settings package all n ∧
      refusedPositions settings package all (n + 1) =
        refusedPositions settings package all n ++ [n] := by
  simp [acceptedPositions, refusedPositions, List.range_succ, h]

end Accepted

/-! ## What the walk knows -/

section Walk

variable (all : List Site)

/-- The accepted binding of the site at a position. -/
def MountedAt (i : Nat) (m : Mounted) : Prop :=
  ∃ site b, all[i]? = some site ∧ site.binding settings file.package = .ok b ∧ m = site.mounted b

/-- The fault of the refused site at a position: it has no binding, or it is at odds with an
accepted site before it. -/
def RefusedAt (i : Nat) (fault : Fault) : Prop :=
  ∃ site, all[i]? = some site ∧
    ((∃ cause, site.binding settings file.package = .error cause ∧
        fault = site.fault file cause) ∨
      ∃ j other x b, j < i ∧ AcceptedAt settings file.package all j ∧ all[j]? = some other ∧
        other.AtOdds settings file.package site ∧
        other.binding settings file.package = .ok x ∧
        site.binding settings file.package = .ok b ∧
        fault = site.fault file (clashFault b (other.mounted x)))

/-- What a state holds after the first `n` sites. -/
structure WalkInvariant (n : Nat) (s : Building) : Prop where
  /-- The accepted bindings, in the order of their sites. -/
  mounted : List.Forall₂ (MountedAt settings file all)
    (acceptedPositions settings file.package all n) s.mounted
  /-- The faults, one for each refused site, in the order of the sites. -/
  refused : List.Forall₂ (RefusedAt settings file all)
    (refusedPositions settings file.package all n) s.refused.faults

variable {settings file all}

/-- The binding at a position clashes with an accepted one exactly when an accepted site before it is
at odds with it. -/
theorem WalkInvariant.exists_clash_iff {n : Nat} {s : Building} {site : Site} {b : Binding}
    (inv : WalkInvariant settings file all n s)
    (hb : site.binding settings file.package = .ok b) :
    (∃ m ∈ s.mounted, clash b.verb b.route m.verb m.route = true) ↔
      ∃ j < n, AcceptedAt settings file.package all j ∧ ∃ other, all[j]? = some other ∧
        other.AtOdds settings file.package site := by
  -- by the invariant the mounts are those of the accepted sites
  constructor
  · rintro ⟨m, hm, hclash⟩
    obtain ⟨j, hj, other, x, hother, hx, rfl⟩ := exists_left_of_forall₂ inv.mounted m hm
    obtain ⟨hjn, hacc⟩ := mem_acceptedPositions.mp hj
    rw [clash_eq_true_iff] at hclash
    have hodds : site.AtOdds settings file.package other := ⟨b, x, hb, hx, hclash⟩
    exact ⟨j, hjn, hacc, other, hother, hodds.symm⟩
  · rintro ⟨j, hjn, hacc, other, hother, hodds⟩
    obtain ⟨m, hm, site', x, hsite', hx, rfl⟩ :=
      exists_right_of_forall₂ inv.mounted j (mem_acceptedPositions.mpr ⟨hjn, hacc⟩)
    obtain rfl : other = site' := by rw [hother] at hsite'; exact Option.some.inj hsite'
    refine ⟨_, hm, clash_eq_true_iff.mpr ?_⟩
    obtain ⟨b', x', hb', hx', hclash⟩ := hodds.symm
    rw [hb] at hb'
    rw [hx] at hx'
    cases hb'
    cases hx'
    exact hclash

/-- One more site keeps the invariant. -/
theorem WalkInvariant.step {n : Nat} {s : Building} {site : Site} (hsite : all[n]? = some site)
    (inv : WalkInvariant settings file all n s) :
    WalkInvariant settings file all (n + 1) (buildSite settings file s site).2 := by
  obtain ⟨cause, hb, hs⟩ | ⟨b, m, hb, hfind, hs⟩ | ⟨b, hb, hfind, hs⟩ :=
    buildSite_cases settings file s site
  · -- without a binding the site is refused, and nothing else changes
    have hrefused : ¬ AcceptedAt settings file.package all n := by
      rw [AcceptedAt]
      rintro ⟨site', b, hsite', hb', -⟩
      rw [hsite] at hsite'
      cases hsite'
      rw [hb] at hb'
      cases hb'
    obtain ⟨hpos, hneg⟩ := positions_succ_of_refused hrefused
    rw [hs]
    refine ⟨by rw [hpos]; exact inv.mounted, ?_⟩
    rw [hneg]
    exact List.rel_append inv.refused (.cons ⟨site, hsite, .inl ⟨cause, hb, rfl⟩⟩ .nil)
  · -- a clash is with an accepted site before this one, so it is refused
    have hm := List.mem_of_find?_eq_some hfind
    have hclash := List.find?_some hfind
    obtain ⟨j, hj, other, x, hother, hx, rfl⟩ := exists_left_of_forall₂ inv.mounted m hm
    obtain ⟨hjn, hacc⟩ := mem_acceptedPositions.mp hj
    have hodds : other.AtOdds settings file.package site :=
      Site.AtOdds.symm ⟨b, x, hb, hx, clash_eq_true_iff.mp hclash⟩
    have hrefused : ¬ AcceptedAt settings file.package all n := by
      rw [AcceptedAt]
      rintro ⟨site', b', hsite', -, hfree⟩
      rw [hsite] at hsite'
      cases hsite'
      exact hfree j hjn hacc other hother hodds
    obtain ⟨hpos, hneg⟩ := positions_succ_of_refused hrefused
    rw [hs]
    refine ⟨by rw [hpos]; exact inv.mounted, ?_⟩
    rw [hneg]
    refine List.rel_append inv.refused (.cons ⟨site, hsite, .inr ?_⟩ .nil)
    exact ⟨j, other, x, b, hjn, hacc, hother, hodds, hx, hb, rfl⟩
  · -- without a clash no accepted site before this one is at odds with it
    have haccepted : AcceptedAt settings file.package all n := by
      rw [AcceptedAt]
      refine ⟨site, b, hsite, hb, fun j hjn hacc other hother hodds => ?_⟩
      obtain ⟨m, hm, hclash⟩ :=
        (inv.exists_clash_iff hb).mpr ⟨j, hjn, hacc, other, hother, hodds⟩
      exact List.find?_eq_none.mp hfind m hm hclash
    obtain ⟨hpos, hneg⟩ := positions_succ_of_accepted haccepted
    rw [hs]
    refine ⟨?_, by rw [hneg]; exact inv.refused⟩
    rw [hpos]
    exact List.rel_append inv.mounted (.cons ⟨site, b, hsite, hb, rfl⟩ .nil)

variable (settings file all)

/-- The walk over any number of the first sites keeps the invariant. -/
theorem walk_invariant (n : Nat) (hn : n ≤ all.length) :
    WalkInvariant settings file all n (walk settings file (all.take n)) := by
  induction n with
  | zero => exact ⟨.nil, .nil⟩
  | succ n ih =>
    have hlt : n < all.length := hn
    have htake : all.take (n + 1) = all.take n ++ [all[n]] := by
      rw [List.take_append_getElem hlt]
    rw [htake, walk_append_singleton]
    exact (ih (Nat.le_of_lt hlt)).step (List.getElem?_eq_getElem hlt)

/-- The faults of a file: one for each refused site, in the order of the sites. -/
theorem forall₂_refused :
    List.Forall₂ (RefusedAt settings file (sites file))
      (refusedPositions settings file.package (sites file) (sites file).length)
      (collect (buildService settings file) {} file.services).2.refused.faults := by
  have inv := walk_invariant settings file (sites file) (sites file).length (Nat.le_refl _)
  rw [List.take_length, ← walk_eq] at inv
  exact inv.refused

end Walk

end ProtoRest.Route
