import ProtoRest.Fault
import ProtoRest.Proofs.Result

/-! # Verdicts
A condition `Decides` a piece of work when the work gives a result under it and ends the whole run
without it. Steps of work that are decided make up work that is decided: one step after another
(`Decides.bind`) and one step for each element of a list (`Decides.mapM`). -/

namespace ProtoRest

open Result

variable {α β : Type}

/-- Work gives a result with a property when a condition holds, and ends the whole run when it does
not. -/
structure Decides (c : Prop) (P : α → Prop) (x : Except Failure α) : Prop where
  /-- The result under the condition. -/
  ok : c → ∃ a, x = .ok a ∧ P a
  /-- The failure without the condition. -/
  fatal : ¬c → ∃ failure, x = .error failure ∧ failure.isFatal = true

namespace Decides

variable {c d : Prop} {P : α → Prop} {Q : β → Prop} {x : Except Failure α}

/-- A step that gives a good result decides a condition that always holds. -/
theorem of_eq_ok {a : α} (hx : x = .ok a) (ha : P a) : Decides True P x :=
  ⟨fun _ => ⟨a, hx, ha⟩, fun h => absurd trivial h⟩

/-- The results may be known for less than they were decided to be. -/
theorem imp {P' : α → Prop} (h : Decides c P x) (himp : ∀ a, P a → P' a) : Decides c P' x := by
  refine ⟨fun hc => ?_, h.fatal⟩
  obtain ⟨a, hx, ha⟩ := h.ok hc
  exact ⟨a, hx, himp a ha⟩

/-- The condition may be replaced by an equivalent one. -/
theorem congr (hcd : c ↔ d) (h : Decides c P x) : Decides d P x :=
  ⟨fun hd => h.ok (hcd.mpr hd), fun hd => h.fatal fun hc => hd (hcd.mp hc)⟩

/-- Decided work ends the whole run exactly when its condition fails. -/
theorem fatal_iff (h : Decides c P x) :
    (∃ failure, x = .error failure ∧ failure.isFatal = true) ↔ ¬c := by
  refine ⟨?_, h.fatal⟩
  rintro ⟨failure, hx, -⟩ hc
  obtain ⟨a, ha, -⟩ := h.ok hc
  rw [ha] at hx
  cases hx

/-- A step after another is decided by what decides both; the second one can rely on what decides
the first. -/
theorem bind {f : α → Except Failure β} (hx : Decides c P x)
    (hf : c → ∀ a, P a → Decides d Q (f a)) : Decides (c ∧ d) Q (x >>= f) := by
  refine ⟨fun ⟨hc, hd⟩ => ?_, fun h => ?_⟩
  · obtain ⟨a, rfl, ha⟩ := hx.ok hc
    obtain ⟨b, hb, hQ⟩ := (hf hc a ha).ok hd
    exact ⟨b, hb, hQ⟩
  · by_cases hc : c
    · obtain ⟨a, rfl, ha⟩ := hx.ok hc
      obtain ⟨failure, hfailure, hfatal⟩ := (hf hc a ha).fatal fun hd => h ⟨hc, hd⟩
      exact ⟨failure, hfailure, hfatal⟩
    · obtain ⟨failure, rfl, hfatal⟩ := hx.fatal hc
      exact ⟨failure, rfl, hfatal⟩

/-- A last step that cannot fail. -/
theorem map {f : α → β} (hx : Decides c P x) (hf : ∀ a, P a → Q (f a)) :
    Decides c Q (x >>= fun a => pure (f a)) :=
  (hx.bind fun _ a ha => of_eq_ok rfl (hf a ha)).congr (by simp)

/-- A step for each element of a list is decided by what decides it for all elements of a list that
it was made from. -/
theorem mapM_of_forall₂ {γ : Type} {S : γ → α → Prop} {f : α → Except Failure β} {c : γ → Prop}
    {R : α → β → Prop} {cs : List γ} {as : List α} (hcs : List.Forall₂ S cs as)
    (h : ∀ a' ∈ cs, ∀ a, S a' a → Decides (c a') (R a) (f a)) :
    Decides (∀ a' ∈ cs, c a') (List.Forall₂ R as) (as.mapM f) := by
  induction hcs with
  | nil => exact (of_eq_ok rfl .nil).congr (by simp)
  | @cons a' a cs as haa hcs ih =>
    have hrest := ih fun b hb => h b (List.mem_cons_of_mem _ hb)
    rw [List.mapM_cons]
    refine ((h a' List.mem_cons_self a haa).bind fun _ b hb => hrest.map fun bs hbs => ?_).congr
      List.forall_mem_cons.symm
    exact .cons hb hbs

/-- A step for each element of a list is decided by what decides it for all of them. -/
theorem mapM {f : α → Except Failure β} {c : α → Prop} {R : α → β → Prop} {as : List α}
    (h : ∀ a ∈ as, Decides (c a) (R a) (f a)) :
    Decides (∀ a ∈ as, c a) (List.Forall₂ R as) (as.mapM f) := by
  refine mapM_of_forall₂ (List.forall₂_same.mpr fun _ _ => rfl) fun a ha a' haa => ?_
  obtain rfl : a = a' := haa
  exact h a ha

end Decides

end ProtoRest
