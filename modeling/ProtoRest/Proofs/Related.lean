import Mathlib.Data.List.Forall2
import Mathlib.Data.List.Induction
import Mathlib.Data.List.Nodup
import Mathlib.Tactic.SplitIfs

/-! # Related lists
Facts about lists whose elements are related one by one, for the proofs about passes that make a list
from another, and about lists without their repetitions. -/

namespace ProtoRest

variable {α β : Type} {R : α → β → Prop} {as : List α} {bs : List β}

/-- Every entry on the right has a partner on the left. -/
theorem exists_left_of_forall₂ (h : List.Forall₂ R as bs) : ∀ b ∈ bs, ∃ a ∈ as, R a b := by
  induction h with
  | nil => simp
  | cons hab _ ih =>
    rintro b (_ | ⟨_, hb⟩)
    · exact ⟨_, List.mem_cons_self, hab⟩
    · obtain ⟨a, ha, hR⟩ := ih b hb
      exact ⟨a, List.mem_cons_of_mem _ ha, hR⟩

/-- Every entry on the left has a partner on the right. -/
theorem exists_right_of_forall₂ (h : List.Forall₂ R as bs) : ∀ a ∈ as, ∃ b ∈ bs, R a b :=
  exists_left_of_forall₂ h.flip

/-- What is related to two lists in a row falls into two lists itself. -/
theorem exists_append_of_forall₂ {as as' : List α} (h : List.Forall₂ R (as ++ as') bs) :
    ∃ cs ds, bs = cs ++ ds ∧ List.Forall₂ R as cs ∧ List.Forall₂ R as' ds := by
  induction as generalizing bs with
  | nil => exact ⟨[], bs, rfl, .nil, h⟩
  | cons a as ih =>
    obtain _ | ⟨hab, htail⟩ := h
    obtain ⟨cs, ds, rfl, hcs, hds⟩ := ih htail
    exact ⟨_ :: cs, ds, rfl, .cons hab hcs, hds⟩

/-- Two relations place by place are followed one after the other. -/
theorem forall₂_trans {γ : Type} {S : β → γ → Prop} {T : α → γ → Prop} {cs : List γ}
    (h : List.Forall₂ R as bs) (h' : List.Forall₂ S bs cs) (hT : ∀ a b c, R a b → S b c → T a c) :
    List.Forall₂ T as cs := by
  induction h generalizing cs with
  | nil =>
    cases h'
    exact .nil
  | cons hab _ ih =>
    cases h' with
    | cons hbc htail => exact .cons (hT _ _ _ hab hbc) (ih htail)

/-- Elements that are related to those of a list with their positions are related to the list. -/
theorem forall₂_of_zipIdx {S : α × Nat → β → Prop} {n : Nat} (h : List.Forall₂ S (as.zipIdx n) bs)
    (hR : ∀ a b, S a b → R a.1 b) : List.Forall₂ R as bs := by
  have hmap : List.Forall₂ R ((as.zipIdx n).map Prod.fst) bs :=
    List.forall₂_map_left_iff.mpr (h.imp hR)
  rwa [List.zipIdx_map_fst] at hmap

/-- What is seen alike of related elements is seen alike of the lists. -/
theorem map_eq_of_forall₂ {γ : Type} {before : α → γ} {after : β → γ} (h : List.Forall₂ R as bs)
    (hR : ∀ a b, R a b → after b = before a) : bs.map after = as.map before := by
  induction h with
  | nil => rfl
  | cons hab _ ih => rw [List.map_cons, List.map_cons, hR _ _ hab, ih]

/-- An element of a list is replaced by one with the same related element. -/
theorem forall₂_set (h : List.Forall₂ R as bs) {i : Nat} {b b' : β} (hb : bs[i]? = some b)
    (hR : ∀ a, R a b → R a b') : List.Forall₂ R as (bs.set i b') := by
  induction h generalizing i with
  | nil => exact .nil
  | cons hab htail ih =>
    cases i with
    | zero =>
      obtain rfl := Option.some.inj hb
      exact .cons (hR _ hab) htail
    | succ i => exact .cons hab (ih hb)

/-- What holds of each pair on the left holds, in its related form, of each pair on the right. -/
theorem pairwise_of_forall₂ {P : α → α → Prop} {Q : β → β → Prop}
    (hPQ : ∀ a a' b b', R a b → R a' b' → P a a' → Q b b') (h : List.Forall₂ R as bs)
    (hP : as.Pairwise P) : bs.Pairwise Q := by
  induction h with
  | nil => exact .nil
  | cons hab htail ih =>
    rw [List.pairwise_cons] at hP ⊢
    refine ⟨fun b' hb' => ?_, ih hP.2⟩
    obtain ⟨a', ha', hR⟩ := exists_left_of_forall₂ htail b' hb'
    exact hPQ _ a' _ b' hab hR (hP.1 a' ha')

/-- When each entry gives the part it is related to, all entries together give the parts in order.
-/
theorem flatMap_eq_flatten_of_forall₂ {R : List α → β → Prop} {f : β → List α} {parts : List (List α)}
    (h : List.Forall₂ R parts bs) (hf : ∀ part ∈ parts, ∀ b ∈ bs, R part b → f b = part) :
    bs.flatMap f = parts.flatten := by
  induction h with
  | nil => rfl
  | cons hab _ ih =>
    rw [List.flatMap_cons, List.flatten_cons, hf _ List.mem_cons_self _ List.mem_cons_self hab, ih]
    exact fun part hpart b hb =>
      hf part (List.mem_cons_of_mem _ hpart) b (List.mem_cons_of_mem _ hb)

/-- Lists whose entries give the same lists place by place give the same list. -/
theorem flatMap_eq_of_forall₂ {γ : Type} {f : β → List γ} {g : α → List γ}
    (h : List.Forall₂ (fun a b => f b = g a) as bs) : bs.flatMap f = as.flatMap g := by
  induction h with
  | nil => rfl
  | cons hab _ ih => rw [List.flatMap_cons, List.flatMap_cons, hab, ih]

/-- Lists whose entries give the same values place by place keep the same values. -/
theorem filterMap_eq_of_forall₂ {γ : Type} {f : β → Option γ} {g : α → Option γ}
    (h : List.Forall₂ (fun a b => f b = g a) as bs) : bs.filterMap f = as.filterMap g := by
  induction h with
  | nil => rfl
  | cons hab _ ih => rw [List.filterMap_cons, List.filterMap_cons, hab, ih]

/-- Lists whose entries give rearranged lists place by place give rearranged lists. -/
theorem perm_flatMap_of_forall₂ {f g : α → List β} {as bs : List α}
    (h : List.Forall₂ (fun a b => (f a).Perm (g b)) as bs) :
    (as.flatMap f).Perm (bs.flatMap g) := by
  induction h with
  | nil => exact .nil
  | cons hab _ ih =>
    rw [List.flatMap_cons, List.flatMap_cons]
    exact hab.append ih

/-- Entries that give nothing may be left out beforehand. -/
theorem flatMap_filter_of_nil (counts : α → Bool) {f : α → List β}
    (h : ∀ a, counts a = false → f a = []) (as : List α) :
    (as.filter counts).flatMap f = as.flatMap f := by
  induction as with
  | nil => rfl
  | cons a as ih =>
    cases hc : counts a with
    | false =>
      rw [List.filter_cons_of_neg (by simp [hc]), List.flatMap_cons, ih, h a hc, List.nil_append]
    | true => rw [List.filter_cons_of_pos hc, List.flatMap_cons, List.flatMap_cons, ih]

/-- The last occurrence of an element splits a list in one way. -/
theorem append_cons_inj {c : α} {xs ys v w : List α} (hv : c ∉ v) (hw : c ∉ w)
    (h : xs ++ c :: v = ys ++ c :: w) : xs = ys ∧ v = w := by
  have hnil {v w front : List α} (hv : c ∉ v) (h : c :: v = front ++ c :: w) : front = [] := by
    cases front with
    | nil => rfl
    | cons a front =>
      obtain ⟨-, h⟩ := List.cons.inj h
      rw [h] at hv
      simp at hv
  obtain ⟨front, rfl, hcons⟩ | ⟨front, rfl, hcons⟩ := List.append_eq_append_iff.mp h
  · obtain rfl := hnil hv hcons
    exact ⟨(List.append_nil xs).symm, (List.cons.inj hcons).2⟩
  · obtain rfl := hnil hw hcons
    exact ⟨List.append_nil ys, (List.cons.inj hcons).2.symm⟩

/-! ## Repetitions -/

section Repetitions

variable {κ : Type} [DecidableEq κ]

/-- A key at the end is kept when it is new. -/
theorem eraseDups_concat (keys : List κ) (k : κ) :
    (keys ++ [k]).eraseDups = if k ∈ keys then keys.eraseDups else keys.eraseDups ++ [k] := by
  rw [List.eraseDups_append]
  split_ifs with h
  · simp [List.removeAll, h]
  · simp [List.removeAll, h, List.eraseDups_cons]

/-- Each key is kept once. -/
theorem nodup_eraseDups (keys : List κ) : keys.eraseDups.Nodup := by
  induction keys using List.reverseRecOn with
  | nil => exact .nil
  | append_singleton keys k ih =>
    rw [eraseDups_concat]
    split_ifs with h
    · exact ih
    · refine List.nodup_append.mpr ⟨ih, List.pairwise_singleton _ k, fun a ha b hb hab => h ?_⟩
      rw [← List.mem_singleton.mp hb, ← hab]
      exact List.mem_eraseDups.mp ha

/-- When all keys differ, an entry is found under its own key. -/
theorem find?_of_nodup {key : α → κ} (h : (as.map key).Nodup) {a : α} (ha : a ∈ as) :
    as.find? (key · == key a) = some a := by
  cases hfound : as.find? (key · == key a) with
  | none =>
    have hnot := List.find?_eq_none.mp hfound a ha
    simp at hnot
  | some b =>
    have hkey : key b = key a := by simpa using List.find?_some hfound
    rw [List.inj_on_of_nodup_map h (List.mem_of_find?_eq_some hfound) ha hkey]

end Repetitions

end ProtoRest
