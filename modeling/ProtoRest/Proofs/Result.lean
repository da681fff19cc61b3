import ProtoRest.Proofs.Related

/-! # Results
How a computation that can fail is taken apart: when a chain of two steps succeeds or fails
(`bind_eq_ok_iff`, `bind_eq_error_iff`), and when a step on every element of a list does
(`mapM_eq_ok_iff`, `exists_of_mapM_eq_error`). -/

namespace ProtoRest.Result

variable {ε ε' α β : Type}

/-- Two steps give a result exactly when the first gives one and the second does on it. -/
theorem bind_eq_ok_iff {x : Except ε α} {f : α → Except ε β} {b : β} :
    x >>= f = .ok b ↔ ∃ a, x = .ok a ∧ f a = .ok b := by
  cases x <;> simp [bind, Except.bind]

/-- Two steps fail exactly when the first does, or the second on the first's result. -/
theorem bind_eq_error_iff {x : Except ε α} {f : α → Except ε β} {e : ε} :
    x >>= f = .error e ↔ x = .error e ∨ ∃ a, x = .ok a ∧ f a = .error e := by
  cases x <;> simp [bind, Except.bind]

/-- A step that gave a result goes on with it. -/
theorem ok_bind (a : α) (f : α → Except ε β) : (Except.ok a : Except ε α) >>= f = f a := rfl

/-- A step that failed stops what follows. -/
theorem error_bind (e : ε) (f : α → Except ε β) : (Except.error e : Except ε α) >>= f = .error e := rfl

/-- A value given back is the result. -/
theorem pure_eq_ok_iff {a b : α} : (pure a : Except ε α) = .ok b ↔ a = b := by
  simp [pure, Except.pure]

/-- A mapped step gives the image of its result. -/
theorem map_eq_ok_iff {x : Except ε α} {f : α → β} {b : β} :
    x.map f = .ok b ↔ ∃ a, x = .ok a ∧ f a = b := by
  cases x <;> simp [Except.map]

/-- Mapping the error leaves a result alone. -/
@[simp] theorem mapError_ok (f : ε → ε') (a : α) :
    (Except.ok a : Except ε α).mapError f = .ok a := rfl

/-- Mapping the error of a failure maps its cause. -/
@[simp] theorem mapError_error (f : ε → ε') (e : ε) :
    (Except.error e : Except ε α).mapError f = .error (f e) := rfl

/-- Mapping the error neither adds nor loses a result. -/
theorem mapError_eq_ok_iff {x : Except ε α} {f : ε → ε'} {a : α} :
    x.mapError f = .ok a ↔ x = .ok a := by
  cases x <;> simp

/-- The error of a mapped step is the image of its cause. -/
theorem mapError_eq_error_iff {x : Except ε α} {f : ε → ε'} {e : ε'} :
    x.mapError f = .error e ↔ ∃ cause, x = .error cause ∧ f cause = e := by
  cases x <;> simp

/-- A step is read as an option that holds its result. -/
theorem toOption_eq_some_iff {x : Except ε α} {a : α} : x.toOption = some a ↔ x = .ok a := by
  cases x <;> simp [Except.toOption]

/-- Chains give a changed result when their first steps do and the rest goes on from there. -/
theorem bind_eq_map_of_map {α' β' : Type} {x : Except ε α} {x' : Except ε α'} {g : α → α'}
    {f : α → Except ε β} {f' : α' → Except ε β'} {k : β → β'} (hx : x' = x.map g)
    (hf : ∀ a, f' (g a) = (f a).map k) : x' >>= f' = (x >>= f).map k := by
  subst hx
  cases x with
  | error e => rfl
  | ok a => exact hf a

/-- Chains with the same first step give a changed result when the rest does. -/
theorem bind_eq_map_of_eq {β' : Type} {x x' : Except ε α} {f : α → Except ε β}
    {f' : α → Except ε β'} {k : β → β'} (hx : x' = x) (hf : ∀ a, f' a = (f a).map k) :
    x' >>= f' = (x >>= f).map k := by
  subst hx
  cases x' with
  | error e => rfl
  | ok a => exact hf a

/-- A step on every element succeeds exactly when it succeeds on each. -/
theorem mapM_eq_ok_iff {f : α → Except ε β} {as : List α} {bs : List β} :
    as.mapM f = .ok bs ↔ List.Forall₂ (fun a b => f a = .ok b) as bs := by
  induction as generalizing bs with
  | nil => rw [List.mapM_nil, pure_eq_ok_iff, List.forall₂_nil_left_iff, eq_comm]
  | cons a as ih =>
    rw [List.mapM_cons, bind_eq_ok_iff]
    constructor
    · rintro ⟨b, hb, h⟩
      obtain ⟨rest, hrest, h⟩ := bind_eq_ok_iff.mp h
      obtain rfl := pure_eq_ok_iff.mp h
      exact .cons hb (ih.mp hrest)
    · rintro (_ | ⟨hb, hrest⟩)
      exact ⟨_, hb, bind_eq_ok_iff.mpr ⟨_, ih.mpr hrest, rfl⟩⟩

/-- A step that has a known result for every element gives these results. -/
theorem mapM_eq_map {f : α → Except ε β} {g : α → β} {as : List α}
    (h : ∀ a ∈ as, f a = .ok (g a)) : as.mapM f = .ok (as.map g) := by
  rw [mapM_eq_ok_iff, List.forall₂_map_right_iff, List.forall₂_same]
  exact h

/-- A step on changed elements that gives changed results gives them for all elements. -/
theorem mapM_map_eq {α' β' : Type} {f : α → Except ε β} {f' : α' → Except ε β'} {g : α → α'}
    {k : β → β'} {as : List α} (h : ∀ a ∈ as, f' (g a) = (f a).map k) :
    (as.map g).mapM f' = (as.mapM f).map (List.map k) := by
  induction as with
  | nil => rfl
  | cons a as ih =>
    rw [List.forall_mem_cons] at h
    rw [List.map_cons, List.mapM_cons, List.mapM_cons]
    exact bind_eq_map_of_map h.1 fun b => bind_eq_map_of_map (ih h.2) fun bs => rfl

/-- A step that succeeds on every element does so on all. -/
theorem exists_mapM_eq_ok {f : α → Except ε β} {as : List α} (h : ∀ a ∈ as, ∃ b, f a = .ok b) :
    ∃ bs, as.mapM f = .ok bs := by
  induction as with
  | nil => exact ⟨[], rfl⟩
  | cons a as ih =>
    rw [List.forall_mem_cons] at h
    obtain ⟨⟨b, hb⟩, has⟩ := h
    obtain ⟨bs, hbs⟩ := ih has
    exact ⟨b :: bs, mapM_eq_ok_iff.mpr (.cons hb (mapM_eq_ok_iff.mp hbs))⟩

/-- A step on every element fails as it fails on one of them. -/
theorem exists_of_mapM_eq_error {f : α → Except ε β} {as : List α} {e : ε}
    (h : as.mapM f = .error e) : ∃ a ∈ as, f a = .error e := by
  induction as with
  | nil => cases h
  | cons a as ih =>
    rw [List.mapM_cons, bind_eq_error_iff] at h
    obtain h | ⟨b, -, h⟩ := h
    · exact ⟨a, List.mem_cons_self, h⟩
    · obtain h | ⟨bs, -, h⟩ := bind_eq_error_iff.mp h
      · obtain ⟨a', ha', hf⟩ := ih h
        exact ⟨a', List.mem_cons_of_mem _ ha', hf⟩
      · cases h

/-- A step that fails on an element fails on all, with the failure of one of them. -/
theorem exists_mapM_eq_error {f : α → Except ε β} {as : List α} {a : α} (ha : a ∈ as) {e : ε}
    (h : f a = .error e) : ∃ a' ∈ as, ∃ e', f a' = .error e' ∧ as.mapM f = .error e' := by
  cases hall : as.mapM f with
  | ok bs =>
    obtain ⟨b, -, hb⟩ := exists_right_of_forall₂ (mapM_eq_ok_iff.mp hall) a ha
    rw [h] at hb
    cases hb
  | error e' =>
    obtain ⟨a', ha', he'⟩ := exists_of_mapM_eq_error hall
    exact ⟨a', ha', e', he', rfl⟩

end ProtoRest.Result
