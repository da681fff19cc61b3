import ProtoRest.Proofs.Descriptor.ResolvedPool
import ProtoRest.Schema.Load

/-! # Faults of loading
Loading a file `Loads` what it should: it ends with a result or with a fault of the options of the
file, whatever these options hold, and stops without a report only when a map among the fields of a
method has entries without a key or a value (`loads_load`). -/

namespace ProtoRest.Schema

open ProtoRest.Annotation ProtoRest.Descriptor Result

/-! ## Maps of methods -/

section Maps

variable (p : Pool)

/-- Whether the entries of a field, if it is a map, have a key and a value. -/
def hasEntries (f : FieldType) : Bool :=
  (p.mapEntry? f).all fun entry =>
    (entry.field? keyNumber).isSome && (entry.field? valueNumber).isSome

/-- Whether the entries of all maps in a message have a key and a value. -/
def hasEntriesIn (name : String) : Bool :=
  (p.message? name).all fun m => m.fields.all (hasEntries p)

/-- Whether those of all maps that the methods of a file take and give back have. -/
def hasEntriesOf (f : FileType) : Bool :=
  f.services.all fun s => s.methods.all fun m => hasEntriesIn p m.input && hasEntriesIn p m.output

end Maps

/-! ## Steps of loading -/

section Steps

variable {α β : Type} {l : Loader} {c d : Prop} {x : Except Failure α}

/-- A step of loading gives a result only when a condition holds, and it fails with a fault of the
options of the file, or stops without a report when the condition does not hold. -/
structure Loads (l : Loader) (c : Prop) (x : Except Failure α) : Prop where
  /-- The condition of a result. -/
  ok : ∀ a, x = .ok a → c
  /-- The failures. -/
  error : ∀ failure, x = .error failure →
    (∃ message, failure = l.fault message) ∨ failure = .crash ∧ ¬c

namespace Loads

/-- A step that gives a result loads without a condition. -/
theorem of_eq_ok {a : α} (hx : x = .ok a) : Loads l True x := by
  refine ⟨fun _ _ => trivial, fun failure h => ?_⟩
  rw [hx] at h
  cases h

/-- The condition of a step may be replaced by an equivalent one. -/
theorem congr (hcd : c ↔ d) (h : Loads l c x) : Loads l d x :=
  ⟨fun a ha => hcd.mp (h.ok a ha), fun failure hfailure =>
    (h.error failure hfailure).imp id fun ⟨hcrash, hc⟩ => ⟨hcrash, fun hd => hc (hcd.mpr hd)⟩⟩

/-- A step after another needs what both need. -/
theorem bind {f : α → Except Failure β} (hx : Loads l c x)
    (hf : ∀ a, x = .ok a → Loads l d (f a)) : Loads l (c ∧ d) (x >>= f) := by
  constructor
  · intro b h
    obtain ⟨a, ha, hb⟩ := bind_eq_ok_iff.mp h
    exact ⟨hx.ok a ha, (hf a ha).ok b hb⟩
  · intro failure h
    obtain h | ⟨a, ha, h⟩ := bind_eq_error_iff.mp h
    · exact (hx.error failure h).imp id fun ⟨hcrash, hc⟩ => ⟨hcrash, fun hcd => hc hcd.1⟩
    · exact ((hf a ha).error failure h).imp id fun ⟨hcrash, hd⟩ => ⟨hcrash, fun hcd => hd hcd.2⟩

/-- A last step that only puts a result together needs nothing more. -/
theorem map (f : α → β) (hx : Loads l c x) : Loads l c (x >>= fun a => pure (f a)) :=
  (hx.bind fun _ _ => of_eq_ok rfl).congr (iff_of_eq (and_true c))

/-- A step on every element needs what it needs on each. -/
theorem mapM {f : α → Except Failure β} {c : α → Prop} {as : List α}
    (h : ∀ a ∈ as, Loads l (c a) (f a)) : Loads l (∀ a ∈ as, c a) (as.mapM f) := by
  constructor
  · intro bs hbs a ha
    obtain ⟨b, -, hb⟩ := exists_right_of_forall₂ (mapM_eq_ok_iff.mp hbs) a ha
    exact (h a ha).ok b hb
  · intro failure hfailure
    obtain ⟨a, ha, hfailure⟩ := exists_of_mapM_eq_error hfailure
    exact ((h a ha).error failure hfailure).imp id fun ⟨hcrash, hc⟩ =>
      ⟨hcrash, fun hall => hc (hall a ha)⟩

/-- An annotation needs nothing: what cannot be understood is a fault of the options. -/
theorem annotation (owner : String) (read : Except String α) :
    Loads l True (l.annotation owner read) := by
  refine ⟨fun _ _ => trivial, fun failure h => .inl ?_⟩
  obtain ⟨message, -, rfl⟩ := mapError_eq_error_iff.mp h
  exact ⟨owner ++ message, rfl⟩

end Loads

/-- What holds of all numbered entries holds of all entries. -/
theorem forall_mem_zipIdx {as : List α} {n : Nat} {c : α → Prop} :
    (∀ a ∈ as.zipIdx n, c a.1) ↔ ∀ a ∈ as, c a := by
  rw [← List.forall_mem_map (f := Prod.fst) (P := c), List.zipIdx_map_fst]

end Steps

/-! ## Loading from a resolved pool -/

section Loading

variable {l : Loader} (hpool : IsResolvedPool l.pool)

include hpool

/-! ### Messages -/

/-- The kind of a pool's field always loads. -/
theorem loads_kind {m : MessageType} (hm : m ∈ l.pool.messages) {f : FieldType} (hf : f ∈ m.fields) :
    Loads l True (l.kind f.type) := by
  have hresolves := hpool.fields m hm f hf
  cases htype : f.type with
  | scalar type => exact .of_eq_ok rfl
  | enum name =>
    rw [htype, Pool.resolves, Option.isSome_iff_exists] at hresolves
    obtain ⟨e, he⟩ := hresolves
    exact .of_eq_ok (by rw [Loader.kind, he])
  | message name grouped =>
    rw [htype, Pool.resolves, Option.isSome_iff_exists] at hresolves
    obtain ⟨m, hm⟩ := hresolves
    exact .of_eq_ok (by rw [Loader.kind, hm])

/-- The kind of an entry's field loads when the entry has a field of that number. -/
theorem loads_entryKind {entry : MessageType} (hentry : entry ∈ l.pool.messages) (number : Nat) :
    Loads l ((entry.field? number).isSome = true) (l.entryKind entry number) := by
  rw [Loader.entryKind]
  cases hfield : entry.field? number with
  -- the only step of loading that stops the work
  | none =>
    refine ⟨fun a ha => ?_, fun failure hfailure => ?_⟩
    · cases ha
    · obtain rfl := Except.error.inj hfailure
      exact .inr ⟨rfl, Bool.false_ne_true⟩
  | some f => exact (loads_kind hpool hentry (List.mem_of_find?_eq_some hfield)).congr (by simp)

omit hpool in
/-- The entry of a map field is a message of the pool. -/
theorem mem_messages_of_mapEntry? {f : FieldType} {entry : MessageType}
    (h : l.pool.mapEntry? f = some entry) : entry ∈ l.pool.messages := by
  rw [Pool.mapEntry?] at h
  split at h
  · split_ifs at h
    obtain ⟨hentry, -⟩ := Option.filter_eq_some_iff.mp h
    exact List.mem_of_find?_eq_some hentry
  all_goals cases h

/-- A field needs that its entries, if it is a map, have a key and a value. -/
theorem loads_label (f : FieldType) : Loads l (hasEntries l.pool f = true) (l.label f) := by
  rw [Loader.label]
  cases hentry : l.pool.mapEntry? f with
  | none =>
    have hentries : hasEntries l.pool f = true := by rw [hasEntries, hentry, Option.all_none]
    refine Loads.congr (iff_of_true trivial hentries) ?_
    dsimp only
    split_ifs <;> exact .of_eq_ok rfl
  | some entry =>
    have hmem := mem_messages_of_mapEntry? hentry
    refine Loads.congr ?_ ((loads_entryKind hpool hmem keyNumber).bind fun key _ =>
      (loads_entryKind hpool hmem valueNumber).map (FieldLabel.map key))
    rw [hasEntries, hentry, Option.all_some, Bool.and_eq_true]

/-- A field loads when its map entry, if it has one, holds a key and a value. -/
theorem loads_field {m : MessageType} (hm : m ∈ l.pool.messages) {f : FieldType} (hf : f ∈ m.fields) :
    Loads l (hasEntries l.pool f = true) (l.field f) := by
  rw [Loader.field]
  refine Loads.congr (iff_of_eq (and_true _)) ((loads_label hpool f).bind fun label _ => ?_)
  exact (loads_kind hpool hm hf).map _

/-- A message loads when the entries of all its map fields are whole. -/
theorem loads_message {name : String} (hname : (l.pool.message? name).isSome = true) :
    Loads l (hasEntriesIn l.pool name = true) (l.message name) := by
  obtain ⟨m, hm⟩ := Option.isSome_iff_exists.mp hname
  rw [Loader.message, hasEntriesIn, hm, Option.all_some, List.all_eq_true]
  refine Loads.map _ (Loads.mapM fun f hf => ?_)
  exact loads_field hpool (List.mem_of_find?_eq_some hm) hf

/-! ### Services -/

/-- A method loads when the entries in its input and its output are whole. -/
theorem loads_method {path : List Int} {m : MethodType}
    (hm : ∀ name ∈ [m.input, m.output], (l.pool.message? name).isSome = true) :
    Loads l ((hasEntriesIn l.pool m.input && hasEntriesIn l.pool m.output) = true)
      (l.method path m) := by
  rw [List.forall_mem_cons, List.forall_mem_singleton] at hm
  rw [Loader.method]
  refine Loads.congr ?_ <| (Loads.annotation _ _).bind fun rule _ =>
    (Loads.annotation _ _).bind fun auth _ => (Loads.annotation _ _).bind fun authLine _ =>
    (loads_message hpool hm.1).bind fun input _ => (loads_message hpool hm.2).map _
  rw [true_and, true_and, true_and, Bool.and_eq_true]

/-- A service loads when the entries in all its inputs and outputs are whole. -/
theorem loads_service {index : Nat} {s : ServiceType}
    (hs : ∀ m ∈ s.methods, ∀ name ∈ [m.input, m.output], (l.pool.message? name).isSome = true) :
    Loads l ((s.methods.all fun m => hasEntriesIn l.pool m.input && hasEntriesIn l.pool m.output) = true)
      (l.service index s) := by
  rw [Loader.service, List.all_eq_true]
  refine Loads.congr ((iff_of_eq (true_and _)).trans forall_mem_zipIdx)
    ((Loads.annotation _ _).bind fun auth _ => Loads.map _ (Loads.mapM fun m hm => ?_))
  exact loads_method hpool (hs m.1 (List.fst_mem_of_mem_zipIdx hm))

/-! ### Enums -/

omit hpool in
/-- The check of a status gives a result or a fault of the file's options. -/
theorem loads_checkStatus (owner : String) (status : Option Int) :
    Loads l True (l.checkStatus owner status) := by
  cases status with
  | none => exact .of_eq_ok rfl
  | some n =>
    rw [Loader.checkStatus]
    split_ifs
    · exact .of_eq_ok rfl
    · exact ⟨fun _ _ => trivial, fun failure h => .inl ⟨_, (Except.error.inj h).symm⟩⟩

omit hpool in
/-- An enum value gives a result or a fault of the file's options. -/
theorem loads_enumValue (v : EnumValueType) : Loads l True (l.enumValue v) := by
  rw [Loader.enumValue]
  exact Loads.congr (iff_of_eq (and_true _)) <| (Loads.annotation _ _).bind fun error _ =>
    (loads_checkStatus _ _).map _

omit hpool in
/-- An enum gives a result or a fault of the file's options. -/
theorem loads_enum (path : List Int) (e : EnumType) : Loads l True (l.enum path e) := by
  rw [Loader.enum]
  refine Loads.congr ?_ <| (Loads.annotation _ _).bind fun status _ =>
    (loads_checkStatus _ _).bind fun _ _ => (Loads.mapM fun v _ => loads_enumValue v).map _
  simp

/-! ### Files -/

/-- Loading a file needs that the entries of all maps in the messages of its methods have a key and
a value. -/
theorem loads_load (hfile : l.file ∈ l.pool.files) :
    Loads l (hasEntriesOf l.pool l.file = true) l.load := by
  rw [Loader.load, hasEntriesOf, List.all_eq_true]
  refine Loads.congr ((and_iff_left fun _ _ => trivial).trans forall_mem_zipIdx)
    ((Loads.mapM fun s hs => ?_).bind fun services _ =>
      (Loads.mapM fun e _ => loads_enum e.1 e.2).map _)
  exact loads_service hpool (hpool.methods l.file hfile s.1 (List.fst_mem_of_mem_zipIdx hs))

end Loading

end ProtoRest.Schema
