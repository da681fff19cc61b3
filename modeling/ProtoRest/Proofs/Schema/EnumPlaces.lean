import ProtoRest.Descriptor.EnumPlace
import ProtoRest.Proofs.Schema.LoadSteps

/-! # Enums of loaded files
A file is loaded with the enums that its places hold outside of map entries, each once and in the order
of the places, and each with the comment of its place (`loaded_enums_follow_places`). -/

namespace ProtoRest.Schema

open ProtoRest.Descriptor ProtoRest.Text Result

/-! ## Positions -/

section Positions

variable {α : Type} {as : List α}

/-- An entry stands among the numbered ones exactly when it stands at its number. -/
theorem mem_zipIdx_map_iff {f : Nat → List Int} {e : List Int × α} :
    e ∈ as.zipIdx.map (fun (a, i) => (f i, a)) ↔ ∃ i, as[i]? = some e.2 ∧ e.1 = f i := by
  constructor
  · intro h
    obtain ⟨⟨a, i⟩, ha, rfl⟩ := List.mem_map.mp h
    exact ⟨i, List.mem_zipIdx_iff_getElem?.mp ha, rfl⟩
  · rintro ⟨i, ha, hplace⟩
    exact List.mem_map.mpr ⟨(e.2, i), List.mem_zipIdx_iff_getElem?.mpr ha, Prod.ext hplace.symm rfl⟩

/-- Numbered entries have rising numbers. -/
theorem pairwise_zipIdx (as : List α) (n : Nat) : (as.zipIdx n).Pairwise fun a b => a.2 < b.2 := by
  rw [← List.pairwise_map (f := Prod.snd) (R := (· < ·)), List.zipIdx_map_snd]
  exact List.pairwise_lt_range'

end Positions

/-! ## Enums in messages -/

/-- An enum in a place outside of map entries. -/
def IsFound (t : MessageTree) (place : List Int) (e : EnumType) : Prop :=
  ∃ around, t.Holds place around e ∧ ∀ m ∈ around, m.mapEntry = false

mutual

/-- The enums in a message are those that it holds outside of map entries. -/
theorem mem_enumsIn_iff : ∀ {t : MessageTree} {path : List Int} {e : List Int × EnumType},
    e ∈ Loader.enumsIn path t ↔ ∃ place, IsFound t place e.2 ∧ e.1 = path ++ place
  | .mk type nested, path, e => by
    rw [Loader.enumsIn]
    constructor
    · intro h
      -- nothing is found in the entry of a map
      split_ifs at h with hentry
      · cases h
      · obtain h | h := List.mem_append.mp h
        · obtain ⟨k, he, hplace⟩ := (mem_zipIdx_map_iff (f := fun i => path ++ [4, (i : Int)])).mp h
          exact ⟨_, ⟨_, .own he, by simpa using hentry⟩, hplace⟩
        · obtain ⟨j, t, place, ht, ⟨around, hholds, haround⟩, hplace⟩ := mem_enumsInAll_iff.mp h
          rw [Nat.zero_add] at hplace
          exact ⟨_, ⟨_, .inner ht hholds, List.forall_mem_cons.mpr ⟨by simpa using hentry, haround⟩⟩,
            hplace⟩
    · rintro ⟨place, ⟨around, hholds, haround⟩, hplace⟩
      -- no message around the enum is an entry, the outermost one included
      have hentry : type.mapEntry = false := by
        cases hholds <;> exact haround type List.mem_cons_self
      rw [hentry, if_neg Bool.false_ne_true, List.mem_append]
      cases hholds with
      | own he =>
        exact .inl ((mem_zipIdx_map_iff (f := fun i => path ++ [4, (i : Int)])).mpr ⟨_, he, hplace⟩)
      | @inner _ _ j t place around _ ht hholds =>
        refine .inr (mem_enumsInAll_iff.mpr ⟨j, t, place, ht, ⟨around, hholds, ?_⟩, ?_⟩)
        · exact fun m hm => haround m (List.mem_cons_of_mem _ hm)
        · rw [hplace, Nat.zero_add]

/-- An enum is listed for a list of trees exactly when it is found in the tree at the index that its
place names. -/
theorem mem_enumsInAll_iff : ∀ {ts : List MessageTree} {path : List Int} {index : Nat}
    {e : List Int × EnumType}, e ∈ Loader.enumsInAll path index ts ↔
      ∃ (j : Nat) (t : MessageTree) (place : List Int), ts[j]? = some t ∧ IsFound t place e.2 ∧
        e.1 = path ++ 3 :: ((index + j : Nat) : Int) :: place
  | [], path, index, e => by simp [Loader.enumsInAll]
  | t :: ts, path, index, e => by
    -- the first tree has the index itself, those behind it the next ones
    rw [Loader.enumsInAll, List.mem_append, mem_enumsIn_iff, mem_enumsInAll_iff]
    constructor
    · rintro (⟨place, hfound, hplace⟩ | ⟨j, u, place, hu, hfound, hplace⟩)
      · refine ⟨0, t, place, rfl, hfound, ?_⟩
        rw [hplace, List.append_assoc]
        rfl
      · refine ⟨j + 1, u, place, hu, hfound, ?_⟩
        rw [hplace, Nat.add_right_comm, Nat.add_assoc]
    · rintro ⟨j, u, place, hu, hfound, hplace⟩
      cases j with
      | zero =>
        obtain rfl := Option.some.inj hu
        refine .inl ⟨place, hfound, ?_⟩
        rw [hplace, List.append_assoc]
        rfl
      | succ j =>
        refine .inr ⟨j, u, place, hu, hfound, ?_⟩
        rw [hplace, Nat.add_right_comm, Nat.add_assoc]

end

/-- Two places that lead through a message part in it. -/
def PartWithin (path p q : List Int) : Prop :=
  ∃ p' q', p = path ++ p' ∧ q = path ++ q' ∧ StandsBefore p' q'

/-- Two places that part in a message of a message part in the outer message, too. -/
theorem PartWithin.outer {path p q : List Int} {j : Nat}
    (h : PartWithin (path ++ [3, (j : Int)]) p q) : PartWithin path p q := by
  obtain ⟨p, q, rfl, rfl, h⟩ := h
  exact ⟨_, _, List.append_assoc .., List.append_assoc .., .within 3 j h⟩

mutual

/-- The enums in a message stand in the order of their places. -/
theorem pairwise_enumsIn : ∀ (t : MessageTree) (path : List Int),
    (Loader.enumsIn path t).Pairwise fun a b => PartWithin path a.1 b.1
  | .mk type nested, path => by
    rw [Loader.enumsIn]
    split_ifs
    · exact .nil
    · refine List.pairwise_append.mpr ⟨?_, pairwise_enumsInAll nested path 0, fun a ha b hb => ?_⟩
      · rw [List.pairwise_map]
        refine (pairwise_zipIdx type.enums 0).imp fun h => ?_
        exact ⟨_, _, rfl, rfl, .position (Int.ofNat_lt.mpr h)⟩
      · obtain ⟨k, -, hplace⟩ := (mem_zipIdx_map_iff (f := fun i => path ++ [4, (i : Int)])).mp ha
        obtain ⟨j, t, place, -, -, hplace'⟩ := mem_enumsInAll_iff.mp hb
        exact ⟨_, _, hplace, hplace', .kind (by decide)⟩

/-- The enums listed for a list of trees have different places, in the order of the trees. -/
theorem pairwise_enumsInAll : ∀ (ts : List MessageTree) (path : List Int) (index : Nat),
    (Loader.enumsInAll path index ts).Pairwise fun a b => PartWithin path a.1 b.1
  | [], path, index => by
    rw [Loader.enumsInAll]
    exact .nil
  | t :: ts, path, index => by
    rw [Loader.enumsInAll]
    refine List.pairwise_append.mpr
      ⟨(pairwise_enumsIn t _).imp .outer, pairwise_enumsInAll ts path (index + 1), fun a ha b hb => ?_⟩
    obtain ⟨place, -, hplace⟩ := mem_enumsIn_iff.mp ha
    obtain ⟨j, u, place', -, -, hplace'⟩ := mem_enumsInAll_iff.mp hb
    rw [List.append_assoc] at hplace
    exact ⟨_, _, hplace, hplace', .position (by omega)⟩

end

/-! ## Enums of a file -/

section Files

variable {f : FileType}

/-- The enums of a file are those that it holds outside of map entries. -/
theorem mem_enums_iff {place : List Int} {e : EnumType} :
    (place, e) ∈ Loader.enums f ↔
      ∃ around, f.Holds place around e ∧ ∀ m ∈ around, m.mapEntry = false := by
  rw [Loader.enums, List.mem_append]
  constructor
  · rintro (h | h)
    · obtain ⟨i, he, rfl⟩ := (mem_zipIdx_map_iff (f := Loader.enumPath)).mp h
      exact ⟨[], .top he, List.forall_mem_nil _⟩
    · obtain ⟨⟨t, i⟩, ht, h⟩ := List.mem_flatMap.mp h
      obtain ⟨inner, ⟨around, hholds, haround⟩, rfl⟩ := mem_enumsIn_iff.mp h
      exact ⟨around, .inside (List.mem_zipIdx_iff_getElem?.mp ht) hholds, haround⟩
  · rintro ⟨around, hholds, haround⟩
    cases hholds with
    | top he => exact .inl ((mem_zipIdx_map_iff (f := Loader.enumPath)).mpr ⟨_, he, rfl⟩)
    | @inside i t place _ _ ht hholds =>
      exact .inr (List.mem_flatMap.mpr ⟨(t, i), List.mem_zipIdx_iff_getElem?.mpr ht,
        mem_enumsIn_iff.mpr ⟨place, ⟨around, hholds, haround⟩, rfl⟩⟩)

/-- The enums of a file stand in the order of their places. -/
theorem pairwise_enums (f : FileType) :
    (Loader.enums f).Pairwise fun a b => StandsBefore a.1 b.1 := by
  rw [Loader.enums]
  refine List.pairwise_append.mpr ⟨?_, ?_, fun a ha b hb => ?_⟩
  · rw [List.pairwise_map]
    exact (pairwise_zipIdx f.enums 0).imp fun h => .position (Int.ofNat_lt.mpr h)
  · -- enums in one message, then enums in two
    refine List.pairwise_flatMap.mpr ⟨fun a _ => (pairwise_enumsIn a.1 _).imp ?_, ?_⟩
    · rintro b c ⟨p, q, hp, hq, h⟩
      rw [hp, hq]
      exact .within 4 a.2 h
    · refine (pairwise_zipIdx f.messages 0).imp fun hij b hb c hc => ?_
      obtain ⟨p, -, hp⟩ := mem_enumsIn_iff.mp hb
      obtain ⟨q, -, hq⟩ := mem_enumsIn_iff.mp hc
      rw [hp, hq]
      exact .position (Int.ofNat_lt.mpr hij)
  · -- an enum of the file stands before all in messages, although these have the smaller number in a
    -- path
    obtain ⟨i, -, hplace⟩ := (mem_zipIdx_map_iff (f := Loader.enumPath)).mp ha
    obtain ⟨⟨t, j⟩, -, hb⟩ := List.mem_flatMap.mp hb
    obtain ⟨q, -, hq⟩ := mem_enumsIn_iff.mp hb
    rw [hplace, hq]
    exact .kind (by decide)

end Files

/-! ## Comments -/

/-- A comment as it is shown: its lines without blanks around them, on one line. -/
def shownComment (comment : Option String) : String :=
  String.ofList (flatten (comment.getD "").toList)

/-- The comment of a place is that of the first location there. -/
theorem exists_comment (l : Loader) (place : List Int) :
    ∃ comment, HasComment place l.file.locations comment ∧ l.comment place = shownComment comment := by
  rw [Loader.comment]
  split
  · rename_i hnone
    exact ⟨none, .none fun location h => by simpa using List.find?_eq_none.mp hnone location h, rfl⟩
  · rename_i location hfind
    obtain ⟨hpath, before, after, hlocations, hbefore⟩ := List.find?_eq_some_iff_append.mp hfind
    refine ⟨location.leading, ?_, rfl⟩
    rw [hlocations]
    exact .first (fun other h => by simpa using hbefore other h) (by simpa using hpath)

/-! ## Main statement -/

/-- What an enum is loaded with, apart from annotations. -/
structure IsLoadedEnum (f : FileType) (place : List Int) (e : EnumType) (loaded : Enum) : Prop where
  /-- It has the name. -/
  name : loaded.name = e.name
  /-- It has the full name. -/
  fullName : loaded.fullName = e.fullName
  /-- It has the values. -/
  values : loaded.values.map (fun v => (v.name, v.number)) = e.values.map fun v => (v.name, v.number)
  /-- It has the comment of its place. -/
  comment : ∃ comment, HasComment place f.locations comment ∧ loaded.comment = shownComment comment

/-- An enum that was loaded at a place is the enum of that place. -/
theorem isLoadedEnum_of_loadsEnum {l : Loader} {place : List Int} {e : EnumType} {loaded : Enum}
    (h : l.LoadsEnum place e loaded) : IsLoadedEnum l.file place e loaded := by
  refine ⟨h.name, h.fullName, map_eq_of_forall₂ h.values fun v value hvalue => ?_, ?_⟩
  · rw [hvalue.name, hvalue.number]
  · rw [h.comment]
    exact exists_comment l place

/-- The enums of a loaded file are those that the file holds outside of map entries, each once. They
stand in the order of their places: first those at the top, then those in messages, where the enums of
a message come before those in the messages in it. Each has the comment of its place. -/
theorem loaded_enums_follow_places {l : Loader} {file : File} (h : l.load = .ok file) :
    ∃ found : List (List Int × EnumType),
      (∀ place e, (place, e) ∈ found ↔
        ∃ around, l.file.Holds place around e ∧ ∀ m ∈ around, m.mapEntry = false) ∧
      (found.map Prod.fst).Pairwise StandsBefore ∧ (found.map Prod.fst).Nodup ∧
      List.Forall₂ (fun (place, e) => IsLoadedEnum l.file place e) found file.enums := by
  have horder : ((Loader.enums l.file).map Prod.fst).Pairwise StandsBefore :=
    List.pairwise_map.mpr (pairwise_enums l.file)
  exact ⟨Loader.enums l.file, fun _ _ => mem_enums_iff, horder, horder.imp StandsBefore.ne,
    (Loader.load_eq_ok h).2.imp fun _ _ => isLoadedEnum_of_loadsEnum⟩

/-- The fields of an enum with one value. -/
def enumFields (name value : String) : Wire.Raw :=
  .message [(1, .text name), (2, .message [(1, .text value)])]

/-- The fields of a location with a comment. -/
def locationFields (path : List Nat) (comment : String) : Wire.Raw :=
  .message [(1, .packed (path.map .varint)), (3, .text comment)]

/-- A file with enums at the top, in messages, in a message of a message and in an entry of a map. One
of its places has two locations. -/
def shelfDecl : FileDecl :=
  .ofFields
    [(1, .text "shelf.proto"), (2, .text "shelf"),
     (4, .message
       [(1, .text "Shelf"),
        (2, .message
          [(1, .text "rows"), (3, .varint 1), (4, .varint 3), (5, .varint 11),
           (6, .text ".shelf.Shelf.RowsEntry")]),
        (3, .message
          [(1, .text "RowsEntry"),
           (2, .message [(1, .text "key"), (3, .varint 1), (4, .varint 1), (5, .varint 5)]),
           (2, .message [(1, .text "value"), (3, .varint 2), (4, .varint 1), (5, .varint 5)]),
           (4, enumFields "Hidden" "HIDDEN"),
           (7, .message [(7, .varint 1)])]),
        (3, .message
          [(1, .text "Row"), (3, .message [(1, .text "Slot"), (4, enumFields "Size" "SMALL")]),
           (4, enumFields "Side" "LEFT")]),
        (4, enumFields "Kind" "OPEN")]),
     (4, .message [(1, .text "Book"), (4, enumFields "Cover" "SOFT")]),
     (5, enumFields "Color" "RED"),
     (9, .message
       [(1, locationFields [4, 0, 3, 0, 4, 0] "Hidden."),
        (1, locationFields [4, 0, 3, 1, 4, 0] " The side\n of a row. "),
        (1, locationFields [5, 0] "The color."),
        (1, locationFields [5, 0] "Another color.")])]

/-- The position of an entry of a map counts in the places after it, though its enum is passed over. -/
theorem enums_of_shelfDecl :
    ∃ pool type file, Pool.ofDecls [shelfDecl] = .ok pool ∧ pool.file? "shelf.proto" = some type ∧
      Loader.load ⟨pool, type⟩ = .ok file ∧
      (file.enums.map fun e => (e.fullName, e.comment)) =
        [("shelf.Color", "The color."), ("shelf.Shelf.Kind", ""),
          ("shelf.Shelf.Row.Side", "The side of a row."), ("shelf.Shelf.Row.Slot.Size", ""),
          ("shelf.Book.Cover", "")] ∧
      ∃ found : List (List Int × EnumType),
        (∀ place e, (place, e) ∈ found ↔
          ∃ around, type.Holds place around e ∧ ∀ m ∈ around, m.mapEntry = false) ∧
        (found.map Prod.fst).Pairwise StandsBefore ∧ (found.map Prod.fst).Nodup ∧
        List.Forall₂ (fun (place, e) => IsLoadedEnum type place e) found file.enums := by
  -- enums of the file come first, then those of each message, whose own come before nested ones
  have hparts : ((Pool.ofDecls [shelfDecl]).toOption.bind fun pool =>
      (pool.file? "shelf.proto").bind fun type =>
      (Loader.load ⟨pool, type⟩).toOption.map fun file =>
        file.enums.map fun e => (e.fullName, e.comment)) =
      some [("shelf.Color", "The color."), ("shelf.Shelf.Kind", ""),
        ("shelf.Shelf.Row.Side", "The side of a row."), ("shelf.Shelf.Row.Slot.Size", ""),
        ("shelf.Book.Cover", "")] := by
    decide +kernel
  obtain ⟨pool, hpool, hparts⟩ := Option.bind_eq_some_iff.mp hparts
  obtain ⟨type, htype, hparts⟩ := Option.bind_eq_some_iff.mp hparts
  obtain ⟨file, hfile, henums⟩ := Option.map_eq_some_iff.mp hparts
  rw [toOption_eq_some_iff] at hpool hfile
  exact ⟨pool, type, file, hpool, htype, hfile, henums, loaded_enums_follow_places hfile⟩

end ProtoRest.Schema
