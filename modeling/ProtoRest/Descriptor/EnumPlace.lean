import ProtoRest.Descriptor.Types

/-! # Places of enums
The place of a declaration is made of steps, each a field number and a position. A step to an enum has
number 5 at the top of a file and number 4 in a message, a step to a message has number 4 at the top and
number 3 in a message. A place of a file holds an enum, with messages around it, and has a comment. -/

namespace ProtoRest.Descriptor

/-! ## Enums -/

/-- A message holds an enum at a place in it. The messages around the enum are listed from the outside
in, the message itself first. -/
inductive MessageTree.Holds : MessageTree → List Int → List MessageType → EnumType → Prop
  /-- The enum is one of the message's own. -/
  | own {type : MessageType} {nested : List MessageTree} {k : Nat} {e : EnumType}
    (he : type.enums[k]? = some e) : Holds (.mk type nested) [4, k] [type] e
  /-- A message in the message holds the enum. -/
  | inner {type : MessageType} {nested : List MessageTree} {j : Nat} {t : MessageTree}
    {place : List Int} {around : List MessageType} {e : EnumType}
    (ht : nested[j]? = some t) (h : Holds t place around e) :
    Holds (.mk type nested) (3 :: j :: place) (type :: around) e

/-- A file holds an enum at a place. -/
inductive FileType.Holds (f : FileType) : List Int → List MessageType → EnumType → Prop
  /-- The enum is at the top. -/
  | top {i : Nat} {e : EnumType} (he : f.enums[i]? = some e) : Holds f [5, i] [] e
  /-- A message at the top holds the enum. -/
  | inside {i : Nat} {t : MessageTree} {place : List Int} {around : List MessageType} {e : EnumType}
    (ht : f.messages[i]? = some t) (h : t.Holds place around e) : Holds f (4 :: i :: place) around e

/-! ## Order -/

/-- Where two places part, the first one leads to an enum and the second one to a message, which has
the smaller field number, or they lead to an earlier and a later declaration of one kind. -/
inductive StandsBefore : List Int → List Int → Prop
  /-- The declarations are of two kinds. -/
  | kind {m n i j : Int} {p q : List Int} (h : n < m) : StandsBefore (m :: i :: p) (n :: j :: q)
  /-- The declarations are of one kind. -/
  | position {n i j : Int} {p q : List Int} (h : i < j) : StandsBefore (n :: i :: p) (n :: j :: q)
  /-- The places part further inside. -/
  | within (n i : Int) {p q : List Int} (h : StandsBefore p q) :
    StandsBefore (n :: i :: p) (n :: i :: q)

/-- No place stands before itself. -/
theorem StandsBefore.ne {p q : List Int} (h : StandsBefore p q) : p ≠ q := by
  induction h with
  | kind h =>
    intro heq
    exact Int.ne_of_gt h (List.cons.inj heq).1
  | position h =>
    intro heq
    exact Int.ne_of_lt h (List.cons.inj (List.cons.inj heq).2).1
  | within n i _ ih =>
    intro heq
    exact ih (List.cons.inj (List.cons.inj heq).2).2

/-! ## Comments -/

/-- The comment that the first location at a place has, or none. -/
inductive HasComment (place : List Int) : List Location → Option String → Prop
  /-- No location is at the place. -/
  | none {locations : List Location} (h : ∀ location ∈ locations, location.path ≠ place) :
    HasComment place locations none
  /-- The locations before the first one at the place are elsewhere. -/
  | first {before after : List Location} {location : Location}
    (hbefore : ∀ other ∈ before, other.path ≠ place) (h : location.path = place) :
    HasComment place (before ++ location :: after) location.leading

end ProtoRest.Descriptor
