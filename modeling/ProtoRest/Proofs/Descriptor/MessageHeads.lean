import ProtoRest.Proofs.Descriptor.BuildSteps

/-! # Messages in messages
The messages of a file, with those in them, stand in one list. Settling options and making types both
go through that list one by one (`heads_of_settled_messages`, `heads_of_messageTrees`), so what is
said about single messages carries over to files. -/

namespace ProtoRest.Descriptor

open Result

/-- A message and the one with settled options. -/
structure IsSettledHead (s : Settler) (m settled : String × MessageHead) : Prop where
  /-- They have one full name. -/
  name : settled.1 = m.1
  /-- The fields are settled. -/
  fields : m.2.fields.mapM (s.field m.1) = .ok settled.2.fields
  /-- The enums are settled. -/
  enums : m.2.enums.mapM (s.enum m.1) = .ok settled.2.enums

/-- A declared message and the type that is made of it at a place. -/
structure IsMadeOf (p : Place) (m : String × MessageHead) (type : MessageType) : Prop where
  /-- They have one full name. -/
  name : type.fullName = m.1
  /-- The fields are made one by one and put in the order of their numbers. -/
  fields : ∃ path fields, fieldTypes p m.1 path m.2 [] m.2.fields = .ok fields ∧
    type.fields = byNumber fields
  /-- The enums are made one by one. -/
  enums : m.2.enums.mapM (enumType p m.1) = .ok type.enums
  /-- Both are entries of a map, or neither is. -/
  mapEntry : type.mapEntry = m.2.mapEntry

/-! ## Settled messages -/

section Settled

variable {s : Settler}

mutual

/-- A settled message has the settled heads of the message and of all nested in it, in order. -/
theorem heads_of_settled_message : ∀ {m settled : MessageDecl} {scope : String},
    s.message scope m = .ok settled →
      List.Forall₂ (IsSettledHead s) (m.headsIn scope) (settled.headsIn scope)
  | .mk head nested, settled, scope, h => by
    obtain ⟨_, -, _, -, _, -, fields, hfields, messages, hnested, enums, henums, _, -, rfl⟩ :=
      settledMessage_eq_ok_iff.mp h
    rw [MessageDecl.headsIn, MessageDecl.headsIn]
    exact .cons ⟨rfl, hfields, henums⟩ (heads_of_settled_messages hnested)

/-- Settled messages have the settled heads of the messages and of all nested in them, in order. -/
theorem heads_of_settled_messages : ∀ {ms settled : List MessageDecl} {scope : String},
    s.messages scope ms = .ok settled →
      List.Forall₂ (IsSettledHead s) (headsInAll scope ms) (headsInAll scope settled)
  | [], settled, scope, h => by
    obtain rfl := settledMessages_nil_eq_ok_iff.mp h
    exact .nil
  | m :: ms, settled, scope, h => by
    obtain ⟨first, hfirst, more, hmore, rfl⟩ := settledMessages_cons_eq_ok_iff.mp h
    rw [headsInAll, headsInAll]
    exact List.rel_append (heads_of_settled_message hfirst) (heads_of_settled_messages hmore)

end

end Settled

/-! ## Types of messages -/

section Types

variable {p : Place}

mutual

/-- The types built of a message are made of its heads, in order. -/
theorem heads_of_messageTree : ∀ {m : MessageDecl} {scope : String} {path : List Int}
    {tree : MessageTree} {extensions : List ExtensionType},
      messageTree p scope path m = .ok (tree, extensions) →
        List.Forall₂ (IsMadeOf p) (m.headsIn scope) tree.flatten
  | .mk head nested, scope, path, tree, extensions, h => by
    obtain ⟨fields, trees, _, enums, _, hfields, htrees, henums, -, rfl, -⟩ := messageTree_eq_ok h
    rw [MessageTree.flatten, MessageDecl.headsIn]
    exact .cons ⟨rfl, ⟨path, fields, hfields, rfl⟩, henums, rfl⟩ (heads_of_messageTrees htrees)

/-- The types built of several messages are made of their heads, in order. -/
theorem heads_of_messageTrees : ∀ {ms : List MessageDecl} {scope : String} {path : List Int}
    {index : Nat} {trees : List MessageTree} {extensions : List ExtensionType},
      messageTrees p scope path index ms = .ok (trees, extensions) →
        List.Forall₂ (IsMadeOf p) (headsInAll scope ms) (flattenTrees trees)
  | [], scope, path, index, trees, extensions, h => by
    rw [messageTrees] at h
    obtain ⟨rfl, -⟩ := Prod.ext_iff.mp (Except.ok.inj h)
    exact .nil
  | m :: ms, scope, path, index, trees, extensions, h => by
    obtain ⟨tree, more, _, _, htree, hmore, rfl, -⟩ := messageTrees_cons_eq_ok h
    rw [flattenTrees, headsInAll]
    exact List.rel_append (heads_of_messageTree htree) (heads_of_messageTrees hmore)

end

end Types

end ProtoRest.Descriptor
