import ProtoRest.Descriptor.OptionTypes
import ProtoRest.Descriptor.Aggregate
import ProtoRest.Descriptor.OpenOption
import ProtoRest.Descriptor.Settle
import ProtoRest.Descriptor.Plain
import ProtoRest.Proofs.Result

/-! # Reading with a plain pool
Nothing that is read by the types of a pool depends on the options of its enums: whatever is looked up
in a plain pool is what the pool itself has, in plain form, and messages, aggregates and options are
read alike (`readMessage_plain`, `read?_plain`, `options_plain`). -/

namespace ProtoRest.Descriptor

open ProtoRest.Wire

/-! ## Looking up -/

/-- A plain enum has the plain values of the enum. -/
theorem EnumType.plain_values (e : EnumType) : e.plain.values = e.values.map .plain := rfl

/-- A plain message keeps its name. -/
@[simp] theorem MessageType.plain_name (m : MessageType) : m.plain.name = m.name := rfl

/-- A plain message keeps its full name. -/
@[simp] theorem MessageType.plain_fullName (m : MessageType) : m.plain.fullName = m.fullName := rfl

/-- A plain message keeps its fields, with their options. -/
@[simp] theorem MessageType.plain_fields (m : MessageType) : m.plain.fields = m.fields := rfl

/-- A plain message keeps its choices. -/
@[simp] theorem MessageType.plain_oneofs (m : MessageType) : m.plain.oneofs = m.oneofs := rfl

/-- A plain message is an entry of a map when the message is. -/
@[simp] theorem MessageType.plain_mapEntry (m : MessageType) : m.plain.mapEntry = m.mapEntry := rfl

/-- A plain message has the same field under a number. -/
@[simp] theorem MessageType.field?_plain (m : MessageType) (number : Nat) :
    m.plain.field? number = m.field? number := rfl

mutual

/-- The messages of a plain tree are the plain messages of the tree, in order. -/
theorem flatten_plain : ∀ t : MessageTree, t.plain.flatten = t.flatten.map MessageType.plain
  | .mk type nested => by
    rw [MessageTree.plain, MessageTree.flatten, MessageTree.flatten, List.map_cons,
      flattenTrees_plain]

/-- The messages of plain trees are the plain messages of the trees, in order. -/
theorem flattenTrees_plain : ∀ ts : List MessageTree,
    flattenTrees (plainTrees ts) = (flattenTrees ts).map MessageType.plain
  | [] => rfl
  | t :: ts => by
    rw [plainTrees, flattenTrees, flattenTrees, List.map_append, flatten_plain, flattenTrees_plain]

end

namespace Pool

variable (p : Pool)

/-- The messages of a plain pool are the plain messages of the pool. -/
theorem messages_plain : p.plain.messages = p.messages.map MessageType.plain := by
  simp only [messages, plain, List.flatMap_map, List.map_flatMap, FileType.plain,
    flattenTrees_plain]

/-- A plain pool has the plain message of a name. -/
@[simp] theorem message?_plain (name : String) :
    p.plain.message? name = (p.message? name).map MessageType.plain := by
  rw [message?, messages_plain, List.find?_map]
  rfl

/-- The enums of a plain pool are the plain enums of the pool. -/
theorem enums_plain : p.plain.enums = p.enums.map EnumType.plain := by
  simp only [enums, plain, List.flatMap_map, List.map_flatMap, FileType.plain,
    flattenTrees_plain, List.map_append, MessageType.plain]

/-- A plain pool has the plain enum of a name. -/
@[simp] theorem enum?_plain (name : String) :
    p.plain.enum? name = (p.enum? name).map EnumType.plain := by
  rw [enum?, enums_plain, List.find?_map]
  rfl

/-- A plain pool has the same extensions, which are fields and no enums. -/
theorem extensions_plain : p.plain.extensions = p.extensions := by
  simp only [extensions, plain, List.flatMap_map, FileType.plain]

/-- A plain pool has the same extension under a name. -/
@[simp] theorem extension?_plain (name : String) : p.plain.extension? name = p.extension? name := by
  rw [extension?, extensions_plain, extension?]

/-- The field of a message under a number, extensions included, is the same in a plain pool. -/
@[simp] theorem fieldOf?_plain (m : MessageType) (number : Nat) :
    p.plain.fieldOf? m.plain number = p.fieldOf? m number := by
  rw [fieldOf?, fieldOf?, extensions_plain, MessageType.field?_plain, MessageType.plain_fullName]

/-- The entry of a map field is the plain entry. -/
@[simp] theorem mapEntry?_plain (f : FieldType) :
    p.plain.mapEntry? f = (p.mapEntry? f).map MessageType.plain := by
  rw [Pool.mapEntry?, Pool.mapEntry?]
  cases f.type with
  | message name grouped =>
    cases f.isRepeated with
    | false => rfl
    | true =>
      simp only [message?_plain, Option.filter_map, if_true]
      rfl
  | scalar type => rfl
  | enum name => rfl

/-- A plain pool has the plain file of a name. -/
@[simp] theorem file?_plain (name : String) :
    p.plain.file? name = (p.file? name).map FileType.plain := by
  rw [file?, plain, List.find?_map]
  rfl

/-! ## Defaults -/

/-- The number of a value of an enum is no option, so it stays. -/
@[simp] theorem enumNumber?_plain (enum value : String) :
    p.plain.enumNumber? enum value = p.enumNumber? enum value := by
  rw [enumNumber?, enumNumber?, enum?_plain]
  cases p.enum? enum with
  | none => rfl
  | some e =>
    have hvalue : e.plain.values.find? (·.name == value) =
        (e.values.find? (·.name == value)).map EnumValueType.plain := by
      rw [EnumType.plain_values, List.find?_map]
      rfl
    show (e.plain.values.find? (·.name == value) >>= fun v => some v.number) =
      (e.values.find? (·.name == value) >>= fun v => some v.number)
    rw [hvalue]
    cases e.values.find? (·.name == value) <;> rfl

/-- The first value of an enum stays. -/
@[simp] theorem initial_plain (name : String) :
    (p.plain.enum? name).map (·.initial) = (p.enum? name).map (·.initial) := by
  rw [enum?_plain, Option.map_map]
  rfl

/-- The default of a field stays, also where it is a value of an enum. -/
@[simp] theorem defaultOf_plain (f : FieldType) : p.plain.defaultOf f = p.defaultOf f := by
  simp only [defaultOf, initial_plain]

/-- The zero of a type stays, also where it is the first value of an enum. -/
@[simp] theorem zeroRaw_plain (type : ValueType) : p.plain.zeroRaw type = p.zeroRaw type := by
  simp only [zeroRaw, initial_plain]

end Pool

/-! ## Reading -/

variable (p : Pool)

/-- Messages are read from bytes by the same grammar. -/
@[simp] theorem poolGrammar_plain : poolGrammar p.plain = poolGrammar p := by
  funext message number
  rw [poolGrammar, poolGrammar, Pool.message?_plain]
  cases p.message? message with
  | none => rfl
  | some m => simp

/-- A value is collected into the same slots. -/
@[simp] theorem addValue_plain (m : MessageType) :
    addValue p.plain m.plain = addValue p m := by
  funext slots field
  simp only [addValue, Pool.fieldOf?_plain, clearRivals, MessageType.field?_plain]

/-- The order of slots depends on the fields of a message alone. -/
@[simp] theorem ownFirst_plain (m : MessageType) : ownFirst m.plain = ownFirst m := rfl

/-- An entry of a map is completed by the same defaults. -/
@[simp] theorem entryParts_plain (m : MessageType) : entryParts p.plain m.plain = entryParts p m := by
  funext fields
  simp only [entryParts, MessageType.field?_plain, Pool.zeroRaw_plain]

/-- The canonical values of a field stay. -/
@[simp] theorem canonicalValues_plain : canonicalValues p.plain = canonicalValues p := by
  funext f inner raws
  rw [canonicalValues, canonicalValues, Pool.mapEntry?_plain]
  cases p.mapEntry? f with
  | none => rfl
  | some entry => simp only [Option.map_some, entryParts_plain]

/-- The canonical form of one level of a message stays. -/
@[simp] theorem canonicalLevel_plain : canonicalLevel p.plain = canonicalLevel p := by
  funext inner message fields
  rw [canonicalLevel, canonicalLevel, Pool.message?_plain]
  cases p.message? message with
  | none => rfl
  | some m => simp only [Option.map_some, addValue_plain, ownFirst_plain, Pool.fieldOf?_plain,
      canonicalValues_plain]

/-- The canonical form stays down to any depth. -/
@[simp] theorem canonicalAt_plain (depth : Nat) : canonicalAt p.plain depth = canonicalAt p depth := by
  induction depth with
  | zero =>
    funext message fields
    rw [canonicalAt, canonicalAt, canonicalLevel_plain]
  | succ depth ih =>
    funext message fields
    rw [canonicalAt, canonicalAt, canonicalLevel_plain, ih]

/-- The canonical form of options does not depend on the options of enums. -/
@[simp] theorem canonical_plain : canonical p.plain = canonical p := by
  funext message fields
  rw [canonical, canonical, canonicalAt_plain]

/-- Whether the maps of one level are whole stays. -/
@[simp] theorem hasWholeMapsLevel_plain : hasWholeMapsLevel p.plain = hasWholeMapsLevel p := by
  funext inner message fields
  rw [hasWholeMapsLevel, hasWholeMapsLevel, Pool.message?_plain]
  cases p.message? message with
  | none => rfl
  | some m =>
    have hmaps (f : FieldType) : (p.plain.mapEntry? f).all isWholeEntry =
        (p.mapEntry? f).all isWholeEntry := by
      rw [Pool.mapEntry?_plain, Option.all_map]
      rfl
    simp only [Option.map_some, Pool.fieldOf?_plain, hmaps]

/-- Whether maps are whole down to any depth stays. -/
@[simp] theorem hasWholeMapsAt_plain (depth : Nat) :
    hasWholeMapsAt p.plain depth = hasWholeMapsAt p depth := by
  induction depth with
  | zero =>
    funext message fields
    rw [hasWholeMapsAt, hasWholeMapsAt, hasWholeMapsLevel_plain]
  | succ depth ih =>
    funext message fields
    rw [hasWholeMapsAt, hasWholeMapsAt, hasWholeMapsLevel_plain, ih]

/-- Whether the maps of a message are whole stays. -/
@[simp] theorem hasWholeMaps_plain : hasWholeMaps p.plain = hasWholeMaps p := by
  funext message fields
  rw [hasWholeMaps, hasWholeMaps, hasWholeMapsAt_plain]

/-- A message is read from bytes alike. -/
@[simp] theorem readMessage_plain : readMessage p.plain = readMessage p := by
  funext message bs
  rw [readMessage, readMessage, poolGrammar_plain, canonical_plain]

/-! ## Aggregates -/

namespace Aggregate

/-- Whether an enum has a value of a number stays. -/
theorem hasNumber_plain (name : String) (n : Int) :
    (p.plain.enum? name).any (·.values.any (·.number == n)) =
      (p.enum? name).any (·.values.any (·.number == n)) := by
  rw [Pool.enum?_plain]
  cases p.enum? name with
  | none => rfl
  | some e =>
    show (e.values.map EnumValueType.plain).any (·.number == n) = e.values.any (·.number == n)
    rw [List.any_map]
    rfl

/-- A number in a text stands for the same value, also where it is that of an enum. -/
@[simp] theorem numeral?_plain : numeral? p.plain = numeral? p := by
  funext type negative cs
  simp only [numeral?, hasNumber_plain]

/-- A word in a text stands for the same value, also where it names one of an enum. -/
@[simp] theorem wordValue?_plain : wordValue? p.plain = wordValue? p := by
  funext type negative word
  simp only [wordValue?, Pool.enumNumber?_plain]

/-- A scalar is read from a text alike. -/
@[simp] theorem scalar?_plain : scalar? p.plain = scalar? p := by
  funext type tokens
  simp only [scalar?, numeral?_plain, wordValue?_plain]

/-- A field that a text names is the same. -/
@[simp] theorem field?_plain (m : MessageType) : field? p.plain m.plain = field? p m := by
  funext tokens
  simp only [field?, MessageType.plain_fields, MessageType.plain_fullName, Pool.extension?_plain]
  rfl

/-- A value is read from a text alike. -/
@[simp] theorem value?_plain : value? p.plain = value? p := by
  funext fields f tokens
  simp only [value?, scalar?_plain]

/-- The fields of a message are read from a text alike. -/
@[simp] theorem fields?_plain (fuel : Nat) : fields? p.plain fuel = fields? p fuel := by
  have htaken (m : MessageType) : isTaken m.plain = isTaken m := rfl
  induction fuel with
  | zero => rfl
  | succ fuel ih =>
    funext before message ending tokens
    rw [fields?, fields?, Pool.message?_plain]
    -- each case is brought to its branch before both sides are compared, as the other branch is large
    cases ending.reached? tokens with
    | some rest => simp only
    | none =>
      cases p.message? message with
      | none => simp only [Option.map_none, Option.bind_eq_bind, Option.bind_none]
      | some m =>
        simp only [Option.map_some, ih, value?_plain, Option.bind_eq_bind, Option.bind_some,
          field?_plain, htaken]

/-- A message is read from a text alike. -/
@[simp] theorem read?_plain : read? p.plain = read? p := by
  funext message s
  simp only [read?, fields?_plain]

end Aggregate

/-! ## Options -/

/-- An option that is written by its name stands for the same value. -/
@[simp] theorem raw?_plain (o : OpenOption) : o.raw? p.plain = o.raw? p := by
  have hnumber (name : String) : p.plain.enumNumber? name = p.enumNumber? name :=
    funext (p.enumNumber?_plain name)
  funext type
  unfold OpenOption.raw?
  simp only [hnumber, Aggregate.read?_plain]

/-- The type of a field is shown alike. -/
@[simp] theorem shownType_plain (f : FieldType) : p.plain.shownType f = p.shownType f := by
  rw [Pool.shownType, Pool.shownType, Pool.mapEntry?_plain]
  cases p.mapEntry? f <;> rfl

/-- The standard types have no options. -/
theorem plain_standardOptions : standardOptions.plain = standardOptions := by
  rfl

/-- The pool that options are read with is that of a plain pool, made plain. -/
@[simp] theorem forOptions_plain (owner : OptionOwner) :
    p.plain.forOptions owner = (p.forOptions owner).plain := by
  rw [Pool.forOptions, Pool.forOptions, Pool.message?_plain, Option.isSome_map]
  split
  · rfl
  · exact plain_standardOptions.symm

/-- Where options stand, seen in plain pools. -/
def OptionSite.plain (s : OptionSite) : OptionSite :=
  { s with pool := s.pool.plain, types := s.types.plain }

/-- An option that is set names the same field. -/
@[simp] theorem OptionSite.field_plain (s : OptionSite) : s.plain.field = s.field := by
  funext scope message part
  have hfield : ((s.types.plain.message? message).bind fun m =>
      m.fields.find? (·.name == part.text)) =
        (s.types.message? message).bind fun m => m.fields.find? (·.name == part.text) := by
    rw [Pool.message?_plain, Option.bind_map]
    rfl
  rw [OptionSite.field, OptionSite.field]
  simp only [OptionSite.plain, Pool.extension?_plain, hfield]

/-- An option that is set adds the same fields. -/
@[simp] theorem OptionSite.addition_plain (s : OptionSite) (scope : String) (o : OpenOption)
    (before : List OptionPart) (message : String) (fields : Fields) (parts : List OptionPart) :
    s.plain.addition scope o before message fields parts =
      s.addition scope o before message fields parts := by
  induction parts generalizing before message fields with
  | nil => rfl
  | cons part parts ih =>
    have hraw : o.raw? s.plain.types = o.raw? s.types := raw?_plain s.types o
    have hshown (f : FieldType) : s.plain.types.shownType f = s.types.shownType f :=
      shownType_plain s.types f
    rw [OptionSite.addition, OptionSite.addition]
    simp only [OptionSite.field_plain, hraw, hshown, ih]

/-- To set an option does not depend on the options of enums. -/
@[simp] theorem OptionSite.set_plain (s : OptionSite) : s.plain.set = s.set := by
  have hcanonical : canonical s.plain.types = canonical s.types := canonical_plain s.types
  funext scope message fields o
  rw [OptionSite.set, OptionSite.set]
  simp only [OptionSite.addition_plain, hcanonical]

/-- A settler that sees a plain pool. -/
def Settler.plain (s : Settler) : Settler := { s with pool := s.pool.plain }

/-- Options are settled alike with a plain pool. -/
@[simp] theorem Settler.options_plain (s : Settler) : s.plain.options = s.options := by
  funext owner scope options
  have htypes : s.plain.pool.forOptions owner = (s.pool.forOptions owner).plain :=
    forOptions_plain s.pool owner
  have hset : OptionSite.set ⟨s.plain.pool, s.plain.view, (s.pool.forOptions owner).plain⟩ =
      OptionSite.set ⟨s.pool, s.view, s.pool.forOptions owner⟩ :=
    OptionSite.set_plain ⟨s.pool, s.view, s.pool.forOptions owner⟩
  rw [Settler.options, Settler.options]
  simp only [htypes, hset, readMessage_plain, hasWholeMaps_plain]

end ProtoRest.Descriptor
