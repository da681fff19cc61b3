import ProtoRest.Descriptor.Default
import ProtoRest.Descriptor.Lookup
import ProtoRest.Descriptor.Reading

/-! # Resolving declarations
When every name is defined, the declarations of all files become types: every name that is used is
resolved and the numbers are checked, file by file and from the outside in. The first thing that is
wrong is the fault. -/

namespace ProtoRest.Descriptor

open ProtoRest.Wire

/-- What is known about all files before the first name is resolved. -/
structure Catalog where
  /-- The definitions. -/
  defs : List Definition
  /-- The messages by their full names. -/
  heads : List (String × MessageHead)
  /-- The enums by their full names. -/
  enums : List (String × EnumDecl)

/-- Where declarations stand. -/
structure Place where
  /-- What is known about all files. -/
  catalog : Catalog
  /-- What the file can see. -/
  view : View
  /-- The package. -/
  package : String
  /-- The edition. -/
  edition : Edition

/-! ## Fields -/

/-- The codes of messages, groups and enums. -/
def namedCodes : List Nat := [10, 11, 14]

/-- The code of groups. -/
def groupCode : Nat := 10

/-- The field number of the name of the type in the declaration of a field. -/
def typeNameNumber : Int := 6

/-- The type of a field in a scope. A name decides about the type, whatever its code says. -/
def valueType (p : Place) (scope : String) (path : List Int) (f : FieldDecl) :
    Except PoolFault ValueType :=
  match f.typeName.getD "" with
  | "" =>
    let code := f.typeCode.getD 1
    if code ∈ namedCodes then .error (.missingName (path ++ [typeNameNumber]))
    else .ok (.scalar ((ScalarType.codes.lookup code).getD .double))
  | name => do
    let d ← p.view.resolve .type scope name
    return if d.role = .enum then .enum d.name
      else .message d.name (f.typeCode == some groupCode)

/-- The number of a value of an enum by its name. -/
def Catalog.enumValue? (c : Catalog) (enum value : String) : Option Int := do
  let e ← c.enums.lookup enum
  let v ← e.values.find? (·.name == value)
  return v.number

/-- The default of a field. -/
def defaultOf (p : Place) (type : ValueType) (f : FieldDecl) : Except PoolFault (Option Value) :=
  match f.default with
  | none => .ok none
  | some text =>
    match type.default? p.catalog.enumValue? text with
    | some value => .ok (some value)
    | none => .error (.default text type.shown)

/-- The choice that a field is a member of. -/
def oneofOf (oneofs : List OneofDecl) (f : FieldDecl) : Except PoolFault (Option String) :=
  match f.oneof with
  | none => .ok none
  | some i =>
    match if i < 0 then none else oneofs[i.toNat]? with
    | none => .error .oneofPosition
    | some o => .ok (some o.name)

/-- Whether a number lies in a range without its end. -/
def NumberRange.covers (r : NumberRange) (n : Int) : Bool := r.first ≤ n && n < r.last

/-- Checks the number of a field or an extension against the message that has it. -/
def checkNumber (message : String) (head : MessageHead) (f : FieldDecl) : Except PoolFault Unit := do
  let n := f.number
  unless 1 ≤ n ∧ n ≤ 536870911 ∧ ¬(19000 ≤ n ∧ n ≤ 19999) do throw (.fieldNumber n)
  if let some r := head.reserved.find? (·.covers n) then
    throw (.reservedNumber n r.first (r.last - 1))
  match f.extendee, head.extensible.find? (·.range.covers n) with
  | none, some r => throw (.extensionNumber n r.range.first (r.range.last - 1))
  | some _, none => throw (.notExtensible message n)
  | _, _ => return ()

/-- The name of a field in JSON: letters after underscores are capitals, and these go. -/
def jsonForm (capital : Bool) : List Char → List Char
  | [] => []
  | c :: cs =>
    if c = '_' then jsonForm true cs
    else (if capital then c.toUpper else c) :: jsonForm false cs

/-- The name of a field in JSON. -/
def FieldDecl.json (f : FieldDecl) : String :=
  f.jsonName.getD (String.ofList (jsonForm false f.name.toList))

/-- The type of a field at a place, given its full name and the message that has it. -/
def fieldType (p : Place) (fullName : String) (path : List Int) (message : String)
    (head : MessageHead) (f : FieldDecl) : Except PoolFault FieldType := do
  checkNumber message head f
  let type ← valueType p fullName path f
  let default ← defaultOf p type f
  let oneof ← oneofOf head.oneofs f
  let isMessage :=
    match type with
    | .message _ _ => true
    | .scalar _ | .enum _ => false
  let isRepeated := f.cardinality == .repeated
  return {
    name := f.name
    fullName
    jsonName := f.json
    number := f.number.toNat
    cardinality := f.cardinality
    type
    presence := f.marked || f.oneof.isSome || (!isRepeated && (isMessage || p.edition == .second))
    oneof
    marked := f.marked
    packed := isRepeated && type.wire?.isSome && f.packed.getD (p.edition == .third)
    default }

/-! ## Messages -/

/-- Checks the number and the name of a field against the fields before it. -/
def checkAmong (before : List FieldDecl) (f : FieldDecl) : Except PoolFault Unit := do
  if before.any (·.number == f.number) then throw (.sameNumber f.number)
  if before.any (·.json == f.json) then throw (.sameJsonName (f.jsonName.getD ""))

/-- The fields of a message, given those before them, in declaration order. -/
def fieldTypes (p : Place) (scope : String) (path : List Int) (head : MessageHead)
    (before : List FieldDecl) : List FieldDecl → Except PoolFault (List FieldType)
  | [] => .ok []
  | f :: fs => do
    let type ← fieldType p (inScope scope f.name) (path ++ [2, (before.length : Int)]) scope head f
    -- what is wrong with the field alone comes before what is wrong beside the others
    checkAmong before f
    let types ← fieldTypes p scope path head (f :: before) fs
    return type :: types

/-- Puts a field among fields in the order of their numbers. -/
def insertField (f : FieldType) : List FieldType → List FieldType
  | [] => [f]
  | g :: gs => if f.number < g.number then f :: g :: gs else g :: insertField f gs

/-- Fields in the order of their numbers. -/
def byNumber (fs : List FieldType) : List FieldType := fs.foldr insertField []

/-- The choices of a message with the numbers of their members. -/
def oneofMembers (head : MessageHead) (fields : List FieldType) : List (String × List Nat) :=
  head.oneofs.map fun o =>
    (o.name, (fields.filter (·.oneof == some o.name)).map (·.number))

/-- An extension in a scope at a place. -/
def extensionType (p : Place) (scope : String) (path : List Int) (f : FieldDecl) :
    Except PoolFault ExtensionType := do
  let fullName := inScope scope f.name
  let extendee ← p.view.resolve .message fullName (f.extendee.getD "")
  match p.catalog.heads.lookup extendee.name with
  | none => throw (.undefined extendee.name)
  | some head =>
    let type ← fieldType p fullName path extendee.name head { f with oneof := none }
    return {
      fullName
      extendee := extendee.name
      field := { type with presence := !type.isRepeated } }

/-- Extensions in a scope, given the place of their list and the position of the first one. -/
def extensionTypes (p : Place) (scope : String) (path : List Int) (index : Nat) :
    List FieldDecl → Except PoolFault (List ExtensionType)
  | [] => .ok []
  | f :: fs => do
    let type ← extensionType p scope (path ++ [(index : Int)]) f
    let types ← extensionTypes p scope path (index + 1) fs
    return type :: types

/-! ## Enums -/

/-- Puts a value among values in the order of their numbers; of several with its number, it goes
before the last one. -/
def insertValue (v : EnumValueType) : List EnumValueType → List EnumValueType
  | [] => [v]
  | w :: ws =>
    if w.number < v.number then w :: insertValue v ws
    else if w.number = v.number ∧ ws.any (·.number == v.number) then w :: insertValue v ws
    else v :: w :: ws

/-- Checks the number of a value of an enum. -/
def checkEnumNumber (e : EnumDecl) (n : Int) : Except PoolFault Unit :=
  match e.reserved.find? fun r => r.first ≤ n && n ≤ r.last with
  | some r => .error (.reservedEnumNumber n r.first r.last)
  | none => .ok ()

/-- An enum in a scope. -/
def enumType (p : Place) (scope : String) (e : EnumDecl) : Except PoolFault EnumType := do
  e.values.forM fun v => checkEnumNumber e v.number
  let values := e.values.map fun v : EnumValueDecl =>
    EnumValueType.mk v.name (inScope scope v.name) v.number v.options
  return {
    name := e.name
    fullName := inScope scope e.name
    package := p.package
    values := values.foldl (fun sorted v => insertValue v sorted) []
    -- the first value as declared, whatever its number
    initial := (e.values.head?.map (·.number)).getD 0
    options := e.options }

/-! ## Messages with the messages in them -/

mutual

/-- A message in a scope at a place, with the extensions declared in it. -/
def messageTree (p : Place) (scope : String) (path : List Int) :
    MessageDecl → Except PoolFault (MessageTree × List ExtensionType)
  | .mk head nested => do
    let inner := inScope scope head.name
    let fields ← fieldTypes p inner path head [] head.fields
    let (trees, inTrees) ← messageTrees p inner (path ++ [3]) 0 nested
    let enums ← head.enums.mapM (enumType p inner)
    let extensions ← extensionTypes p inner (path ++ [6]) 0 head.extensions
    let type : MessageType :=
      { name := head.name
        fullName := inner
        package := p.package
        fields := byNumber fields
        oneofs := oneofMembers head fields
        enums
        mapEntry := head.mapEntry }
    -- the extensions in inner messages come first
    return (.mk type trees, inTrees ++ extensions)

/-- Messages in a scope, given the place of their list and the position of the first one, with the
extensions declared in them. -/
def messageTrees (p : Place) (scope : String) (path : List Int) (index : Nat) :
    List MessageDecl → Except PoolFault (List MessageTree × List ExtensionType)
  | [] => .ok ([], [])
  | m :: ms => do
    let (tree, extensions) ← messageTree p scope (path ++ [(index : Int)]) m
    let (trees, more) ← messageTrees p scope path (index + 1) ms
    return (tree :: trees, extensions ++ more)

end

/-! ## The catalog -/

mutual

/-- A message and the messages in it by their full names. -/
def MessageDecl.headsIn (scope : String) : MessageDecl → List (String × MessageHead)
  | .mk head nested =>
    (inScope scope head.name, head) :: headsInAll (inScope scope head.name) nested

/-- Messages in a scope and the messages in them by their full names. -/
def headsInAll (scope : String) : List MessageDecl → List (String × MessageHead)
  | [] => []
  | m :: ms => m.headsIn scope ++ headsInAll scope ms

end

/-- Enums in a scope by their full names. -/
def enumsInScope (scope : String) (enums : List EnumDecl) : List (String × EnumDecl) :=
  enums.map fun e => (inScope scope e.name, e)

/-- The enums of a file by their full names: those in messages, then those at the top. -/
def FileDecl.namedEnums (f : FileDecl) : List (String × EnumDecl) :=
  (headsInAll f.package f.messages).flatMap (fun m => enumsInScope m.1 m.2.enums) ++
    enumsInScope f.package f.enums

/-- What is known about files with definitions. -/
def Catalog.ofFiles (defs : List Definition) (files : List FileDecl) : Catalog where
  defs := defs
  heads := files.flatMap fun f => headsInAll f.package f.messages
  enums := files.flatMap (·.namedEnums)

/-! ## Files -/

/-- A method in the scope of its service. -/
def methodType (p : Place) (scope : String) (m : MethodDecl) : Except PoolFault MethodType := do
  let fullName := inScope scope m.name
  let input ← p.view.resolve .message fullName m.input
  let output ← p.view.resolve .message fullName m.output
  return {
    name := m.name
    fullName
    input := input.name
    output := output.name
    options := m.options
    clientStreaming := m.clientStreaming
    serverStreaming := m.serverStreaming }

/-- A service in the scope of its package. -/
def serviceType (p : Place) (s : ServiceDecl) : Except PoolFault ServiceType := do
  let fullName := inScope p.package s.name
  let methods ← s.methods.mapM (methodType p fullName)
  return { name := s.name, fullName, methods, options := s.options }

/-- Checks the imports of a file. -/
def checkImports (files : List FileDecl) (f : FileDecl) : Except PoolFault Unit := do
  if let some name := f.imports.find? fun name => !files.any (·.name == name) then
    throw (.missingImport name)
  if (f.publicImports ++ f.weakImports).any fun i => i < 0 || f.imports.length ≤ i.toNat then
    throw .importPosition

/-- A file among all files, given those before it. -/
def fileType (catalog : Catalog) (files before : List FileDecl) (f : FileDecl) (edition : Edition) :
    Except PoolFault FileType := do
  checkImports files f
  let p : Place :=
    { catalog, view := viewOf before catalog.defs f, package := f.package, edition }
  let (messages, inMessages) ← messageTrees p f.package [4] 0 f.messages
  let enums ← f.enums.mapM (enumType p f.package)
  let services ← f.services.mapM (serviceType p)
  let extensions ← extensionTypes p f.package [7] 0 f.extensions
  return {
    name := f.name
    package := f.package
    messages
    enums
    services
    extensions := inMessages ++ extensions
    locations := f.locations }

/-- The types of files with their editions, given the files before them. -/
def fileTypes (catalog : Catalog) (files before : List FileDecl) :
    List (FileDecl × Edition) → Except PoolFault (List FileType)
  | [] => .ok []
  | (f, edition) :: fs => do
    let type ← fileType catalog files before f edition
    let types ← fileTypes catalog files (before ++ [f]) fs
    return type :: types

/-- The types of all files with their editions. -/
def Pool.ofFiles (defs : List Definition) (files : List (FileDecl × Edition)) :
    Except PoolFault Pool := do
  let decls := files.map (·.1)
  let types ← fileTypes (.ofFiles defs decls) decls [] files
  return { files := types }

end ProtoRest.Descriptor
