import ProtoRest.Descriptor.Reading
import ProtoRest.Descriptor.Fault

/-! # Definitions
Every declaration defines a name. Packages may be defined any number of times, all else once in all
files together. What is wrong with a declaration as it stands, whatever other names mean, is found on
the way: an enum without values, a first value that is not zero, and fields of a message whose names
are alike. -/

namespace ProtoRest.Descriptor

/-- What a name stands for. -/
inductive Role
  /-- A package. -/
  | package
  /-- A message. -/
  | message
  /-- A field. -/
  | field
  /-- A choice. -/
  | oneof
  /-- An enum. -/
  | enum
  /-- A value of an enum. -/
  | enumValue
  /-- A service. -/
  | service
  /-- A method. -/
  | method
  /-- An extension. -/
  | extension
  deriving DecidableEq, Repr

/-- Whether other names can be in the scope of a name. -/
def Role.isScope : Role → Bool
  | .package | .message | .enum | .service => true
  | .field | .oneof | .enumValue | .method | .extension => false

/-- A name with what it stands for. -/
structure Definition where
  /-- The full name. -/
  name : String
  /-- What it stands for. -/
  role : Role
  /-- The file that defines it. -/
  file : String
  deriving DecidableEq, Repr

/-- A name in a scope. -/
def inScope (scope name : String) : String := if scope = "" then name else scope ++ "." ++ name

/-- The scopes around a name, from the outside in, the name itself included. -/
def scopesUpTo (before : List Char) : List Char → List String
  | [] => [String.ofList before]
  | c :: cs =>
    if c = '.' then String.ofList before :: scopesUpTo (before ++ [c]) cs
    else scopesUpTo (before ++ [c]) cs

/-! ## Editions -/

/-- The editions of the language. -/
inductive Edition
  /-- The second. -/
  | second
  /-- The third. -/
  | third
  deriving DecidableEq, Repr

/-- The edition of a file, when it is known. -/
def FileDecl.edition? (f : FileDecl) : Option Edition :=
  match f.edition with
  | none | some "proto2" => some .second
  | some "proto3" => some .third
  | some _ => none

/-! ## Findings -/

/-- What is found at a place of a file. -/
inductive Finding
  /-- A name is defined. -/
  | defines (d : Definition)
  /-- Something is wrong. -/
  | wrong (fault : PoolFault)
  deriving DecidableEq, Repr

/-- A file while its names are collected. -/
structure Source where
  /-- The path of the file. -/
  file : String
  /-- The edition. -/
  edition : Edition

/-- The definition of a name. -/
def Source.defines (s : Source) (scope name : String) (role : Role) : Finding :=
  .defines ⟨inScope scope name, role, s.file⟩

/-- A name without underscores and in lower case. -/
def similarForm (name : String) : String :=
  String.ofList ((name.toList.filter (· ≠ '_')).map Char.toLower)

/-- The first two names that are alike but for case and underscores, given the names before. -/
def similar? (seen : List (String × String)) : List String → Option (String × String)
  | [] => none
  | name :: names =>
    match seen.lookup (similarForm name) with
    | some first => some (first, name)
    | none => similar? ((similarForm name, name) :: seen) names

/-- What is found in an enum: its values are in the scope around it. -/
def EnumDecl.findings (s : Source) (scope : String) (e : EnumDecl) : List Finding :=
  s.defines scope e.name .enum ::
    (match e.values with
     | [] => [.wrong .emptyEnum]
     | v :: _ => if s.edition = .third ∧ v.number ≠ 0 then [.wrong .firstValue] else []) ++
    e.values.map fun v => s.defines scope v.name .enumValue

/-- What is wrong with the names of the fields of a message. -/
def MessageHead.nameFindings (s : Source) (head : MessageHead) : List Finding :=
  match s.edition with
  | .second => []
  | .third =>
    match similar? [] (head.fields.map (·.name)) with
    | none => []
    | some (first, second) => [.wrong (.similarNames first second)]

mutual

/-- What is found in a message. -/
def MessageDecl.findings (s : Source) (scope : String) : MessageDecl → List Finding
  | .mk head nested =>
    let inner := inScope scope head.name
    s.defines scope head.name .message ::
      (head.nameFindings s ++
        head.oneofs.map (fun o => s.defines inner o.name .oneof) ++
        head.fields.map (fun f => s.defines inner f.name .field) ++
        nestedFindings s inner nested ++
        head.enums.flatMap (·.findings s inner) ++
        head.extensions.map fun x => s.defines inner x.name .extension)

/-- What is found in messages. -/
def nestedFindings (s : Source) (scope : String) : List MessageDecl → List Finding
  | [] => []
  | m :: ms => m.findings s scope ++ nestedFindings s scope ms

end

/-- What is found in a service. -/
def ServiceDecl.findings (s : Source) (scope : String) (d : ServiceDecl) : List Finding :=
  s.defines scope d.name .service ::
    d.methods.map fun m => s.defines (inScope scope d.name) m.name .method

/-- What is found in a file. -/
def FileDecl.findings (f : FileDecl) (edition : Edition) : List Finding :=
  let s : Source := ⟨f.name, edition⟩
  (if f.package = "" then []
   else (scopesUpTo [] f.package.toList).map fun name => s.defines "" name .package) ++
    nestedFindings s f.package f.messages ++
    f.enums.flatMap (·.findings s f.package) ++
    f.services.flatMap (·.findings s f.package) ++
    f.extensions.map fun x => s.defines f.package x.name .extension

/-! ## All definitions -/

/-- Adds a definition to others. -/
def define (defs : List Definition) (d : Definition) : Except PoolFault (List Definition) :=
  match defs.find? (·.name == d.name) with
  | none => .ok (defs ++ [d])
  | some first =>
    if first.role = .package ∧ d.role = .package then .ok defs
    else if first.file = d.file then .error (.twice d.name)
    else .error (.elsewhere d.name first.file)

/-- Adds what is found at a place to the definitions. -/
def addFinding (defs : List Definition) : Finding → Except PoolFault (List Definition)
  | .defines d => define defs d
  | .wrong fault => .error fault

/-- The definitions of files, given the names of the files before them and their definitions. -/
def definitionsFrom (files : List String) (defs : List Definition) :
    List (FileDecl × Edition) → Except PoolFault (List Definition)
  | [] => .ok defs
  | (f, edition) :: fs =>
    if f.name ∈ files then .error (.sameFile f.name)
    else do
      let defs ← (f.findings edition).foldlM addFinding defs
      definitionsFrom (f.name :: files) defs fs

/-- The definitions of all files with their editions. -/
def definitionsOf (files : List (FileDecl × Edition)) : Except PoolFault (List Definition) :=
  definitionsFrom [] [] files

end ProtoRest.Descriptor
