import ProtoRest.Descriptor.Definition

/-! # Looking up names
A name with a dot in front is a full name. Any other name is looked up in the scope where it stands
and in the scopes around it, the nearest first; of a name with several parts, the first part decides
about the scope: the nearest scope in which it can have other names in it is the only one that
counts. Only what the file itself or one of its imports defines can be found. -/

namespace ProtoRest.Descriptor

/-- What a name has to stand for. -/
inductive Need
  /-- A message. -/
  | message
  /-- A message or an enum. -/
  | type
  /-- An extension. -/
  | extension
  deriving DecidableEq, Repr

/-- Whether a role meets a need. -/
def Need.accepts : Need → Role → Bool
  | .message, .message | .type, .message | .type, .enum | .extension, .extension => true
  | _, _ => false

/-- What is needed, in messages. -/
def Need.text : Need → String
  | .message => "a message type"
  | .type => "a message or enum type"
  | .extension => "an extension"

/-- What a file can see. -/
structure View where
  /-- All definitions. -/
  defs : List Definition
  /-- The file and its imports. -/
  files : List String
  deriving Repr

/-- The result of a lookup. -/
inductive Lookup
  /-- The name is found. -/
  | found (d : Definition)
  /-- It stands for something else. -/
  | otherRole (name : String)
  /-- It is defined in a file that is not imported. -/
  | notImported (name : String)
  /-- Its first part is found, but not the whole of it. -/
  | hidden (nearer : String)
  /-- It is not found. -/
  | missing
  deriving DecidableEq, Repr

/-- The definition of a full name. -/
def View.definition? (v : View) (name : String) : Option Definition :=
  v.defs.find? (·.name == name)

/-- Looks up a full name. A package belongs to the file that defines it first. -/
def View.lookupFull (v : View) (need : Need) (name : String) : Lookup :=
  match v.definition? name with
  | none => .missing
  | some d =>
    if d.file ∉ v.files then .notImported name
    else if need.accepts d.role then .found d
    else .otherRole name

/-- The first result that was found; else the first that is not missing. -/
def firstFound : List Lookup → Lookup
  | [] => .missing
  | .found d :: _ => .found d
  | .missing :: ls => firstFound ls
  | l :: ls =>
    match firstFound ls with
    | .found d => .found d
    | _ => l

/-- The first part of a name. -/
def firstPart (name : String) : String := String.ofList (name.toList.takeWhile (· ≠ '.'))

/-- The scopes around a name, from the inside out, the name itself and the outermost scope
included. -/
def scopesAround (scope : String) : List String := (scopesUpTo [] scope.toList).reverse ++ [""]

/-- Whether a full name can have other names in it. -/
def View.isScope (v : View) (name : String) : Bool :=
  (v.definition? name).any (·.role.isScope)

/-- Looks up a name of several parts by the scope in which its first part stands. -/
def View.lookupParts (v : View) (need : Need) (scope name : String) : Lookup :=
  match (scopesAround scope).find? fun s => v.isScope (inScope s (firstPart name)) with
  | none => .missing
  | some s =>
    match v.lookupFull need (inScope s name) with
    | .missing => .hidden (inScope s name)
    | l => l

/-- Looks up a name that stands in a scope. -/
def View.lookup (v : View) (need : Need) (scope name : String) : Lookup :=
  match name.toList with
  | '.' :: rest => v.lookupFull need (String.ofList rest)
  | _ =>
    if scope = "" then v.lookupFull need name
    -- a name of one part is tried in every scope, and one of several parts in the nearest that
    -- fits
    else if firstPart name = name then
      firstFound ((scopesAround scope).map fun s => v.lookupFull need (inScope s name))
    else v.lookupParts need scope name

/-- What a name stands for. -/
def View.resolve (v : View) (need : Need) (scope name : String) : Except PoolFault Definition :=
  match v.lookup need scope name with
  | .found d => .ok d
  | .otherRole full => .error (.otherRole full need.text)
  | .notImported full => .error (.undefined full)
  | .hidden nearer => .error (.hidden name nearer)
  | .missing => .error (.undefined name)

/-! ## Imports -/

/-- The imports that a file passes on. -/
def FileDecl.passedOn (f : FileDecl) : List String :=
  f.publicImports.filterMap fun i => if i < 0 then none else f.imports[i.toNat]?

/-- The files that come with imports, as many steps away as files can be. -/
def reach (files : List FileDecl) : Nat → List String → List String
  | 0, names => names
  | steps + 1, names =>
    let more := names.flatMap fun name =>
      match files.find? (·.name == name) with
      | none => []
      | some f => f.passedOn
    reach files steps (names ++ more.eraseDups.filter (!names.contains ·))

/-- What a file can see, given the files before it: only these pass on what they import. -/
def viewOf (before : List FileDecl) (defs : List Definition) (f : FileDecl) : View where
  defs := defs
  files := f.name :: reach before before.length f.imports

end ProtoRest.Descriptor
