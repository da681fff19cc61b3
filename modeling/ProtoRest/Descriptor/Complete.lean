import ProtoRest.Descriptor.Settle

/-! # The pool of a schema
The declarations of all files become a pool in four steps: the names are collected, then every name
that is used is resolved, then the options are settled, and last the numbers of the values of enums
are compared, since an option may allow that several are the same. A step begins when the one before
it has been taken for all files. An edition of the language that is not known stops the work. -/

namespace ProtoRest.Descriptor

/-- The first number that a value of an enum shares with a value before it. -/
def sharedNumber? (before : List Int) : List Int → Option Int
  | [] => none
  | n :: ns => if n ∈ before then some n else sharedNumber? (n :: before) ns

/-- Checks that no two values of an enum have the same number, unless they may. -/
def EnumDecl.checkNumbers (e : EnumDecl) : Except PoolFault Unit :=
  if e.allowsAlias then .ok ()
  else
    match sharedNumber? [] (e.values.map (·.number)) with
    | some n => .error (.sameEnumNumber n)
    | none => .ok ()

mutual

/-- The enums in a message: those in the messages in it come first. -/
def MessageDecl.allEnums : MessageDecl → List EnumDecl
  | .mk head nested => allEnumsIn nested ++ head.enums

/-- The enums in messages. -/
def allEnumsIn : List MessageDecl → List EnumDecl
  | [] => []
  | m :: ms => m.allEnums ++ allEnumsIn ms

end

/-- The enums of a file: those in messages, then those at the top. -/
def FileDecl.allEnums (f : FileDecl) : List EnumDecl := allEnumsIn f.messages ++ f.enums

/-- The failure of a pool that cannot be built. -/
def poolFailure (fault : PoolFault) : Failure :=
  .fault (.decode ("failed to build descriptor pool: " ++ fault.message))

/-- The failure of options that cannot be settled. -/
def OptionFailure.failure : OptionFailure → Failure
  | .fault found => poolFailure found
  | .crash => .crash

/-- The pool of files with their editions. -/
def Pool.ofEditions (files : List (FileDecl × Edition)) : Except Failure Pool := do
  let defs ← (definitionsOf files).mapError poolFailure
  let pool ← (Pool.ofFiles defs files).mapError poolFailure
  let settled ← (settleFiles pool defs [] files).mapError (·.failure)
  (settled.flatMap (·.1.allEnums)).forM fun e => e.checkNumbers.mapError poolFailure
  (Pool.ofFiles defs settled).mapError poolFailure

/-- The pool of files. -/
def Pool.ofDecls (files : List FileDecl) : Except Failure Pool :=
  match files.mapM fun f => f.edition?.map (f, ·) with
  | none => .error .crash
  | some files => Pool.ofEditions files

/-- Reads the declarations of files and builds their pool. -/
def Pool.read (declarations : List Wire.Bytes) : Except Failure Pool :=
  match declarations.mapM FileDecl.read with
  | .error _ => .error (poolFailure .unreadable)
  | .ok files => Pool.ofDecls files

end ProtoRest.Descriptor
