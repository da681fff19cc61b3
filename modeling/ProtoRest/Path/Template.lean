/-! # Path templates
A path template such as `/v1/{name=projects/*}:list` becomes a list of **segments** and an optional
**verb**. A segment is matched verbatim, binds one path segment to a parameter, or binds all
remaining ones. `Template.route` writes the segments for the router and `Template.docPath` for the
documentation, which does not tell the two kinds of parameter apart. `Template.Fault` lists the
reasons to refuse a text. -/

namespace ProtoRest.Path

/-- One segment of a route. -/
inductive Segment
  /-- Matched verbatim. -/
  | literal (text : String)
  /-- Binds exactly one path segment. -/
  | param (name : String)
  /-- Binds the rest of the path. -/
  | catchAll (name : String)
  deriving DecidableEq, Repr

/-- The parameter that a segment binds. -/
def Segment.name? : Segment → Option String
  | .literal _ => none
  | .param name => some name
  | .catchAll name => some name

/-- A segment in the notation of the router. -/
def Segment.route : Segment → String
  | .literal text => text
  | .param name => "\x7b" ++ name ++ "\x7d"
  | .catchAll name => "\x7b*" ++ name ++ "\x7d"

/-- A segment in the notation of the documentation. -/
def Segment.docPath : Segment → String
  | .literal text => text
  | .param name => "\x7b" ++ name ++ "\x7d"
  | .catchAll name => "\x7b" ++ name ++ "\x7d"

/-- A path template that can be routed. -/
structure Template where
  /-- The segments in path order. -/
  segments : List Segment
  /-- What follows the colon after the last segment. -/
  verb : Option String
  deriving DecidableEq, Repr

namespace Template

/-- The names of the parameters in path order. -/
def parameters (t : Template) : List String := t.segments.filterMap Segment.name?

/-- The text of a template: a slash before each segment, one slash when there is none, and the verb
after a colon. -/
def write (segment : Segment → String) (t : Template) : String :=
  let path := String.join (t.segments.map fun s => "/" ++ segment s)
  let path := if path.isEmpty then "/" else path
  match t.verb with
  | none => path
  | some verb => path ++ ":" ++ verb

/-- The template in the notation of the router. -/
def route (t : Template) : String := t.write Segment.route

/-- The template in the notation of the documentation. -/
def docPath (t : Template) : String := t.write Segment.docPath

/-- Why a text is not a template that can be routed. -/
inductive Fault
  /-- Nothing but blanks. -/
  | empty
  /-- A brace without its partner, in this text. -/
  | unbalancedBraces (text : String)
  /-- A variable that names a field of a field. -/
  | nestedField (name : String)
  /-- A variable whose name is not an identifier. -/
  | invalidName (name : String)
  /-- A wildcard outside a variable. -/
  | bareWildcard (wildcard : String)
  /-- Text that cannot be matched verbatim. -/
  | invalidLiteral (text : String)
  /-- A segment follows a parameter that binds the rest. -/
  | catchAllNotLast (name : String)
  /-- A verb that does not follow a literal segment. -/
  | misplacedVerb (verb : String)
  /-- One parameter is bound twice. -/
  | duplicateParameter (name : String)
  deriving DecidableEq, Repr

/-- The text shown for a fault. -/
def Fault.message : Fault → String
  | .empty => "path template is empty"
  | .unbalancedBraces text => "unbalanced braces in path template `" ++ text ++ "`"
  | .nestedField name =>
    "nested field path `" ++ name ++ "` cannot be bound to a route parameter"
  | .invalidName name => "invalid path parameter name `" ++ name ++ "`"
  | .bareWildcard wildcard =>
    "wildcard `" ++ wildcard ++ "` must be bound to a variable, e.g. `\x7bname=" ++ wildcard ++
      "\x7d`"
  | .invalidLiteral text => "invalid literal segment `" ++ text ++ "`"
  | .catchAllNotLast name => "catch-all parameter `" ++ name ++ "` must be the last segment"
  | .misplacedVerb verb => "custom verb `:" ++ verb ++ "` must follow a literal segment"
  | .duplicateParameter name => "path parameter `" ++ name ++ "` is used more than once"

end Template

end ProtoRest.Path
