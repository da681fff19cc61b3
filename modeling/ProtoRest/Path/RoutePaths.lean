import ProtoRest.Path.Matching
import ProtoRest.Text.Blank

/-! # Paths that a route matches
What the router takes a route for: the route is cut at its slashes, a piece in braces binds one segment
of a path, one in braces with a star binds all segments that are left when it is the last piece, and
any other piece is matched verbatim. -/

namespace ProtoRest.Path

open ProtoRest.Text

/-- What stands between the braces of a piece that starts and ends with them. -/
def insideBraces? : List Char → Option (List Char)
  | '{' :: cs => if cs.getLast? = some '}' then some cs.dropLast else none
  | _ => none

/-- What a piece of a route matches. -/
def segmentOfPiece (isLast : Bool) (piece : List Char) : Segment :=
  match insideBraces? piece with
  | some ('*' :: name) =>
    if isLast then .catchAll (String.ofList name) else .literal (String.ofList piece)
  | some name => .param (String.ofList name)
  | none => .literal (String.ofList piece)

/-- What the pieces of a route match. -/
def segmentsOfPieces : List (List Char) → List Segment
  | [] => []
  | piece :: pieces => segmentOfPiece pieces.isEmpty piece :: segmentsOfPieces pieces

/-- What a route matches. -/
def segmentsOfRoute (route : String) : List Segment :=
  segmentsOfPieces ((splitAt '/' route.toList).filter (· ≠ []))

/-- Whether a route matches a path. -/
def RouteMatches (route : String) (path : RequestPath) : Prop :=
  MatchesInOrder Segment.Matches (segmentsOfRoute route) path

end ProtoRest.Path
