/-! # Layout
Code is laid out from a sequence of **pieces**: texts, gaps at which a line may end, and groups.
`measure` gives every gap and every group the room it needs, up to the next gap of its own level or
of one around it, and `print` walks along the pieces. A group that fits into the rest of the line is
printed in one line; in one that does not, each gap ends the line when the group is consistent, and
otherwise the gaps whose room is too small do. -/

namespace ProtoRest.Code

/-- A place where a line may end. -/
structure Gap where
  /-- The blanks that are printed when the line does not end. -/
  blanks : Nat := 0
  /-- What is added to the indentation of the next line. -/
  offset : Int := 0
  /-- What is printed before the end of the line. -/
  before : String := ""
  /-- What is printed at the start of the next line. -/
  after : String := ""
  /-- What is printed when the line does not end. -/
  inline : String := ""
  /-- Whether the line never ends here. -/
  never : Bool := false
  deriving DecidableEq, Repr

/-- A piece of a layout. -/
inductive Piece
  /-- Text without line ends. -/
  | text (s : String)
  /-- A place where a line may end. -/
  | gap (g : Gap)
  /-- The start of a group that changes the indentation when it does not fit. -/
  | start (offset : Int) (consistent : Bool)
  /-- The end of a group. -/
  | stop
  /-- The end of the room for what comes before; nothing is printed. -/
  | mark
  /-- Nothing, but too wide for any line: the groups around it do not fit. -/
  | tooWide
  /-- A place where code without a layout stands. -/
  | forbidden
  deriving DecidableEq, Repr

/-- A layout. -/
abbrev Pieces := List Piece

/-! ## Building layouts -/

/-- The width of one step of indentation. -/
def indentStep : Int := 4

/-- The room that a gap needs which always ends its line. -/
def endless : Nat := 0xffff

/-- A text. -/
def word (s : String) : Pieces := [.text s]

/-- A gap without blanks. -/
def zeroGap : Pieces := [.gap {}]

/-- A gap of one blank. -/
def blankGap : Pieces := [.gap { blanks := 1 }]

/-- A gap that always ends the line of a group that does not fit. -/
def hardGap : Pieces := [.gap { blanks := endless }]

/-- A gap that keeps what follows on the line; the room for what comes before ends here. -/
def stayGap : Pieces := [.gap { never := true }]

/-- A group; one that holds nothing but a gap is left out. -/
def group (offset : Int) (consistent : Bool) : Pieces → Pieces
  | [.gap _] => []
  | pieces => .start offset consistent :: (pieces ++ [.stop])

/-- A group in which either no gap or every gap ends the line. -/
def whole (offset : Int) (pieces : Pieces) : Pieces := group offset true pieces

/-- A group in which each gap ends the line on its own. -/
def flow (offset : Int) (pieces : Pieces) : Pieces := group offset false pieces

/-- Changes the indentation after the gap at the end of a layout. -/
def shiftLast (offset : Int) : Pieces → Pieces
  | [] => []
  | [.gap g] => [.gap { g with offset := g.offset + offset }]
  | [p] => [p]
  | p :: q :: ps => p :: shiftLast offset (q :: ps)

/-- A layout that ends one step back. -/
def dedent (pieces : Pieces) : Pieces := shiftLast (-indentStep) pieces

/-- What follows an element of a list: a comma, which the last element has only when the line
ends. -/
def commaAfter (isLast : Bool) : Pieces :=
  if isLast then [.gap { before := "," }] else word "," ++ blankGap

/-- The elements of a list, each followed by its comma. -/
def commaList : List Pieces → Pieces
  | [] => []
  | [p] => p ++ commaAfter true
  | p :: q :: ps => p ++ commaAfter false ++ commaList (q :: ps)

/-- The inside of brackets: a list one step further in. -/
def bracketed (offset : Int) (elems : List Pieces) : Pieces :=
  whole offset (dedent (zeroGap ++ commaList elems))

/-- Lines between curly brackets, each with the end of its line. -/
def lines (body : Pieces) : Pieces := if body.isEmpty then [.mark] else dedent (hardGap ++ body)

/-- The width of one piece, a gap taken as its blanks. -/
def Piece.width : Piece → Nat
  | .text s => s.utf8ByteSize
  | .gap g => g.blanks
  | .tooWide => endless
  | .start _ _ | .stop | .mark | .forbidden => 0

/-- The width of a layout in one line. -/
def widthOf (pieces : Pieces) : Nat := pieces.foldr (fun piece width => piece.width + width) 0

/-- A group that fits into no line when it is wider than a limit. -/
def wholeWithin (limit : Nat) (offset : Int) (pieces : Pieces) : Pieces :=
  whole offset (if widthOf pieces ≤ limit then pieces else pieces ++ [.tooWide])

/-! ## Measuring -/

/-- A piece with the room it needs. -/
structure Sized where
  /-- The piece. -/
  piece : Piece
  /-- The room. -/
  room : Nat
  deriving DecidableEq, Repr

/-- What is known about the pieces from one place on: the pieces with their room, their width, and
for each level around the place the width from the next gap of that level on, innermost first. -/
structure Measured where
  /-- The pieces with their room. -/
  pieces : List Sized
  /-- The width of all pieces, gaps taken as blanks. -/
  width : Nat
  /-- The width from the next gap on, level by level. -/
  nextGap : List Nat
  deriving DecidableEq, Repr

/-- The width from the next gap of the innermost level on. -/
def Measured.innermost (m : Measured) : Nat := m.nextGap.headD 0

/-- Adds a piece at the front. -/
def Measured.cons (p : Piece) (m : Measured) : Measured :=
  -- pieces are added from the end of the layout on, so a group begins with its `stop`
  match p with
  | .text s => ⟨⟨p, s.utf8ByteSize⟩ :: m.pieces, m.width + s.utf8ByteSize, m.nextGap⟩
  | .gap g =>
    let width := m.width + g.blanks
    ⟨⟨p, width - m.innermost⟩ :: m.pieces, width, width :: m.nextGap.tail⟩
  | .mark => ⟨m.pieces, m.width, m.width :: m.nextGap.tail⟩
  | .tooWide => ⟨m.pieces, m.width + endless, m.nextGap⟩
  | .forbidden => m
  | .stop => ⟨⟨p, 0⟩ :: m.pieces, m.width, m.innermost :: m.nextGap⟩
  | .start _ _ =>
    let outer := m.nextGap.tail
    ⟨⟨p, m.width - outer.headD 0⟩ :: m.pieces, m.width, outer⟩

/-- The pieces with the room they need. -/
def measure (pieces : Pieces) : List Sized :=
  (pieces.foldr Measured.cons ⟨[], 0, [0]⟩).pieces

/-! ## Printing -/

/-- The width of a line. -/
def margin : Int := 89

/-- The room that a line has at least, however far it is indented. -/
def leastRoom : Int := 60

/-- A group that is being printed. -/
inductive Frame
  /-- It fits into its line. -/
  | fits
  /-- It does not; the indentation around it comes back after it. -/
  | broken (outer : Int) (consistent : Bool)
  deriving DecidableEq, Repr

/-- Where the printer stands. -/
structure Printer where
  /-- What was printed. -/
  out : String := ""
  /-- The room left in the line. -/
  room : Int := margin
  /-- The indentation of the next line. -/
  indent : Int := 0
  /-- The blanks to print before the next text. -/
  pending : Nat := 0
  /-- The open groups, innermost first. -/
  frames : List Frame := []
  deriving Repr

namespace Printer

/-- Prints a text after the blanks that are pending. -/
def put (p : Printer) (s : String) : Printer :=
  { p with out := p.out.pushn ' ' p.pending ++ s, pending := 0 }

/-- Prints a text unless it is empty. -/
def putIf (p : Printer) (s : String) : Printer := if s.isEmpty then p else p.put s

/-- Whether the line goes on at a gap with the given room. -/
def staysAt (p : Printer) (g : Gap) (room : Nat) : Bool :=
  g.never ||
    match p.frames with
    | .fits :: _ => true
    | .broken _ true :: _ => false
    | .broken _ false :: _ | [] => (room : Int) ≤ p.room

/-- Prints a gap. -/
def gap (p : Printer) (g : Gap) (room : Nat) : Printer :=
  if p.staysAt g room then
    { p with
      out := p.out ++ g.inline
      pending := p.pending + g.blanks
      room := p.room - g.blanks - g.inline.utf8ByteSize }
  else
    let p := p.putIf g.before
    let indent := p.indent + g.offset
    let p :=
      { p with
        out := p.out ++ "\n"
        pending := indent.toNat
        room := max (margin - indent) leastRoom }
    let p := p.putIf g.after
    { p with room := p.room - g.after.utf8ByteSize }

/-- Opens a group. -/
def start (p : Printer) (offset : Int) (consistent : Bool) (room : Nat) : Printer :=
  if p.room < room then
    { p with frames := .broken p.indent consistent :: p.frames, indent := p.indent + offset }
  else { p with frames := .fits :: p.frames }

/-- Closes a group. -/
def stop (p : Printer) : Printer :=
  match p.frames with
  | .broken outer _ :: frames => { p with frames, indent := outer }
  | .fits :: frames => { p with frames }
  | [] => p

/-- Prints one piece. -/
def step (p : Printer) (s : Sized) : Printer :=
  match s.piece with
  | .text t => { p.put t with room := p.room - t.utf8ByteSize }
  | .gap g => p.gap g s.room
  | .start offset consistent => p.start offset consistent s.room
  | .stop => p.stop
  | .mark | .tooWide | .forbidden => p

end Printer

/-- The text of a layout. -/
def print (pieces : Pieces) : String := ((measure pieces).foldl Printer.step {}).out

/-- Whether all the code in a layout has a layout. -/
def isComplete (pieces : Pieces) : Bool := pieces.all (· != .forbidden)

end ProtoRest.Code
