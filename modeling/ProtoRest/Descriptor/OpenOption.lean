import ProtoRest.Descriptor.Reading
import ProtoRest.Text.Decimal
import ProtoRest.Text.Escaped

/-! # Open options
An option that the compiler did not understand comes as it is written: a name with several parts, of
which those in parentheses are extensions, and a value. -/

namespace ProtoRest.Descriptor

open ProtoRest.Text ProtoRest.Wire

/-- A part of the name of an open option. -/
structure OptionPart where
  /-- The text. -/
  text : String
  /-- Whether it names an extension. -/
  isExtension : Bool
  deriving DecidableEq, Repr

/-- An open option; each way to write a value may be absent. -/
structure OpenOption where
  /-- The parts of the name. -/
  name : List OptionPart
  /-- A word. -/
  word : Option String
  /-- A number that is not negative. -/
  positive : Option Nat
  /-- A negative number. -/
  negative : Option Int
  /-- A fraction, as its bits. -/
  double : Option Nat
  /-- Bytes between quotes. -/
  quoted : Option Bytes
  /-- The fields of a message. -/
  aggregate : Option String
  deriving DecidableEq, Repr

/-- The part with fields. -/
def OptionPart.ofFields (fs : Fields) : OptionPart := ⟨textOf fs 1, boolOf fs 2⟩

/-- The last fraction of 64 bits of a field. -/
def double? (fs : Fields) (number : Nat) : Option Nat :=
  ((Fields.values fs number).filterMap fun
    | .fixed64 n => some n
    | _ => none).getLast?

/-- The open option with fields. -/
def OpenOption.ofFields (fs : Fields) : OpenOption where
  name := (Fields.messages fs 2).map .ofFields
  word := Fields.text? fs 3
  positive := (Fields.nats fs 4).getLast?
  negative := (Fields.nats fs 5).getLast?.map int64OfNat
  double := double? fs 6
  quoted := (Fields.blobs fs 7).getLast?
  aggregate := Fields.text? fs 8

/-- The open options among options. -/
def openOptionsOf (options : Fields) : List OpenOption :=
  (Fields.messages options openOptions).map .ofFields

/-- A part of a name as it is written. -/
def OptionPart.shown (p : OptionPart) : String := if p.isExtension then "(" ++ p.text ++ ")" else p.text

/-- A name as it is written. -/
def shownName (parts : List OptionPart) : String := ".".intercalate (parts.map (·.shown))

/-- The value as it is written: the first way that is there. -/
def OpenOption.shownValue (o : OpenOption) : String :=
  match o.word, o.positive, o.negative, o.double, o.quoted with
  | some word, _, _, _, _ => word
  | _, some n, _, _, _ => toString n
  | _, _, some n, _, _ => toString n
  | _, _, _, some bits, _ => plainNumberText binary64 bits
  | _, _, _, _, some bs => escapedText bs
  | _, _, _, _, _ => o.aggregate.getD ""

end ProtoRest.Descriptor
