/-! # Pool faults
What can be wrong with the declarations of a schema. -/

namespace ProtoRest.Descriptor

/-- What is wrong with declarations. -/
inductive PoolFault
  /-- The bytes are no declarations. -/
  | unreadable
  /-- Two files have the same path. -/
  | sameFile (name : String)
  /-- An imported file is missing. -/
  | missingImport (name : String)
  /-- An import is passed on that is not there. -/
  | importPosition
  /-- A name is defined twice in a file. -/
  | twice (name : String)
  /-- A name is defined in another file already. -/
  | elsewhere (name file : String)
  /-- A name stands for nothing. -/
  | undefined (name : String)
  /-- A name of a type is missing at a place: field numbers and positions from the file inwards. -/
  | missingName (place : List Int)
  /-- A name starts like something in a nearer scope. -/
  | hidden (name nearer : String)
  /-- A name stands for something else than is needed. -/
  | otherRole (name needed : String)
  /-- A number cannot be the number of a field. -/
  | fieldNumber (n : Int)
  /-- Two fields of a message have the same number. -/
  | sameNumber (n : Int)
  /-- Two fields of a message have the same name in JSON. -/
  | sameJsonName (name : String)
  /-- Two fields of a message differ only in case and underscores. -/
  | similarNames (first second : String)
  /-- A field has a number that may not be used. -/
  | reservedNumber (n first last : Int)
  /-- A field has a number for extensions. -/
  | extensionNumber (n first last : Int)
  /-- An extension has a number that the message does not offer. -/
  | notExtensible (message : String) (n : Int)
  /-- A default is no value of the field. -/
  | default (value type : String)
  /-- A field is a member of a choice that is not there. -/
  | oneofPosition
  /-- An enum has no values. -/
  | emptyEnum
  /-- The first value of an enum is not zero. -/
  | firstValue
  /-- Two values of an enum have the same number. -/
  | sameEnumNumber (n : Int)
  /-- A value of an enum has a number that may not be used. -/
  | reservedEnumNumber (n first last : Int)
  /-- An option stands for nothing. -/
  | undefinedOption (name : String)
  /-- An option is an extension of another message. -/
  | otherExtendee (extension extendee needed : String)
  /-- An option is set twice. -/
  | optionTwice (option : String)
  /-- A part of an option has no fields. -/
  | notNested (option type : String)
  /-- An option cannot have a value. -/
  | optionValue (option type value : String)
  deriving DecidableEq, Repr

/-- A name between single quotes. -/
def quoted (name : String) : String := "'" ++ name ++ "'"

/-- A range as it is shown. -/
def rangeText (first last : Int) : String := quoted (toString first ++ " to " ++ toString last)

/-- The text about a fault. -/
def PoolFault.message : PoolFault → String
  | .unreadable => "failed to decode file descriptor set"
  | .sameFile name => "a different file named " ++ quoted name ++ " has already been added"
  | .missingImport name => "imported file " ++ quoted name ++ " has not been added"
  | .importPosition => "invalid import index"
  | .twice name => "name " ++ quoted name ++ " is defined twice"
  | .elsewhere name file =>
    "name " ++ quoted name ++ " is already defined in file " ++ quoted file
  | .undefined name => "name " ++ quoted name ++ " is not defined"
  | .missingName place =>
    "missing required field at [" ++ ", ".intercalate (place.map fun i => toString i) ++ "]"
  | .hidden name nearer => quoted name ++ " resolves to " ++ quoted nearer ++ ", which is not defined"
  | .otherRole name needed => quoted name ++ " is not " ++ needed
  | .fieldNumber n => "invalid field number " ++ quoted (toString n)
  | .sameNumber n => "field number " ++ quoted (toString n) ++ " is already used"
  | .sameJsonName name => "a field with JSON name " ++ quoted name ++ " is already defined"
  | .similarNames first second =>
    "camel-case name of field " ++ quoted first ++ " conflicts with field " ++ quoted second
  | .reservedNumber n first last =>
    "field number " ++ quoted (toString n) ++ " conflicts with reserved range " ++
      rangeText first last
  | .extensionNumber n first last =>
    "field number " ++ quoted (toString n) ++ " conflicts with extension range " ++
      rangeText first last
  | .notExtensible message n =>
    "message " ++ quoted message ++ " does not define " ++ quoted (toString n) ++
      " as an extension number"
  | .default value type => "invalid default value " ++ quoted value ++ " for type " ++ quoted type
  | .oneofPosition => "invalid oneof index"
  | .emptyEnum => "enums must have at least one value"
  | .firstValue => "the first value for proto3 enums must be 0"
  | .sameEnumNumber n => "enum number " ++ quoted (toString n) ++ " has already been used"
  | .reservedEnumNumber n first last =>
    "enum number " ++ quoted (toString n) ++ " conflicts with reserved range " ++
      rangeText first last
  | .undefinedOption name => "option field " ++ quoted name ++ " is not defined"
  | .otherExtendee extension extendee needed =>
    "expected an extension to type " ++ quoted needed ++ ", but " ++ quoted extension ++
      " extends " ++ quoted extendee
  | .optionTwice option => "option field " ++ quoted option ++ " has already been set"
  | .notNested option type =>
    "cannot set field for option " ++ quoted option ++ " value of type " ++ quoted type
  | .optionValue option type value =>
    "expected a value of type " ++ quoted type ++ " for option " ++ quoted option ++
      ", but found " ++ quoted value

end ProtoRest.Descriptor
