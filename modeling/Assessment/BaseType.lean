import Assessment.Vocabulary

/-!
# Base types and cardinalities

Every value has a cardinality: it is single, a bag (`multiple`), a sequence
(`ordered`) or a record.  All but records also have a base type, which their scalars
share.
-/

namespace Assessment

/-- The type of a scalar. -/
inductive BaseType where
  | boolean
  | integer
  | float
  | string
  | identifier
  | uri
  | intOrIdentifier
  | point
  | pair
  | directedPair
  | duration
  | file
  deriving DecidableEq, Repr, Inhabited

namespace BaseType

def all : List BaseType :=
  [boolean, integer, float, string, identifier, uri, intOrIdentifier, point, pair,
    directedPair, duration, file]

def name : BaseType → String
  | boolean => "boolean"
  | integer => "integer"
  | float => "float"
  | string => "string"
  | identifier => "identifier"
  | uri => "uri"
  | intOrIdentifier => "intOrIdentifier"
  | point => "point"
  | pair => "pair"
  | directedPair => "directedPair"
  | duration => "duration"
  | file => "file"

/-- The name with a capital letter. -/
def capitalName : BaseType → String
  | boolean => "Boolean"
  | integer => "Integer"
  | float => "Float"
  | string => "String"
  | identifier => "Identifier"
  | uri => "Uri"
  | intOrIdentifier => "IntOrIdentifier"
  | point => "Point"
  | pair => "Pair"
  | directedPair => "DirectedPair"
  | duration => "Duration"
  | file => "File"

def isNumeric : BaseType → Bool
  | integer | float => true
  | _ => false

instance : Vocabulary BaseType where
  title := "base type"
  all := all
  word := name

end BaseType

inductive Cardinality where
  | single
  | multiple
  | ordered
  | record
  deriving DecidableEq, Repr, Inhabited

namespace Cardinality

def all : List Cardinality :=
  [single, multiple, ordered, record]

def name : Cardinality → String
  | single => "single"
  | multiple => "multiple"
  | ordered => "ordered"
  | record => "record"

/-- Multiple and ordered values hold any number of scalars. -/
def isContainer : Cardinality → Bool
  | multiple | ordered => true
  | _ => false

instance : Vocabulary Cardinality where
  title := "cardinality"
  all := all
  word := name

end Cardinality

/-- The types a variable can be declared with: only records do without a base
type. -/
inductive DeclaredType where
  | single (baseType : BaseType)
  | multiple (baseType : BaseType)
  | ordered (baseType : BaseType)
  | record
  deriving DecidableEq, Repr, Inhabited

namespace DeclaredType

/-- The type with the given parts, if they go together. -/
def ofParts? : Cardinality → Option BaseType → Option DeclaredType
  | .single, some baseType => some (.single baseType)
  | .multiple, some baseType => some (.multiple baseType)
  | .ordered, some baseType => some (.ordered baseType)
  | .record, none => some .record
  | _, _ => none

def cardinality : DeclaredType → Cardinality
  | .single _ => .single
  | .multiple _ => .multiple
  | .ordered _ => .ordered
  | .record => .record

def baseType? : DeclaredType → Option BaseType
  | .single baseType | .multiple baseType | .ordered baseType => some baseType
  | .record => none

/-- The cardinality followed by the base type, if there is one. -/
def text (type : DeclaredType) : String :=
  match type.baseType? with
  | some baseType => type.cardinality.name ++ " " ++ baseType.name
  | none => type.cardinality.name

end DeclaredType

end Assessment
