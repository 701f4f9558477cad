import DsnBinding.Datum
import DsnBinding.Record.Reserved
import DsnBinding.Text.Normalized
import DsnBinding.TypeHint

/-!
Declarations of record types: the attributes with their names, type hints, metadata and first values,
and the template. A declared type has no type hints but those of its attributes. A record keeps an
attribute under a name of its own, which is mostly the declared one.
-/
namespace DsnBinding

structure Attribute where
  name : Text
  /-- What the attribute holds in a new record. -/
  initial : Value
  hint : TypeHint
  /-- Whatever was attached as metadata, if anything was. -/
  metadata : Option Datum
  deriving Inhabited

/-- What is attached as metadata; nothing counts as null. -/
def Attribute.data (a : Attribute) : Datum := a.metadata.getD .null

structure Declaration where
  name : Text
  template : Option Datum
  frozen : Bool
  attributes : List Attribute
  deriving Inhabited

namespace Declaration

def kind (d : Declaration) : RecordKind := .declared d.frozen d.template.isSome

def names (d : Declaration) : List Text := d.attributes.map Attribute.name

/-- Whether a name belongs to the type that declares it: it begins with two underscores and does not
end with two. -/
def isPrivate (name : Text) : Bool :=
  let mark : Text := "__".toList
  mark.isPrefixOf name && !mark.isSuffixOf name

/-- The name under which a record keeps an attribute. A private name has the name of the type in front
of it, unless that consists of underscores only. -/
def keptName (d : Declaration) (name : Text) : Text :=
  let owner := d.name.dropWhile (· == '_')
  if isPrivate name && !owner.isEmpty then '_' :: owner ++ name else name

def keeps (d : Declaration) (name : Text) : Bool :=
  d.attributes.any fun a => d.keptName a.name == name

/-- The name under which a new record is given an attribute. A type that is not frozen normalizes the
declared name. -/
def givenName (d : Declaration) (name : Text) : Text :=
  if d.frozen then name else Text.normalized name

end Declaration

end DsnBinding
