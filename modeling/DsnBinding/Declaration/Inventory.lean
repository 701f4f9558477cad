import DsnBinding.Record.Reserved

/-!
What a declared type holds beside its attributes: the methods that it defines anew, its properties and
what it knows of its module. Messages and formatted texts show them.
-/
namespace DsnBinding.Reserved

/-- A method that a declaration defines anew. -/
structure Method where
  name : Text
  function : String
  /-- The path to its function, if that does not belong to the type. -/
  path : Option String
  deriving Repr, DecidableEq, Inhabited

namespace Method

def own (name : String) : Method := ⟨name.toList, name, none⟩

def common (name function path : String) : Method := ⟨name.toList, function, some path⟩

def shown (m : Method) (recordTypeName recordShown : Text) : Text :=
  let path := m.path.getD (String.ofList recordTypeName ++ ".")
  ("<bound method " ++ path ++ m.function ++ " of " ++ String.ofList recordShown ++ ">").toList

end Method

def stateFunctions : String := "_ClassBuilder._make_getstate_setstate.<locals>."

def methods (frozen : Bool) : List Method :=
  [.own "__eq__", .own "__init__", .own "__repr__", .common "__ne__" "__ne__" "",
    .common "__getstate__" "slots_getstate" stateFunctions,
    .common "__setstate__" "slots_setstate" stateFunctions] ++
  if frozen then
    [.own "__hash__", .common "__setattr__" "_frozen_setattrs" "",
      .common "__delattr__" "_frozen_delattrs" ""]
  else []

def method? (frozen : Bool) (name : Text) : Option Method :=
  (methods frozen).find? (·.name == name)

def propertiesShown (frozen : Bool) : String :=
  "ClassProps(is_exception=False, is_slotted=True, has_weakref_slot=True, is_frozen=" ++
    (if frozen then "True" else "False") ++
    ", kw_only=<KeywordOnly.NO: 'no'>, collected_fields_by_mro=True, added_init=True, " ++
    "added_repr=True, added_eq=True, added_ordering=False, hashability=" ++
    (if frozen then "<Hashability.HASHABLE: 'hashable'>"
    else "<Hashability.UNHASHABLE: 'unhashable'>") ++
    ", added_match_args=True, added_str=False, added_pickling=True, on_setattr_hook=" ++
    (if frozen then "None" else "<function pipe.<locals>.wrapped_pipe>") ++
    ", field_transformer=None)"

/-- What else a declared type holds, by how it is shown in a union. -/
def object? (frozen : Bool) (name : Text) : Option String :=
  match method? frozen name with
  | some method => some method.function
  | none =>
    if name = propertiesName then some (propertiesShown frozen)
    else if !frozen && name == ownWritingName then some "False"
    else if (declaredNames frozen).contains name then some (String.ofList name)
    else none

def moduleNameName : Text := "__name__".toList

/-- The names in the module that nothing stands under. -/
def emptyModuleNames : List Text := Text.words ["__doc__ __loader__ __package__ __spec__"]

end DsnBinding.Reserved
