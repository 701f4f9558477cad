import DsnBinding.Record.Reserved

/-!
The documentation that the types of bare values hold.
-/
namespace DsnBinding.Reserved

def documentationName : Text := "__doc__".toList

def lines (texts : List String) : Text := ("\n".intercalate texts).toList

def integerDocumentation : Text :=
  lines
    ["int([x]) -> integer",
      "int(x, base=10) -> integer",
      "",
      "Convert a number or string to an integer, or return 0 if no arguments",
      "are given.  If x is a number, return x.__int__().  For floating point",
      "numbers, this truncates towards zero.",
      "",
      "If x is not a number or if base is given, then x must be a string,",
      "bytes, or bytearray instance representing an integer literal in the",
      "given base.  The literal can be preceded by '+' or '-' and be surrounded",
      "by whitespace.  The base defaults to 10.  Valid bases are 0 and 2-36.",
      "Base 0 means to interpret the base from the string as an integer literal.",
      ">>> int('0b100', base=0)",
      "4"]

def truthDocumentation : Text :=
  lines
    ["bool(x) -> bool",
      "",
      "Returns True when the argument x is true, False otherwise.",
      "The builtins True and False are the only two instances of the class bool.",
      "The class bool is a subclass of the class int, and cannot be subclassed."]

def textDocumentation : Text :=
  lines
    ["str(object='') -> str",
      "str(bytes_or_buffer[, encoding[, errors]]) -> str",
      "",
      "Create a new string object from the given object. If encoding or",
      "errors is specified, then the object must expose a data buffer",
      "that will be decoded using the given encoding and error handler.",
      "Otherwise, returns the result of object.__str__() (if defined)",
      "or repr(object).",
      "encoding defaults to sys.getdefaultencoding().",
      "errors defaults to 'strict'."]

def mapDocumentation : Text :=
  lines
    ["dict() -> new empty dictionary",
      "dict(mapping) -> new dictionary initialized from a mapping object's",
      "    (key, value) pairs",
      "dict(iterable) -> new dictionary initialized as if via:",
      "    d = \x7b\x7d",
      "    for k, v in iterable:",
      "        d[k] = v",
      "dict(**kwargs) -> new dictionary initialized with the name=value pairs",
      "    in the keyword argument list.  For example:  dict(one=1, two=2)"]

/-- The documentation of the type of a bare value, given by its name. -/
def documentation (name : Text) : Text :=
  if name = Value.typeName (.int 0) then integerDocumentation
  else if name = Value.typeName (.bool true) then truthDocumentation
  else if name = Value.typeName (.text []) then textDocumentation
  else mapDocumentation

end DsnBinding.Reserved
