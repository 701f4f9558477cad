import DsnBinding.Declaration
import DsnBinding.Declaration.Inventory
import DsnBinding.Template.Token
import DsnBinding.Text.NameCharacter

/-!
What names mean in type hints. A name means a part of the module or of the declared type before it
means a built-in object. This evaluates references that are single names, and refuses texts that are
no expression at sight; what a text of any other form means is not told here.
-/
namespace DsnBinding

namespace NamedType

def ofNames (lines : List String) (type : String → NamedType) : List NamedType :=
  (Text.words lines).map fun name => type (String.ofList name)

def builtInClasses : List NamedType :=
  [string, integer, bool, float, noneType, dict] ++
    ofNames
      ["bytearray bytes classmethod complex enumerate filter frozenset list map memoryview object",
        "property range reversed set slice staticmethod super tuple type zip"]
      unsupported

def errorClasses : List NamedType :=
  ofNames
    ["ArithmeticError AssertionError AttributeError BaseException BaseExceptionGroup",
      "BlockingIOError BrokenPipeError BufferError BytesWarning ChildProcessError",
      "ConnectionAbortedError ConnectionError ConnectionRefusedError ConnectionResetError",
      "DeprecationWarning EOFError EncodingWarning Exception ExceptionGroup FileExistsError",
      "FileNotFoundError FloatingPointError FutureWarning GeneratorExit ImportError ImportWarning",
      "IndentationError IndexError InterruptedError IsADirectoryError KeyError KeyboardInterrupt",
      "LookupError MemoryError ModuleNotFoundError NameError NotADirectoryError",
      "NotImplementedError OSError OverflowError PendingDeprecationWarning PermissionError",
      "ProcessLookupError RecursionError ReferenceError ResourceWarning RuntimeError",
      "RuntimeWarning StopAsyncIteration StopIteration SyntaxError SyntaxWarning SystemError",
      "SystemExit TabError TimeoutError TypeError UnboundLocalError UnicodeDecodeError",
      "UnicodeEncodeError UnicodeError UnicodeTranslateError UnicodeWarning UserWarning ValueError",
      "Warning ZeroDivisionError"]
    unsupported

def builtInFunctions : List NamedType :=
  ofNames
    ["__build_class__ __import__ abs aiter all anext any ascii bin breakpoint callable chr compile",
      "delattr dir divmod eval exec format getattr globals hasattr hash hex id input isinstance",
      "issubclass iter len locals max min next oct open ord pow print repr round setattr sorted sum",
      "vars"]
    fun name => object name ("<built-in function " ++ name ++ ">")

def builtInConstants : List NamedType :=
  ofNames ["True False Ellipsis NotImplemented"] fun name => object name name

def sessionObjects : List NamedType :=
  [object "exit" "Use exit() or Ctrl-D (i.e. EOF) to exit",
    object "quit" "Use quit() or Ctrl-D (i.e. EOF) to exit",
    object "help" "Type help() for interactive help, or help(object) for help about object."]

def synonyms : List (String × String) :=
  [("EnvironmentError", "OSError"), ("IOError", "OSError"), ("__debug__", "True")]

/-- What a reference can mean without any declaration. -/
def builtIn : List NamedType :=
  builtInClasses ++ errorClasses ++ builtInFunctions ++ builtInConstants ++ sessionObjects ++
    [object "__builtins__" "__builtins__"]

def ofReference? (name : Text) : Option NamedType :=
  let spelling := String.ofList name
  let spelling := (synonyms.lookup spelling).getD spelling
  builtIn.find? (·.spelling == spelling)

/-- What a normalized name means without any declaration. -/
def ofName (name : Text) : Except ReferenceError NamedType :=
  match ofReference? name with
  | some type => .ok type
  | none => .error (.ofName name)

end NamedType

/-- What normalized names mean where a type hint stands, as far as this is told. -/
abbrev Scope := Text → Option (Except ReferenceError NamedType)

namespace Scope

def builtIn : Scope := fun name => some (NamedType.ofName name)

def keywords : List Text :=
  Text.words
    ["and as assert async await break class continue def del elif else except finally for from",
      "global if import in is lambda nonlocal not or pass raise return try while with yield"]

/-- Whether a text has the form of a name. -/
def isName : Text → Bool
  | [] => false
  | c :: t =>
    (Template.isNameStart c || Text.beginsName c) &&
      t.all fun c => Template.isNameChar c || Text.continuesName c

/-- Whether a text is no expression at sight: it is empty or a keyword, or it has a character that can
only stand in quotes and comments, and neither of them. -/
def isUnreadable (text : Text) : Bool :=
  text.isEmpty || keywords.contains text ||
    text.any (['$', '?'].contains ·) && !text.any ([Text.apostrophe, Text.doubleQuote, '#'].contains ·)

/-- What a text means. The ways to write a name with one normalized form mean the same. -/
def evaluate? (scope : Scope) (text : Text) : Option (Except ReferenceError NamedType) :=
  if isUnreadable text then some (.error (.unusable (.notAnExpression text)))
  else if isName text then scope (Text.normalized text)
  else none

def reference? (scope : Scope) (text : Text) : Option Reference :=
  (scope.evaluate? text).map fun
    | .ok type => ⟨text, .type (.single type)⟩
    | .error error => ⟨text, .error error⟩

end Scope

namespace Declaration

/-- A part of the type itself, which is no type. -/
def part (d : Declaration) (what : String) (name : Text) : NamedType :=
  let name := String.ofList name
  .object name ("<" ++ what ++ " '" ++ name ++ "' of '" ++ String.ofList d.name ++ "' objects>")

/-- What a name means that stands in the type for something else than a text. The names of the module
come first. -/
def ofName (d : Declaration) (name : Text) : Except ReferenceError NamedType :=
  if Reserved.emptyModuleNames.contains name then .ok .noneType
  else if d.keeps name then .ok (d.part "member" name)
  else if name = Reserved.referencesName then .ok (d.part "attribute" name)
  else if (Reserved.emptyNames d.frozen).contains name then .ok .noneType
  else if name = Reserved.orderName then .error (.unusable (.tuple d.names))
  else if name = Reserved.keptNamesName then
    .error (.unusable (.tuple (d.names ++ [Reserved.referencesName])))
  else
    match Reserved.object? d.frozen name with
    | some shown => .ok (.object (String.ofList name) shown)
    | none => NamedType.ofName name

/-- What a text means that the module or the type holds: it is evaluated in turn. -/
def ofText? (d : Declaration) (text : Text) : Option (Except ReferenceError NamedType) :=
  Scope.evaluate? (fun name => some (d.ofName name)) text

def scope (d : Declaration) : Scope := fun name =>
  if name = Reserved.moduleNameName || name = Reserved.moduleName then d.ofText? Reserved.module
  else
    match d.template with
    | some (.text template) =>
      if name = Reserved.templateName then d.ofText? template else some (d.ofName name)
    | _ => some (d.ofName name)

end Declaration

end DsnBinding
