import DsnBinding.Environment.Reference
import DsnBinding.OrderedMap

/-!
Looking up a DSN in the environment. A variable that is not set is looked for in a file of further
variables, which sets every name that is not set yet; a variable with an empty value is set, and then
no file is touched. One of the variables can forbid to read files.
-/
namespace DsnBinding

abbrev Environment := OrderedMap Text Text

abbrev VariableFile := List (Text × Text)

/-- The files that can be there. A named file is used alone; otherwise the one in the working
directory comes before the one in its parent. -/
structure VariableFiles where
  working : Option VariableFile
  parent : Option VariableFile
  named : Option VariableFile
  deriving Repr, DecidableEq, Inhabited

def VariableFiles.chosen (files : VariableFiles) (useNamed : Bool) : VariableFile :=
  (if useNamed then files.named else files.working.or files.parent).getD []

structure MissingVariable where
  name : Text
  deriving Repr, DecidableEq, Inhabited

namespace MissingVariable

def code (_ : MissingVariable) : String := "missing_env"

def message (e : MissingVariable) : String :=
  "Environment variable " ++ String.ofList e.name ++ " is not set"

end MissingVariable

namespace Environment

/-- The values of a file, put behind those that are read already. A reference stands for the value in
the environment or else for the value read last; a name that occurs several times has its last
value. -/
def readLines (env : Environment) : VariableFile → OrderedMap Text Text → OrderedMap Text Text
  | [], known => known
  | (name, v) :: rest, known =>
    env.readLines rest
      (known.insert name (v.expanded fun name => (env.get? name).or (known.get? name)))

def load (env : Environment) (file : VariableFile) : Environment :=
  (env.readLines file .empty).entries.foldl (fun env (name, v) => env.insertIfNew name v) env

def forbiddingName : Text := "PYTHON_DOTENV_DISABLED".toList

/-- Letter case does not matter; the long s is a letter s. -/
def folded (c : Char) : Char := if c = 'ſ' then 's' else c.toLower

def forbidsFiles (env : Environment) : Bool :=
  match env.get? forbiddingName with
  | some v => (Text.words ["1 true t yes y"]).contains (v.map folded)
  | none => false

def prepare (env : Environment) (files : VariableFiles) (useNamed : Bool) (name : Text) :
    Environment :=
  if env.contains name || env.forbidsFiles then env else env.load (files.chosen useNamed)

def find (env : Environment) (name : Text) (fallback : Option Text) :
    Except MissingVariable Text :=
  match (env.get? name).or fallback with
  | some v => .ok v
  | none => .error ⟨name⟩

end Environment

end DsnBinding
