import DsnBinding.Binding
import DsnBinding.Schema

/-!
Parsing a DSN into a record: the schema of the type is built, the query is taken off, the path is
matched and what it contains is bound. An error of any stage is reported with the whole text and
with the template, as far as it is known.
-/
namespace DsnBinding

inductive Stage where
  | compiling
  | matching
  | coercing
  | binding
  deriving Repr, DecidableEq, Inhabited

def Stage.label : Stage → String
  | compiling => "compile"
  | matching => "match"
  | coercing => "coercion"
  | binding => "bind"

inductive StageError where
  | schema (error : SchemaError)
  | noMatch (error : NoMatch)
  | binding (error : BindingError)
  deriving Repr, DecidableEq, Inhabited

namespace StageError

def stage : StageError → Stage
  | schema (.template _) => .compiling
  | schema _ => .binding
  | noMatch _ => .matching
  | binding (.coercion ..) => .coercing
  | binding (.readOnly ..) => .binding

def message : StageError → String
  | schema error => error.message
  | noMatch error => error.message
  | binding error => error.message

end StageError

structure ParseError where
  error : StageError
  text : Text
  /-- Whatever the type has in place of a template. -/
  template : Datum
  deriving Inhabited

namespace ParseError

def stage (e : ParseError) : Stage := e.error.stage

def code (_ : ParseError) : String := "parse_failed"

def message (e : ParseError) : String :=
  "Failed to parse " ++ Text.quoted e.text ++ " (" ++ e.stage.label ++ " stage): " ++
    e.error.message

end ParseError

inductive ParseFailure where
  | refused (error : ParseError)
  | unusable (error : UnusableReference)
  /-- The message cannot show what stands in place of a type. -/
  | unshown
  | bareSegment
  | unfit (error : UnfitValue)
  | tooManyDigits (count : Nat)
  | noConversion
  deriving Inhabited

namespace Schema

def read (s : Schema) (text : Text) : Except ParseFailure Contents :=
  let (path, query) := Query.extract text
  match s.pattern.run path with
  | .ok outcome => .ok ⟨outcome.captures, outcome.scheme, query⟩
  | .error halt =>
    match halt.obstacle with
    | .mismatch mismatch =>
      .error (.refused ⟨.noMatch ⟨s.pattern.template, path, mismatch⟩, text, .text s.template⟩)
    | .bareSegment => .error .bareSegment

def bindingFailure (s : Schema) (text : Text) : BindingFailure → ParseFailure
  | .refused error => .refused ⟨.binding error, text, .text s.template⟩
  | .unfit error => .unfit error
  | .tooManyDigits count => .tooManyDigits count
  | .noConversion => .noConversion

def parse (s : Schema) (record : Record) (text : Text) (assign : Assignment := Record.assign) :
    Record × Option ParseFailure :=
  match s.read text with
  | .error failure => (record, some failure)
  | .ok contents =>
    let (record', failure) := contents.bind s.fields record assign
    (record', failure.map (s.bindingFailure text))

end Schema

def RecordType.schemaFailure (type : RecordType) (text : Text) : SchemaFailure → ParseFailure
  | .refused (.template e) => .refused ⟨.schema (.template e), text, .text e.template⟩
  | .refused error => .refused ⟨.schema error, text, type.rawTemplate⟩
  | .unusable error => .unusable error
  | .unshown => .unshown

/-- Parse a text into a record of the type, given what became of its schema. -/
def RecordType.parseWith (type : RecordType) (schema : Except SchemaFailure Schema)
    (record : Record) (text : Text) (assign : Assignment := Record.assign) :
    Record × Option ParseFailure :=
  match schema with
  | .error failure => (record, some (type.schemaFailure text failure))
  | .ok s => s.parse record text assign

/-- Parse a text into a record of the type. The result is the record as far as it was written, and
the failure, if any. -/
def RecordType.parse (type : RecordType) (record : Record) (text : Text)
    (assign : Assignment := Record.assign) : Record × Option ParseFailure :=
  type.parseWith (Schema.ofRecordType type) record text assign

inductive NewRecordFailure where
  | creation (error : CreationError)
  | parse (failure : ParseFailure)
  deriving Inhabited

def RecordType.parseNew (type : RecordType) (text : Text) : Except NewRecordFailure Record :=
  match type.create with
  | .error error => .error (.creation error)
  | .ok record =>
    match type.parse record text with
    | (record', none) => .ok record'
    | (_, some failure) => .error (.parse failure)

end DsnBinding
