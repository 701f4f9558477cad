import DsnBinding.Field.Coercion
import DsnBinding.Pattern.Matching
import DsnBinding.Record.Reading
import DsnBinding.Schema

/-!
Formatting writes the template of a schema with the texts of a record in place of its captures. A
group is written if a capture in it, at any depth, has a text. Before the scheme is complete, a choice
takes the option that continues towards the scheme of the record; elsewhere it takes its first. The
parameters follow behind a question mark, unless there are none.
-/
namespace DsnBinding

/-- The texts of the variables, and the scheme that the output should start with. -/
structure Filling where
  texts : OrderedMap Text Text
  scheme : Text
  deriving Repr, DecidableEq, Inhabited

def Filling.text (filling : Filling) (name : Text) : Text := (filling.texts.get? name).getD []

/-- The option of a choice behind what is written so far. -/
def Filling.option (filling : Filling) (written : Text) (options : List Text) : Text :=
  if filling.scheme.isEmpty || written.includes schemeMark then options.headD []
  else
    ((longestFirst options).find? fun option => (written ++ option).isPrefixOf filling.scheme).getD
      (options.headD [])

mutual

def Segment.hasText (filling : Filling) : Segment → Bool
  | .capture name _ _ => !(filling.text name).isEmpty
  | .group inner => Segments.hasText filling inner
  | .literal _ | .choice _ | .bare => false

def Segments.hasText (filling : Filling) : Segments → Bool
  | [] => false
  | segment :: rest => segment.hasText filling || Segments.hasText filling rest

end

mutual

def Segment.write (filling : Filling) : Segment → Text → Text
  | .literal text, written => written ++ text
  | .capture name _ _, written => written ++ filling.text name
  | .choice options, written => written ++ filling.option written options
  | .group inner, written =>
    if Segments.hasText filling inner then Segments.write filling inner written else written
  | .bare, written => written

def Segments.write (filling : Filling) : Segments → Text → Text
  | [], written => written
  | segment :: rest, written => Segments.write filling rest (segment.write filling written)

end

/-- The text of a field under which something is read. -/
def Field.textOf (f : Field) : Reading → Except WritingFailure Text
  | .value v => f.toText v
  | .type kind name =>
    match f.kind with
    | .map => .error (.notAMap (if kind == .value .map then .mapType else .type name))
    | .bool => f.toText (.bool true)
    | .string | .integer | .untyped => .ok (kind.shownType name).toList
  | .provided typeName shown isTruthy =>
    match f.kind with
    | .map => if isTruthy then .error (.notAMap (.object typeName)) else .ok []
    | .bool => f.toText (.bool isTruthy)
    | .string | .integer | .untyped =>
      match shown with
      | some text => .ok text
      | none => .error .tooManyDigits

def Field.textIn (f : Field) (record : Record) : Except WritingFailure Text := f.textOf (record.read f.name)

namespace Schema

/-- The text of each variable. Of several fields on one variable the last one with a text counts. -/
def textsIn (record : Record) : List Field → OrderedMap Text Text →
    Except WritingFailure (OrderedMap Text Text)
  | [], texts => .ok texts
  | f :: rest, texts =>
    if f.isParams then textsIn record rest texts
    else
      match f.textIn record with
      | .error error => .error error
      | .ok text =>
        textsIn record rest
          (if text.isEmpty && texts.contains f.variableName then texts
          else texts.insert f.variableName text)

def textOf? (record : Record) : Option Field → Except WritingFailure Text
  | none => .ok []
  | some f => f.textIn record

def filling (s : Schema) (record : Record) : Except WritingFailure Filling :=
  match textsIn record s.fields .empty with
  | .error error => .error error
  | .ok texts => (textOf? record s.schemeField?).map (⟨texts, ·⟩)

/-- The query part of the output, with its question mark. -/
def querySuffix (params : Text) : Text := if params.isEmpty then [] else '?' :: params

def format (s : Schema) (record : Record) : Except WritingFailure Text :=
  match s.filling record with
  | .error error => .error error
  | .ok filling =>
    (textOf? record s.paramsField?).map fun params =>
      Segments.write filling s.pattern.segments [] ++ querySuffix params

end Schema

inductive FormatFailure where
  | schema (failure : SchemaFailure)
  | writing (failure : WritingFailure)
  deriving Repr, DecidableEq, Inhabited

/-- Format a record, given what became of the schema of its type. -/
def Record.formatWith (record : Record) (schema : Except SchemaFailure Schema) :
    Except FormatFailure Text :=
  match schema with
  | .error failure => .error (.schema failure)
  | .ok s =>
    match s.format record with
    | .error failure => .error (.writing failure)
    | .ok text => .ok text

def RecordType.format (type : RecordType) (record : Record) : Except FormatFailure Text :=
  record.formatWith (Schema.ofRecordType type)

end DsnBinding
