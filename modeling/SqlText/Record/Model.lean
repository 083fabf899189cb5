import SqlText.Decimal.Binary
import SqlText.Decimal.Numeral
import SqlText.Fault
import SqlText.Row

/-!
# Models and records — rows as values with named fields

A model describes the records of a table by its fields. A field takes values of one
type, from a row's entry under its *key*: its alias if it has one, otherwise its name.
A record of a model has a value for each field of the model, in the model's order; that
is the invariant of the type.

Reading a row checks every field and reports all that is wrong at once. Entries that
no field asks for are left aside. Writing a record back gives a row by key, in which
fields that share a key share an entry.
-/

namespace SqlText

/-- The values that a field takes. -/
inductive Field.Kind where
  | text
  | integer
  | any
deriving DecidableEq, Repr

/-- A field of a model. -/
structure Field where
  name : String
  kind : Field.Kind
  /-- The absent value is taken as well. -/
  nullable : Bool := false
  alias? : Option String := none
  /-- The value if the row has no entry for the field; without one, an entry is required. -/
  default? : Option Value := none

namespace Field

/-- The key of the field's entry in a row. -/
def key (f : Field) : String :=
  f.alias?.getD f.name

/-- The column that a change of the field is written to. An empty alias names no column. -/
def column (f : Field) : String :=
  match f.alias? with
  | some a => if a = "" then f.name else a
  | none => f.name

/-- Floats stand for an integer only below this magnitude. -/
def floatLimit : Nat := Nat.pow 2 63

/-- Numerals are read only with at most as many digits. -/
def maxDigits : Nat := 4300

/-- The integer that a value stands for. -/
def readInteger : Value → Except Issue.Cause Value
  | .int n => .ok (.int n)
  | .bool b => .ok (.int (if b then 1 else 0))
  | .float x =>
    let reading := Decimal.readFloat x
    match reading.toInt? with
    | some n => if n.natAbs < floatLimit then .ok (.int n) else .error .oversized
    | none => .error (if reading.isFinite then .fractional else .notFinite)
  | .text s =>
    match Decimal.Numeral.read? s with
    | some n => if n.digits.length ≤ maxDigits then .ok (.int n.toInt) else .error .oversized
    | none => .error .unparsable
  | .null | .list _ | .map _ => .error .notInteger

/-- The value that the field takes for a given one. -/
def accept (f : Field) (value : Value) : Except Issue.Cause Value :=
  if f.nullable && value.isNull then .ok .null
  else
    match f.kind, value with
    | .any, value => .ok value
    | .text, .text s => .ok (.text s)
    | .text, _ => .error .notText
    | .integer, value => readInteger value

/-- The value of the field in a row. -/
def read (f : Field) (row : Row) : Except Issue Value :=
  match row.lookup f.key, f.default? with
  | some value, _ => (f.accept value).mapError (.at f.key)
  | none, some value => .ok value
  | none, none => .error (.at f.key .missing)

end Field

/-- The description of records by their fields. -/
structure Model where
  name : String
  fields : List Field

/-- A value for each field of the model. -/
structure Record (model : Model) where
  slots : List (Field × Value)
  fields_eq : slots.map Prod.fst = model.fields

namespace Model

/-- A value for each field in a row, or all issues in the order of the fields. -/
def readSlots (row : Row) : (fields : List Field) →
    Except (List Issue) { slots : List (Field × Value) // slots.map Prod.fst = fields }
  | [] => .ok ⟨[], rfl⟩
  | f :: fields =>
    match f.read row, readSlots row fields with
    | .ok value, .ok slots => .ok ⟨(f, value) :: slots.1, by rw [List.map_cons, slots.2]⟩
    | .ok _, .error issues => .error issues
    | .error issue, .ok _ => .error [issue]
    | .error issue, .error issues => .error (issue :: issues)

/-- The record that a row holds. Assumed of the validation of records: a field is read from
    the entry under its key and from no other one, entries that no field asks for are passed
    over, and all fields are checked before anything is reported. -/
def read (model : Model) (row : Row) : Except Fault (Record model) :=
  match readSlots row model.fields with
  | .ok slots => .ok ⟨slots.1, slots.2⟩
  | .error issues => .error (.invalid (.record model.name) issues)

/-- The field of a name. -/
def field? (model : Model) (name : String) : Option Field :=
  model.fields.find? (·.name = name)

end Model

namespace Record

variable {model : Model}

/-- The values by the names of the fields. -/
def values (r : Record model) : List (String × Value) :=
  r.slots.map fun slot => (slot.1.name, slot.2)

/-- The values by the keys of the fields. Assumed of the dump of a record: it goes through the
    fields in the order of the model and leaves their values as they are, and of fields that
    share a key the first one gives the place and the last one the value. -/
def toRow (r : Record model) : Row :=
  .ofEntries (r.slots.map fun slot => (slot.1.key, slot.2))

/-- The record with other values for some fields. Assumed of the copy of a record: the new
    values are taken as they are, without validation, the other fields keep theirs, and the
    given record is not touched. -/
def update (r : Record model) (changes : List (String × Value)) : Record model where
  slots := r.slots.map fun slot => (slot.1, (changes.lookup slot.1.name).getD slot.2)
  fields_eq := by
    rw [← r.fields_eq, List.map_map]
    rfl

end Record

end SqlText
