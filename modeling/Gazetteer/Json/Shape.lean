/-
# Gazetteer.Json.Shape -- the shapes of data, written and read

A `Shape` says what a piece of data looks like in JSON: a text, a truth value, a count, something
that may be null, a list, one of some labels, or a record of named fields. `Shape.Value` is the type
of the data of a shape. `Shape.encode` writes it and `Shape.read` reads it back.

A record is read from an object or from a list. In an object the fields may come in any order,
fields that are not known are passed over whatever they hold, and no field may come twice; a field
that is missing is null if it may be null, and takes its default if it is optional. In a list the
fields come in their order; only optional ones may be missing, all at the end. The first fault in
the order of the text is the one that is told, and a missing field is told of when the object or
list ends.
-/
import Gazetteer.Json.Skip
import Gazetteer.Json.Value

namespace Gazetteer.Json

/-! ## Shapes and their data -/

mutual

/-- What a piece of data looks like. -/
inductive Shape where
  | text
  | boolean
  /-- A number from zero to what fits into sixty-four bits. -/
  | count
  | nullable (s : Shape)
  | list (s : Shape)
  | label (labels : List Text)
  | record (title : Text) (fields : Fields)

/-- The fields of a record, each with its key. An optional field has a default. -/
inductive Fields where
  | nil
  | cons (key : Text) (optional : Bool) (s : Shape) (rest : Fields)

end

mutual

/-- The data of a shape; a label is told by its place in the list. -/
def Shape.Value : Shape → Type
  | .text => Text
  | .boolean => Bool
  | .count => Nat
  | .nullable s => Option s.Value
  | .list s => List s.Value
  | .label labels => Fin labels.length
  | .record _ fields => fields.Values

/-- The data of all fields of a record, in order. -/
def Fields.Values : Fields → Type
  | .nil => Unit
  | .cons _ _ s rest => s.Value × rest.Values

end

/-- The number of fields. -/
def Fields.size : Fields → Nat
  | .nil => 0
  | .cons _ _ _ rest => rest.size + 1

/-! ## Writing -/

mutual

/-- The data of a shape as a JSON value. -/
def Shape.encode : (s : Shape) → s.Value → Json
  | .text, t => .text t
  | .boolean, b => .boolean b
  | .count, n => .number n
  | .nullable _, none => .null
  | .nullable s, some v => s.encode v
  | .list s, vs => .array (List.map (fun v => s.encode v) vs)
  | .label labels, i => .text (labels.get i)
  | .record _ fields, vs => .object (fields.encodeMembers vs)

/-- The fields of a record as the members of an object. -/
def Fields.encodeMembers : (fs : Fields) → fs.Values → List (Text × Json)
  | .nil, _ => []
  | .cons key _ s rest, vs => (key, s.encode vs.1) :: rest.encodeMembers vs.2

end

/-! ## Reading what is not expected -/

/-- Tells what stands at the front in place of what is expected. Words, numbers and texts are read
first, and may turn out to be malformed. -/
def unexpected {α : Type} (expected : Expected) : Reader α := do
  let refuse (found : Found) : Reader α := Reader.refuse (.wrongKind found expected)
  let first ← Reader.peek
  if first = 'n' then
    Reader.word "null"
    refuse .null
  else if first = 't' then
    Reader.word "true"
    refuse (.boolean true)
  else if first = 'f' then
    Reader.word "false"
    refuse (.boolean false)
  else if first = '-' then
    Reader.advance
    refuse (← readNumber true).found
  else if first.isDigit then refuse (← readNumber false).found
  else if first = '"' then
    Reader.advance
    refuse (.text (← quotedText))
  else if first = '[' then refuse .sequence
  else if first = '{' then refuse .map
  else Reader.fail .malformed

/-! ## Reading plain data -/

/-- Reads a text, which is expected as something. -/
def readWord (expected : Expected) : Reader Text := do
  if (← Reader.token) = '"' then
    Reader.advance
    quotedText
  else unexpected expected

/-- Reads a text. -/
def readText : Reader Text := readWord .text

/-- Reads a truth value. -/
def readBoolean : Reader Bool := do
  let first ← Reader.token
  if first = 't' then
    Reader.word "true"
    pure true
  else if first = 'f' then
    Reader.word "false"
    pure false
  else unexpected .boolean

/-- A number as a count. -/
def countOf : Number → Reader Nat
  | .natural n => pure n
  | .negative n => Reader.refuse (.wrongValue (.integer n) .count)
  | .floating x => Reader.refuse (.wrongKind (.floating x) .count)

/-- Reads a count. -/
def readCount : Reader Nat := do
  let first ← Reader.token
  if first = '-' then
    Reader.advance
    countOf (← readNumber true)
  else if first.isDigit then countOf (← readNumber false)
  else unexpected .count

/-- Reads null or what the reader reads. -/
def readNullable {α : Type} (item : Reader α) : Reader (Option α) := do
  if (← Reader.token) = 'n' then
    Reader.word "null"
    pure none
  else some <$> item

/-! ## Reading lists -/

/-- Whether another item of a list follows; the comma before it is taken. -/
def moreItems (isFirst : Bool) : Reader Bool := do
  let sign ← Reader.token
  if sign = ']' then pure false
  else if isFirst then pure true
  else if sign = ',' then
    Reader.advance
    if (← Reader.token) = ']' then Reader.fail .malformed else pure true
  else Reader.fail .malformed

/-- Reads the items of a list up to its closing bracket, which stays; the bound counts them. -/
def readItems {α : Type} (item : Reader α) : Nat → Bool → Reader (List α)
  | 0, _ => Reader.next *> Reader.fail .malformed
  | bound + 1, isFirst => do
    if ← moreItems isFirst then
      let v ← item
      (v :: ·) <$> readItems item bound false
    else pure []

/-- Takes the closing bracket of a list. -/
def closeList : Reader Unit := do
  if (← Reader.token) = ']' then Reader.advance else Reader.fail .malformed

/-- The number of bytes that are left, which is more than there are items to come. -/
def remaining : Reader Nat := fun _ bytes => .ok (bytes.length, bytes)

/-- Reads a list. -/
def readList {α : Type} (item : Reader α) : Reader (List α) := do
  if (← Reader.token) = '[' then
    Reader.advance
    let vs ← readItems item ((← remaining) + 1) true
    closeList
    pure vs
  else unexpected .sequence

/-! ## Reading labels -/

/-- Reads one of some labels, as its place among them. -/
def readLabel (labels : List Text) : Reader (Fin labels.length) := do
  let given ← readWord .label
  match labels.finIdxOf? given with
  | some i => pure i
  | none => Reader.refuse (.unknownLabel given labels)

/-- Takes a null. -/
def readUnit : Reader Unit := do
  if (← Reader.token) = 'n' then Reader.word "null" else unexpected .unit

/-- Reads a label that stands alone, or as the only key of an object, with null as its value. -/
def readChoice (labels : List Text) : Reader (Fin labels.length) := do
  let first ← Reader.token
  if first = '{' then
    Reader.advance
    let i ← readLabel labels
    Reader.colon
    readUnit
    if (← Reader.token) = '}' then
      Reader.advance
      pure i
    else Reader.fail .malformed
  else if first = '"' then readLabel labels
  else Reader.fail .malformed

/-! ## Fields in progress -/

/-- The fields of a record that were read so far. -/
def Fields.Partial : Fields → Type
  | .nil => Unit
  | .cons _ _ s rest => Option s.Value × rest.Partial

/-- No field was read. -/
def Fields.start : (fs : Fields) → fs.Partial
  | .nil => ()
  | .cons _ _ _ rest => (none, rest.start)

/-- What a field is that may be null and is missing from an object. -/
def Shape.whenMissing : (s : Shape) → Option s.Value
  | .nullable _ => some none
  | _ => none

/-- The default of an optional field. -/
def Shape.byDefault : (s : Shape) → Option s.Value
  | .nullable _ => some none
  | .list _ => some []
  | _ => none

/-- The value of a field that is missing from an object, if it may be. -/
def Shape.inObject (optional : Bool) (s : Shape) : Option s.Value :=
  if optional then s.byDefault else s.whenMissing

/-- The value of a field that is missing at the end of a list, if it may be. -/
def Shape.inList (optional : Bool) (s : Shape) : Option s.Value :=
  if optional then s.byDefault else none

/-- The record when its object ends; the first field that may not be missing is told of. -/
def Fields.complete : (fs : Fields) → fs.Partial → Except Mismatch fs.Values
  | .nil, _ => .ok ()
  | .cons key optional s rest, (v, vs) =>
    match v <|> s.inObject optional with
    | none => .error (.missingField key)
    | some v =>
      match rest.complete vs with
      | .ok vs => .ok (v, vs)
      | .error m => .error m

/-- Whether another member of an object follows; the comma before it is taken. -/
def moreMembers (isFirst : Bool) : Reader Bool := do
  let sign ← Reader.token
  if sign = '}' then pure false
  else if isFirst then
    if sign = '"' then pure true else Reader.fail .malformed
  else if sign = ',' then
    Reader.advance
    if (← Reader.token) = '"' then pure true else Reader.fail .malformed
  else Reader.fail .malformed

/-- Takes the closing brace of an object. -/
def closeObject : Reader Unit := do
  if (← Reader.token) = '}' then Reader.advance else Reader.fail .malformed

/-- Reads the members of an object up to its closing brace, which stays; the bound counts them. -/
def readMembers {σ : Type} (member : Text → σ → Reader σ) : Nat → Bool → σ → Reader σ
  | 0, _, _ => Reader.next *> Reader.fail .malformed
  | bound + 1, isFirst, state => do
    if ← moreMembers isFirst then
      Reader.advance
      let key ← quotedText
      let state ← member key state
      readMembers member bound false state
    else pure state

/-! ## Reading data -/

mutual

/-- Reads the data of a shape. -/
def Shape.read : (s : Shape) → Reader s.Value
  | .text => readText
  | .boolean => readBoolean
  | .count => readCount
  | .nullable s => readNullable s.read
  | .list s => readList s.read
  | .label labels => readChoice labels
  | .record title fields => do
    let first ← Reader.token
    if first = '{' then
      Reader.advance
      let state ← readMembers (fun key state => fields.readMember key state)
        ((← remaining) + 1) true fields.start
      match fields.complete state with
      | .error m => Reader.refuse m
      | .ok vs =>
        closeObject
        pure vs
    else if first = '[' then
      Reader.advance
      let vs ← fields.readInOrder title fields.size 0
      closeList
      pure vs
    else unexpected (.record title)

/-- Reads the value of a member behind its key. -/
def Fields.readMember : (fs : Fields) → Text → fs.Partial → Reader fs.Partial
  | .nil, _, state => do
    Reader.colon
    skipValue
    pure state
  | .cons key _ s rest, k, (v, vs) =>
    if k = key then
      if v.isSome then Reader.refuse (.duplicateField key)
      else do
        Reader.colon
        let v ← s.read
        pure (some v, vs)
    else do
      let vs ← rest.readMember k vs
      pure (v, vs)

/-- Reads the fields of a record from a list up to its closing bracket, which stays. -/
def Fields.readInOrder : (fs : Fields) → Text → Nat → Nat → Reader fs.Values
  | .nil, _, _, _ => pure ()
  | .cons _ optional s rest, title, size, index => do
    if ← moreItems (index = 0) then
      let v ← s.read
      let vs ← rest.readInOrder title size (index + 1)
      pure (v, vs)
    else
      match s.inList optional with
      | none => Reader.refuse (.tooShort index title size)
      | some v =>
        let vs ← rest.readInOrder title size (index + 1)
        pure (v, vs)

end

/-- Reads a stream that holds the data of a shape and nothing else. -/
def Shape.decode (s : Shape) (stream : Storage.Stream) : Except Fault s.Value :=
  ((do
    let v ← s.read
    Reader.finish
    pure v : Reader s.Value) stream.ending stream.bytes).map (·.1)

end Gazetteer.Json
