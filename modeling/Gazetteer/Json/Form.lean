/-
# Gazetteer.Json.Form -- how a type is written as JSON

A `Form` ties a type to a shape: it turns a value into the data of the shape and back, and nothing
is lost on the way. Forms are put together from smaller ones; the form of a record is made of a
`Row`, which lists its fields in their order.
-/
import Gazetteer.Json.Shape

namespace Gazetteer.Json

/-! ## Forms -/

/-- A shape for the values of a type. -/
structure Form (α : Type) where
  shape : Shape
  toData : α → shape.Value
  ofData : shape.Value → α
  /-- The data of a value gives the value back. -/
  ofData_toData : ∀ a, ofData (toData a) = a

namespace Form

variable {α : Type}

/-- A text. -/
def text : Form Text := ⟨.text, id, id, fun _ => rfl⟩

/-- A truth value. -/
def boolean : Form Bool := ⟨.boolean, id, id, fun _ => rfl⟩

/-- A count. -/
def count : Form Nat := ⟨.count, id, id, fun _ => rfl⟩

/-- A value that may be absent; null stands for its absence. -/
def nullable (f : Form α) : Form (Option α) where
  shape := .nullable f.shape
  toData := Option.map f.toData
  ofData := Option.map f.ofData
  ofData_toData
    | none => rfl
    | some a => congrArg some (f.ofData_toData a)

/-- A list of values. -/
def list (f : Form α) : Form (List α) where
  shape := .list f.shape
  toData := List.map f.toData
  ofData := List.map f.ofData
  ofData_toData as :=
    (List.map_map).trans
      ((List.map_congr_left (fun a _ => f.ofData_toData a)).trans (List.map_id as))

/-- One of finitely many values, each of which has a name. -/
def label [DecidableEq α] (all : List α) (complete : ∀ a, a ∈ all) (name : α → Text) : Form α where
  shape := .label (all.map name)
  toData a := ⟨all.idxOf a, by
    rw [List.length_map]
    exact List.idxOf_lt_length_of_mem (complete a)⟩
  ofData i := all.get (i.cast (List.length_map name))
  ofData_toData a := List.getElem_idxOf (List.idxOf_lt_length_of_mem (complete a))

end Form

/-! ## Records -/

/-- The fields of a record, as a form of the tuple of their values. -/
structure Row (β : Type) where
  fields : Fields
  toData : β → fields.Values
  ofData : fields.Values → β
  /-- The data of a tuple gives the tuple back. -/
  ofData_toData : ∀ b, ofData (toData b) = b

namespace Row

variable {α β : Type}

/-- No more fields. -/
def done : Row Unit := ⟨.nil, fun _ => (), fun _ => (), fun _ => rfl⟩

/-- A field in front of others. -/
def field (key : Text) (optional : Bool) (f : Form α) (rest : Row β) : Row (α × β) where
  fields := .cons key optional f.shape rest.fields
  toData v := (f.toData v.1, rest.toData v.2)
  ofData v := (f.ofData v.1, rest.ofData v.2)
  ofData_toData v := Prod.ext (f.ofData_toData v.1) (rest.ofData_toData v.2)

end Row

namespace Form

variable {α β : Type}

/-- A record with a title, given by its fields. -/
def record (title : Text) (row : Row β) (toTuple : α → β) (ofTuple : β → α)
    (law : ∀ a, ofTuple (toTuple a) = a) : Form α where
  shape := .record title row.fields
  toData a := row.toData (toTuple a)
  ofData v := ofTuple (row.ofData v)
  ofData_toData a := (congrArg ofTuple (row.ofData_toData (toTuple a))).trans (law a)

/-! ## Writing and reading -/

/-- The JSON value of a value. -/
def toJson (f : Form α) (a : α) : Json := f.shape.encode (f.toData a)

/-- Reads a stream that holds one value and nothing else. -/
def decode (f : Form α) (stream : Storage.Stream) : Except Fault α :=
  (f.shape.decode stream).map f.ofData

end Form

end Gazetteer.Json
