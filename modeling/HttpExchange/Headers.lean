import HttpExchange.Text.Basic

/-!
Header fields in insertion order. A name stands for itself in every letter case: setting it again
replaces the field where it stands, removing it leaves the other fields as they are.
-/
namespace HttpExchange

/-- One header line, name and value as they are written. -/
structure Field where
  name : String
  value : String
  deriving Repr, DecidableEq

/-- Header fields in the order in which they are written. -/
structure Headers where
  fields : List Field
  deriving Repr, DecidableEq

namespace Headers
open Text (sameIgnoringCase)

def empty : Headers := ⟨[]⟩

/-- The field carries the name in some letter case. -/
def named (name : String) (field : Field) : Bool := sameIgnoringCase field.name name

/-- The value of the first field of a name. -/
def get? (h : Headers) (name : String) : Option String := (h.fields.find? (named name)).map Field.value

def contains (h : Headers) (name : String) : Bool := h.fields.any (named name)

/-- Puts a field in place of the first of its name and drops the later ones; a new name comes last. -/
def put (new : Field) : List Field → List Field
  | [] => [new]
  | field :: rest =>
    if named new.name field then new :: rest.filter (fun later => !named new.name later)
    else field :: put new rest

/-- Sets the value of a name, with the spelling given here. -/
def set (h : Headers) (name value : String) : Headers := ⟨put ⟨name, value⟩ h.fields⟩

/-- Drops every field of a name. -/
def erase (h : Headers) (name : String) : Headers := ⟨h.fields.filter (fun field => !named name field)⟩

/-- Takes the fields of a name out of a list: the value of the first of them, and the fields that are left. -/
def takeOut (name : String) : List Field → Option String × List Field
  | [] => (none, [])
  | field :: rest =>
    let (later, kept) := takeOut name rest
    if named name field then (some field.value, kept) else (later, field :: kept)

/-- Takes out every field of a name; it gives the value of the first of them. -/
def remove (h : Headers) (name : String) : Option String × Headers :=
  let (value, kept) := takeOut name h.fields
  (value, ⟨kept⟩)

def setAll (h : Headers) (fields : List Field) : Headers :=
  fields.foldl (fun h field => h.set field.name field.value) h

/-- The headers that result from setting the fields of a list one after the other. -/
def ofList (fields : List Field) : Headers := empty.setAll fields

def size (h : Headers) : Nat := h.fields.length

def isEmpty (h : Headers) : Bool := h.fields.isEmpty

end Headers
end HttpExchange
