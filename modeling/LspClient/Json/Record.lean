import LspClient.Json.Decoder

/-!
# Records

A record is decoded from an object, whose members may come in any order, or from an array with the
fields in their declared order, the last of which may be missing. A field may have a second
spelling; to hold both is to hold the field twice.

`Record.decode` gives each field the value found for it, independently of the others. Which fault is
reported when there are several is a separate matter, settled by `firstFault`: the first one in the
order of the object's members.
-/

namespace LspClient.Json

/-- A field of a record. -/
structure Field where
  /-- The name it is written with. -/
  name : String
  /-- Another name that it may be given by, if it has one. -/
  altName : Option String
  deriving DecidableEq, Repr

namespace Field

/-- Whether a member's name is a spelling of the field. -/
def spells (f : Field) (name : String) : Bool :=
  name == f.name || f.altName == some name

/-- The values that members give a field, in either spelling. -/
def occurrences (f : Field) (ms : Members) : List Json :=
  (ms.filter fun m ↦ f.spells m.1).map (·.2)

end Field

/-- What a record is decoded from. -/
inductive Source where
  | members (ms : Members)
  | elements (xs : List Json)

/-- The value of a field, which has its place in the declared order; none where it is missing. -/
def Source.field {α : Type} (source : Source) (place : Nat) (f : Field) (decode : Decoder α) :
    Except Mismatch (Option α) :=
  match source with
  | .members ms =>
    match f.occurrences ms with
    | [] => .ok none
    | [v] => (decode v).map some
    | _ => .error (.duplicateField f.name)
  | .elements xs =>
    match xs[place]? with
    | none => .ok none
    | some v => (decode v).map some

/-- The value of a field that must be there. -/
def Source.required {α : Type} (source : Source) (place : Nat) (f : Field) (decode : Decoder α)
    (whole : String) : Except Mismatch α :=
  match source.field place f decode with
  | .error e => .error e
  | .ok (some a) => .ok a
  | .ok none =>
    match source with
    | .members _ => .error (.missingField f.name)
    | .elements _ => .error (.wrongLength place whole)

/-- A decoder that keeps only whether it succeeds. -/
def check {α : Type} (decode : Decoder α) : Decoder Unit := fun v ↦
  (decode v).map fun _ ↦ ()

/-- The first fault in the order of the members: a field that is there again, or a value that does
not have its field's shape. The fields met so far are in `seen`. -/
def firstFault (layout : List (Field × Decoder Unit)) :
    (seen : List Field) → Members → Except Mismatch Unit
  | _, [] => .ok ()
  | seen, (name, v) :: ms =>
    match layout.find? fun (f, _) ↦ f.spells name with
    | none => firstFault layout seen ms
    | some (f, checkValue) =>
      if f ∈ seen then .error (.duplicateField f.name)
      else
        match checkValue v with
        | .error e => .error e
        | .ok () => firstFault layout (f :: seen) ms

/-- How a record is decoded. -/
structure Record (α : Type) where
  /-- What messages call it. -/
  name : String
  /-- Its fields in their declared order. -/
  layout : List (Field × Decoder Unit)
  /-- Gives each field its value. -/
  build : Source → Except Mismatch α

namespace Record

variable {α : Type} (record : Record α)

/-- What messages say was expected. -/
def expected : String :=
  s!"struct {record.name}"

/-- Decodes a record from an object. -/
def ofMembers (ms : Members) : Except Mismatch α :=
  match firstFault record.layout [] ms with
  | .error e => .error e
  | .ok () => record.build (.members ms)

/-- Decodes a record from an array, which may not be longer than the record has fields. -/
def ofElements (xs : List Json) : Except Mismatch α :=
  match record.build (.elements xs) with
  | .error e => .error e
  | .ok a =>
    if xs.length ≤ record.layout.length then .ok a
    else .error (.wrongLength xs.length "fewer elements in array")

/-- Decodes a record from an object or an array. Members that are no fields are ignored. -/
def decode : Decoder α
  | .object ms => record.ofMembers ms
  | .array xs => record.ofElements xs
  | v => unexpected record.expected v

/-- The members that are no fields. -/
def others (ms : Members) : Members :=
  ms.filter fun m ↦ !record.layout.any fun (f, _) ↦ f.spells m.1

/-- Decodes a record from an object and keeps the members that are no fields. -/
def decodeOpen : Decoder (α × Members)
  | .object ms =>
    match record.ofMembers ms with
    | .error e => .error e
    | .ok a => (decodeMembers aloneInPart (record.others ms)).map fun others ↦ (a, others)
  | v => unexpected record.expected v

end Record

end LspClient.Json
