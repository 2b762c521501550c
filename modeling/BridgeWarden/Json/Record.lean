import BridgeWarden.Json.Value

/-!
Records and choices read from JSON. A record is an object, whose unknown fields are passed over
and whose known ones occur at most once, or an array of its fields in order. A choice carries its
name under a tag among its fields, or as the first item of an array; all of its fields are kept
while the tag is looked for, so each has to be readable and they may not lie too deep.
-/

namespace BridgeWarden.Json

/-- How deep arrays and objects may lie inside one another. -/
def depthLimit : Nat := 127

/-- The one value of a field, if it occurs at most once; none inside if it does not occur. -/
def single? (name : String) (fields : List (String × Json)) : Option (Option Json) :=
  match fields.filter (·.1 == name) with
  | [] => some none
  | [f] => some (some f.2)
  | _ => none

/-- The values of a record's fields, none for those left out. -/
def record? (names : List String) : Json → Option (List (Option Json))
  | .obj fields => names.mapM fun n => single? n fields
  | .arr items => if items.length = names.length then some (items.map some) else none
  | _ => none

/-- What a choice holds besides its tag. -/
inductive Parts where
  | named (fields : List (String × Json))
  | listed (items : List Json)

/-- The values of the parts as those of a record. -/
def Parts.record? (names : List String) : Parts → Option (List (Option Json))
  | .named fields => Json.record? names (.obj fields)
  | .listed items => Json.record? names (.arr items)

/-- Whether a choice without fields may have these parts. -/
def Parts.isUnit : Parts → Bool
  | .named _ => true
  | .listed items => items.isEmpty

/-- Which choice a tag's value names. One that is kept inside another choice may be given by its
number, counted from zero. -/
def variant? (variants : List String) (kept : Bool) : Json → Option Nat
  | .str s => variants.idxOf? s
  | .int n => if kept ∧ 0 ≤ n ∧ n < variants.length then some n.toNat else none
  | _ => none

/-- The choice's number and its other parts. -/
def choice? (tag : String) (variants : List String) (kept : Bool) : Json → Option (Nat × Parts)
  | .obj fields => do
      let some value ← single? tag fields | none
      let v ← variant? variants kept value
      return (v, .named (fields.filter (·.1 != tag)))
  | .arr (value :: items) => do
      let v ← variant? variants kept value
      return (v, .listed items)
  | _ => none

/-- Whether the value may be kept while a tag is looked for, `level` containers deep. -/
def keepable (level : Nat) (j : Json) : Bool := j.readable && level + j.nesting ≤ depthLimit

/-- A choice without fields: its name, or an object from its name to null. -/
def plainChoice? (variants : List String) : Json → Option Nat
  | .str s => variants.idxOf? s
  | .obj [(name, .null)] => variants.idxOf? name
  | _ => none

/-- A required field. -/
def required {α : Type} (f : Json → Option α) : Option Json → Option α
  | some j => f j
  | none => none

/-- A field that may be null or left out. -/
def optional {α : Type} (f : Json → Option α) : Option Json → Option (Option α)
  | none => some none
  | some .null => some none
  | some j => (f j).map some

/-- A natural number below a limit. -/
def natBelow? (limit : Nat) : Json → Option Nat
  | .int n => if 0 ≤ n ∧ n < limit then some n.toNat else none
  | _ => none

def bool? : Json → Option Bool
  | .bool b => some b
  | _ => none

def str? : Json → Option String
  | .str s => some s
  | _ => none

end BridgeWarden.Json
