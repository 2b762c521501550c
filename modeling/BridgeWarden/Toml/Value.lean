import BridgeWarden.Number.Binary64

/-!
The values of a TOML document, and the rules by which its lines build up a table. A table knows how
it came to be, since that decides what later lines may add to it.
-/

namespace BridgeWarden

/-- How a table came to be. -/
inductive Toml.Origin where
  /-- By a header of its own; also the document itself. -/
  | headed
  /-- By a header of a table below it. -/
  | implied
  /-- By a dotted name. -/
  | dotted
  /-- Written in braces; nothing can be added to it. -/
  | sealed
  deriving DecidableEq, Inhabited

inductive Toml where
  | str (s : String)
  | int (n : Int)
  | real (x : Binary64)
  | bool (b : Bool)
  /-- A date, a time or both. -/
  | moment
  | list (items : List Toml)
  /-- Tables with one header, each with its occurrence. -/
  | tables (items : List Toml)
  | table (origin : Toml.Origin) (fields : List (String × Toml))
  deriving Inhabited

namespace Toml

abbrev Fields := List (String × Toml)

/-- A list with its last item replaced. -/
def replaceLast (items : List Toml) (t : Toml) : List Toml := items.dropLast ++ [t]

/-- The fields with one of them replaced, or added at the end. -/
def setField (name : String) (value : Toml) : Fields → Fields
  | [] => [(name, value)]
  | (k, v) :: rest => if k = name then (k, value) :: rest else (k, v) :: setField name value rest

/-- What happens to the fields of one table, given its origin. -/
abbrev Edit := Origin → Fields → Option Fields

/-- Edits the table at a path, made where it is missing. A path of a header goes to the last of
several tables with one header; a dotted name does not, nor does it enter a table with a header. -/
def editAt (dotted : Bool) (edit : Edit) : List String → Edit
  | [], origin, fields => edit origin fields
  | name :: rest, _, fields =>
      match fields.lookup name with
      | none =>
          let origin := if dotted then Origin.dotted else .implied
          (editAt dotted edit rest origin []).map fun inner =>
            setField name (.table origin inner) fields
      | some (.table origin inner) =>
          if origin = .sealed ∨ (dotted ∧ origin = .headed) then none
          else (editAt dotted edit rest origin inner).map fun inner =>
            setField name (.table origin inner) fields
      | some (.tables items) =>
          match dotted, items.getLast? with
          | false, some (.table origin inner) =>
              (editAt dotted edit rest origin inner).map fun inner =>
                setField name (.tables (replaceLast items (.table origin inner))) fields
          | _, _ => none
      | some _ => none

/-- Gives a new field a value. At the end of a dotted name the table has to be one that dotted names
made, and otherwise not. -/
def define (dotted : Bool) (name : String) (value : Toml) : Edit := fun origin fields =>
  if decide (origin = .dotted) ≠ dotted ∨ (fields.lookup name).isSome then none
  else some (fields ++ [(name, value)])

/-- Gives the field of a dotted name a value. -/
def assign (path : List String) (value : Toml) : Edit :=
  match path.getLast? with
  | some name =>
      let above := path.dropLast
      editAt true (define (!above.isEmpty) name value) above
  | none => fun _ _ => none

/-- A header for one table: it is new, or only implied so far. -/
def head (name : String) : Edit := fun _ fields =>
  match fields.lookup name with
  | none => some (fields ++ [(name, .table .headed [])])
  | some (.table .implied inner) => some (setField name (.table .headed inner) fields)
  | some _ => none

/-- A header for one more of several tables. -/
def headMore (name : String) : Edit := fun _ fields =>
  let fresh := Toml.table .headed []
  match fields.lookup name with
  | none => some (fields ++ [(name, .tables [fresh])])
  | some (.tables items) => some (setField name (.tables (items ++ [fresh])) fields)
  | some _ => none

/-- The header of a path. -/
def openTable (several : Bool) (path : List String) : Edit :=
  match path.getLast? with
  | some name => editAt false (if several then headMore name else head name) path.dropLast
  | none => fun _ _ => none

end Toml

end BridgeWarden
