import BridgeWarden.Json.Value
import BridgeWarden.Number.Shortest
import BridgeWarden.Text.Quoted
import BridgeWarden.Toml.Value

/-!
What settings are read from: a tree of tables, lists and plain values, whose tables have their
fields sorted by name. It comes from a document in one of two formats. These agree on what a tree
is and differ in how they name a value that is not as expected.
-/

namespace BridgeWarden.Settings

inductive Node where
  | null
  | bool (b : Bool)
  | int (n : Int)
  | real (x : Binary64)
  | str (s : String)
  /-- A date, a time or both. -/
  | moment
  | list (items : List Node)
  | table (fields : List (String × Node))
  deriving Inhabited

/-- What a document is written in. -/
inductive Format where
  | toml
  | json
  deriving DecidableEq, Inhabited

namespace Node

/-- Fields sorted by their names. -/
def sorted (fields : List (String × Node)) : List (String × Node) :=
  fields.mergeSort fun a b => a.1 ≤ b.1

mutual

def ofToml : Toml → Node
  | .str s => .str s
  | .int n => .int n
  | .real x => .real x
  | .bool b => .bool b
  | .moment => .moment
  | .list items => .list (ofTomlItems items)
  | .tables items => .list (ofTomlItems items)
  | .table _ fields => .table (sorted (ofTomlFields fields))

def ofTomlItems : List Toml → List Node
  | [] => []
  | t :: rest => ofToml t :: ofTomlItems rest

def ofTomlFields : List (String × Toml) → List (String × Node)
  | [] => []
  | (k, t) :: rest => (k, ofToml t) :: ofTomlFields rest

end

mutual

def ofJson : Json → Node
  | .bool b => .bool b
  | .int n => .int n
  | .real x => .real x
  | .str s => .str s
  | .arr items => .list (ofJsonItems items)
  | .obj fields => .table (sorted (ofJsonFields fields))
  | .null => .null
  | .unreadable => .null

def ofJsonItems : List Json → List Node
  | [] => []
  | j :: rest => ofJson j :: ofJsonItems rest

def ofJsonFields : List (String × Json) → List (String × Node)
  | [] => []
  | (k, j) :: rest => (k, ofJson j) :: ofJsonFields rest

end

/-- A floating-point number in a message. -/
def realText (format : Format) (x : Binary64) : String :=
  match format with
  | .toml => Shortest.text .plain x
  | .json => Shortest.text .compact x

/-- What a message calls a value. -/
def describe (format : Format) : Node → String
  | .null => "null"
  | .bool b => "boolean `" ++ (if b then "true" else "false") ++ "`"
  | .int n => "integer `" ++ toString n ++ "`"
  | .real x => "floating point `" ++ realText format x ++ "`"
  | .str s => "string " ++ Text.quote s
  | .moment => "map"
  | .list _ => "sequence"
  | .table _ => "map"

/-- What a table without fields is told that it is not. -/
def kind : Node → String
  | .null => "null"
  | .bool _ => "boolean"
  | .int _ => "integer"
  | .real _ => "float"
  | .str _ => "string"
  | .moment => "datetime"
  | .list _ => "array"
  | .table _ => "table"

end Node

end BridgeWarden.Settings
