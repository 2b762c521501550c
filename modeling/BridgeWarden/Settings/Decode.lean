import BridgeWarden.Settings.Basic
import BridgeWarden.Settings.Node

/-!
Settings read from a tree. A record is a table, in which a field left out keeps its default and a
name that is no field is refused, or a list of its fields in order, of which the last ones may be
missing. Fields are read in the order of the tree, and the first mismatch counts.
-/

namespace BridgeWarden.Settings

/-- How a tree fails to be settings. -/
inductive Mismatch where
  | wrongType (found expected : String)
  | wrongValue (found expected : String)
  | unknownField (name : String) (known : List String)
  | unknownChoice (name : String) (known : List String)
  /-- A list that has more items than a record has fields. -/
  | tooLong (length : Nat)
  /-- A choice that is not given by a table of one field. -/
  | notOneEntry (several : Bool)
  /-- A choice that is given with something further. -/
  | notEmpty (kind : String)
  | notTable (kind : String)
  | noChoice
  deriving DecidableEq, Inhabited

/-- A name as messages show it. -/
def named (s : String) : String := "`" ++ s ++ "`"

/-- The names that could have stood in a place. -/
def expectation : List String → String
  | [a] => "expected " ++ named a
  | [a, b] => "expected " ++ named a ++ " or " ++ named b
  | names => "expected one of " ++ String.intercalate ", " (names.map named)

def Mismatch.message : Mismatch → String
  | .wrongType found expected => "invalid type: " ++ found ++ ", expected " ++ expected
  | .wrongValue found expected => "invalid value: " ++ found ++ ", expected " ++ expected
  | .unknownField name known => "unknown field " ++ named name ++ ", " ++ expectation known
  | .unknownChoice name known => "unknown variant " ++ named name ++ ", " ++ expectation known
  | .tooLong length =>
      "invalid length " ++ toString length ++ ", expected fewer elements in array"
  | .notOneEntry several =>
      "wanted exactly 1 element, " ++
        (if several then "more than 1 element" else "found 0 elements")
  | .notEmpty kind => "expected empty " ++ kind
  | .notTable kind => "expected table, found " ++ kind
  | .noChoice => "wanted string or table"

/-! ### Plain values -/

/-- How a value is read from a node. -/
abbrev Reading (α : Type) := Format → Node → Except Mismatch α

/-- A natural number below a limit. -/
def readNat (limit : Nat) (expected : String) : Reading Nat := fun format node =>
  match node with
  | .int n =>
      if 0 ≤ n ∧ n < limit then .ok n.toNat
      else .error (.wrongValue (node.describe format) expected)
  | _ => .error (.wrongType (node.describe format) expected)

def read16 : Reading UInt16 := fun format node =>
  (readNat UInt16.size "u16" format node).map UInt16.ofNat

def read32 : Reading UInt32 := fun format node =>
  (readNat UInt32.size "u32" format node).map UInt32.ofNat

def read64 : Reading UInt64 := fun format node =>
  (readNat UInt64.size "u64" format node).map UInt64.ofNat

/-- A number of things in memory. -/
def readSize : Reading UInt64 := fun format node =>
  (readNat UInt64.size "usize" format node).map UInt64.ofNat

def readText (expected : String) : Reading String := fun format node =>
  match node with
  | .str s => .ok s
  | _ => .error (.wrongType (node.describe format) expected)

def readString : Reading String := readText "a string"

def readPath : Reading String := readText "path string"

def readStrings : Reading (List String) := fun format node =>
  match node with
  | .list items => items.mapM (readString format)
  | _ => .error (.wrongType (node.describe format) "a sequence")

/-! ### Choices -/

def TimerKind.names : List (String × TimerKind) := [("device", .device), ("software", .software)]

def readTimerName (name : String) : Except Mismatch TimerKind :=
  match TimerKind.names.lookup name with
  | some kind => .ok kind
  | none => .error (.unknownChoice name (TimerKind.names.map (·.1)))

/-- Checks that a choice without fields is given with nothing further. -/
def readNothing : Reading Unit := fun format node =>
  match format, node with
  | .json, .null => .ok ()
  | .json, _ => .error (.wrongType (node.describe format) "unit")
  | .toml, .list [] => .ok ()
  | .toml, .list _ => .error (.notEmpty "array")
  | .toml, .table [] => .ok ()
  | .toml, .table _ => .error (.notEmpty "table")
  | .toml, _ => .error (.notTable node.kind)

def readTimerKind : Reading TimerKind := fun format node =>
  match format, node with
  | _, .str name => readTimerName name
  | _, .table [(name, value)] => do
      let kind ← readTimerName name
      readNothing format value
      return kind
  | .json, .table _ => .error (.wrongValue "map" "map with a single key")
  | .json, _ => .error (.wrongType (node.describe format) "string or map")
  | .toml, .table fields => .error (.notOneEntry !fields.isEmpty)
  | .toml, _ => .error .noChoice

/-! ### Records -/

/-- A field of a record: its name, and how it is read into the record. -/
structure Field (α : Type) where
  name : String
  read : Format → Node → α → Except Mismatch α

/-- A field given by the reading of its value and the place of that in the record. -/
def field {α β : Type} (name : String) (read : Reading β) (put : β → α → α) : Field α :=
  ⟨name, fun format node a => (read format node).map (put · a)⟩

def readFields {α : Type} (format : Format) (fields : List (Field α)) :
    List (String × Node) → α → Except Mismatch α
  | [], a => .ok a
  | (name, node) :: rest, a =>
      match fields.find? (·.name == name) with
      | none => .error (.unknownField name (fields.map (·.name)))
      | some f => (f.read format node a).bind (readFields format fields rest)

def readItems {α : Type} (format : Format) : List (Field α) → List Node → α → Except Mismatch α
  | f :: fields, node :: rest, a => (f.read format node a).bind (readItems format fields rest)
  | _, _, a => .ok a

/-- Under which a date or time holds itself, where a record is expected. -/
def momentField : String := "$__toml_private_datetime"

/-- Reads a record, starting from its defaults. -/
def readRecord {α : Type} (name : String) (fields : List (Field α)) (start : α) : Reading α :=
  fun format node =>
    match node with
    | .table entries => readFields format fields entries start
    | .list items => do
        let a ← readItems format fields items start
        if format = .json ∧ fields.length < items.length then throw (.tooLong items.length)
        return a
    | .moment => .error (.unknownField momentField (fields.map (·.name)))
    | _ => .error (.wrongType (node.describe format) ("struct " ++ name))

/-! ### Sections -/

def linkFields : List (Field LinkSettings) :=
  [field "serial_device" readPath fun v s => { s with serialDevice := v },
    field "baud_rate" read32 fun v s => { s with baudRate := v },
    field "read_timeout_ms" read64 fun v s => { s with readTimeoutMs := v },
    field "write_timeout_ms" read64 fun v s => { s with writeTimeoutMs := v },
    field "read_chunk_size" readSize fun v s => { s with readChunkSize := v },
    field "backoff_min_secs" read64 fun v s => { s with backoffMinSecs := v },
    field "backoff_max_secs" read64 fun v s => { s with backoffMaxSecs := v },
    field "negotiation_timeout_secs" read64 fun v s => { s with negotiationTimeoutSecs := v },
    field "pppd" readPath fun v s => { s with pppd := v },
    field "mtu" read16 fun v s => { s with mtu := v },
    field "pppd_options" readStrings fun v s => { s with pppdOptions := v }]

def accessPointFields : List (Field AccessPointSettings) :=
  [field "interface" readString fun v s => { s with interface := v },
    field "hostapd_cli" readPath fun v s => { s with hostapdCli := v },
    field "restart_command" readStrings fun v s => { s with restartCommand := v },
    field "lease_file" readPath fun v s => { s with leaseFile := v },
    field "max_clients" readSize fun v s => { s with maxClients := v },
    field "query_timeout_ms" read64 fun v s => { s with queryTimeoutMs := v }]

def monitorFields : List (Field MonitorSettings) :=
  [field "probe_timeout_ms" read64 fun v s => { s with probeTimeoutMs := v },
    field "ping" readPath fun v s => { s with ping := v }]

def livenessFields : List (Field LivenessSettings) :=
  [field "period_secs" read64 fun v s => { s with periodSecs := v },
    field "timeout_secs" read64 fun v s => { s with timeoutSecs := v },
    field "watchdog" readTimerKind fun v s => { s with watchdog := v },
    field "device" readPath fun v s => { s with device := v }]

def telemetryFields : List (Field TelemetrySettings) :=
  [field "stale_after_secs" read64 fun v s => { s with staleAfterSecs := v }]

def apiFields : List (Field ApiSettings) :=
  [field "listen" readString fun v s => { s with listen := v }]

def sections : List (Field Settings) :=
  [field "link" (readRecord "LinkConfig" linkFields {}) fun v s => { s with link := v },
    field "access_point" (readRecord "AccessPointConfig" accessPointFields {})
      fun v s => { s with accessPoint := v },
    field "monitor" (readRecord "MonitorConfig" monitorFields {})
      fun v s => { s with monitor := v },
    field "liveness" (readRecord "LivenessConfig" livenessFields {})
      fun v s => { s with liveness := v },
    field "telemetry" (readRecord "TelemetryConfig" telemetryFields {})
      fun v s => { s with telemetry := v },
    field "api" (readRecord "ApiConfig" apiFields {}) fun v s => { s with api := v }]

def ofNode : Reading Settings := readRecord "Config" sections {}

/-- Settings from their JSON form. -/
def ofJson (j : Json) : Except Mismatch Settings := ofNode .json (Node.ofJson j)

end BridgeWarden.Settings
