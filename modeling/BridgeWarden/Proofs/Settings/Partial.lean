import BridgeWarden.Settings.Decode
import BridgeWarden.Settings.Encode
import Mathlib.Logic.Function.Basic

/-!
Settings that say only some things.

An `Omission` is any choice of sections, and of fields in each section. What is read of the JSON
form of settings without them is the settings with the defaults in those places and with nothing
else changed; a further name, wherever it stands, is told and refused (`partial_settings_read`).
`mix` puts a record together from the fields of others: it is where the fields of a section and
their names are listed once more, apart from the tables that the reader goes by. Fields are read in
the order of their names; nothing here depends on that order, as each of them sets its own field
whatever the others are (`Sets`).
-/

namespace BridgeWarden

/-! ### Leaving things out -/

namespace Json

/-- The fields of an object. -/
def entries : Json → List (String × Json)
  | .obj fields => fields
  | _ => []

/-- The names of an object's fields. -/
def keys (j : Json) : List String := j.entries.map Prod.fst

/-- An object without its fields of some names. -/
def without (gone : String → Bool) (j : Json) : Json :=
  .obj (j.entries.filter fun entry => !gone entry.1)

end Json

/-- What settings leave out. -/
structure Omission where
  /-- The sections that are left out as a tells. -/
  whole : String → Bool
  /-- The fields that are left out of each section. -/
  part : String → String → Bool

/-- An object of objects without what is left out. -/
def Omission.apply (o : Omission) (j : Json) : Json :=
  .obj ((j.entries.map fun entry => (entry.1, entry.2.without (o.part entry.1))).filter
    fun entry => !o.whole entry.1)

/-- Link settings, each field from those that its name selects. -/
def LinkSettings.mix (source : String → LinkSettings) : LinkSettings where
  serialDevice := (source "serial_device").serialDevice
  baudRate := (source "baud_rate").baudRate
  readTimeoutMs := (source "read_timeout_ms").readTimeoutMs
  writeTimeoutMs := (source "write_timeout_ms").writeTimeoutMs
  readChunkSize := (source "read_chunk_size").readChunkSize
  backoffMinSecs := (source "backoff_min_secs").backoffMinSecs
  backoffMaxSecs := (source "backoff_max_secs").backoffMaxSecs
  negotiationTimeoutSecs := (source "negotiation_timeout_secs").negotiationTimeoutSecs
  pppd := (source "pppd").pppd
  mtu := (source "mtu").mtu
  pppdOptions := (source "pppd_options").pppdOptions

def AccessPointSettings.mix (source : String → AccessPointSettings) : AccessPointSettings where
  interface := (source "interface").interface
  hostapdCli := (source "hostapd_cli").hostapdCli
  restartCommand := (source "restart_command").restartCommand
  leaseFile := (source "lease_file").leaseFile
  maxClients := (source "max_clients").maxClients
  queryTimeoutMs := (source "query_timeout_ms").queryTimeoutMs

def MonitorSettings.mix (source : String → MonitorSettings) : MonitorSettings where
  probeTimeoutMs := (source "probe_timeout_ms").probeTimeoutMs
  ping := (source "ping").ping

def LivenessSettings.mix (source : String → LivenessSettings) : LivenessSettings where
  periodSecs := (source "period_secs").periodSecs
  timeoutSecs := (source "timeout_secs").timeoutSecs
  watchdog := (source "watchdog").watchdog
  device := (source "device").device

def TelemetrySettings.mix (source : String → TelemetrySettings) : TelemetrySettings where
  staleAfterSecs := (source "stale_after_secs").staleAfterSecs

def ApiSettings.mix (source : String → ApiSettings) : ApiSettings where
  listen := (source "listen").listen

/-- Settings, each section from those that its name selects. -/
def Settings.mix (source : String → Settings) : Settings where
  link := (source "link").link
  accessPoint := (source "access_point").accessPoint
  monitor := (source "monitor").monitor
  liveness := (source "liveness").liveness
  telemetry := (source "telemetry").telemetry
  api := (source "api").api

/-- A record with defaults in place of some fields. -/
def restored {α : Type} (mix : (String → α) → α) (defaults : α) (gone : String → Bool)
    (a : α) : α :=
  mix fun name => if gone name then defaults else a

namespace Settings

/-- Settings with the defaults of some fields of each section. -/
def withoutParts (part : String → String → Bool) (s : Settings) : Settings where
  link := restored .mix {} (part "link") s.link
  accessPoint := restored .mix {} (part "access_point") s.accessPoint
  monitor := restored .mix {} (part "monitor") s.monitor
  liveness := restored .mix {} (part "liveness") s.liveness
  telemetry := restored .mix {} (part "telemetry") s.telemetry
  api := restored .mix {} (part "api") s.api

/-- Settings with the defaults in place of what is left out. -/
def without (o : Omission) (s : Settings) : Settings :=
  restored .mix {} o.whole (s.withoutParts o.part)

/-! ### Reading a record field by field -/

section Record

variable {α β : Type} {fields : List (Field α)} {mix : (String → α) → α} {a defaults : α}
variable {entries : List (String × Node)} {entry : String × Node} {mismatch : Mismatch}

/-- What one entry of a table makes of a record. -/
def readEntry (fields : List (Field α)) (entry : String × Node) (a : α) : Except Mismatch α :=
  match fields.find? (·.name == entry.1) with
  | none => .error (.unknownField entry.1 (fields.map (·.name)))
  | some f => f.read .json entry.2 a

theorem readFields_cons (entry : String × Node) (rest : List (String × Node)) (a : α) :
    readFields .json fields (entry :: rest) a =
      (readEntry fields entry a).bind (readFields .json fields rest) := by
  obtain ⟨name, node⟩ := entry
  rw [readFields, readEntry]
  cases fields.find? (·.name == name) <;> rfl

/-- An entry sets its field to that of another record, whatever the other fields are. -/
def Sets (fields : List (Field α)) (mix : (String → α) → α) (a : α) (entry : String × Node) :
    Prop :=
  ∀ source, readEntry fields entry (mix source) = .ok (mix (Function.update source entry.1 a))

/-- An entry is refused, whatever the record is. -/
def Refused (fields : List (Field α)) (mismatch : Mismatch) (entry : String × Node) : Prop :=
  ∀ a, readEntry fields entry a = .error mismatch

theorem readFields_of_sets (sets : ∀ entry ∈ entries, Sets fields mix a entry)
    (source : String → α) :
    readFields .json fields entries (mix source) =
      .ok (mix fun name => if name ∈ entries.map Prod.fst then a else source name) := by
  induction entries generalizing source with
  | nil => simp [readFields]
  | cons entry rest ih =>
      rw [List.forall_mem_cons] at sets
      rw [readFields_cons, sets.1, Except.bind, ih sets.2]
      congr 2
      funext name
      -- Whether a name comes first here, later or twice, its field is taken from the same record.
      by_cases later : name ∈ rest.map Prod.fst
      · simp [later]
      · by_cases now : name = entry.1
        · simp [now]
        · simp [later, now]

theorem readFields_of_refused (each : ∀ entry ∈ entries, Sets fields mix a entry ∨
    Refused fields mismatch entry) (one : ∃ entry ∈ entries, Refused fields mismatch entry)
    (source : String → α) :
    readFields .json fields entries (mix source) = .error mismatch := by
  induction entries generalizing source with
  | nil => simp at one
  | cons entry rest ih =>
      rw [List.forall_mem_cons] at each
      rw [readFields_cons]
      rcases each.1 with sets | refused
      · rw [sets, Except.bind]
        refine ih each.2 ?_ _
        obtain ⟨other, member, refused⟩ := one
        rcases List.mem_cons.mp member with rfl | later
        · exact absurd ((sets source).symm.trans (refused _)) (by simp)
        · exact ⟨other, later, refused⟩
      · rw [refused]
        rfl

theorem refused_of_undeclared (undeclared : entry.1 ∉ fields.map (·.name)) :
    Refused fields (.unknownField entry.1 (fields.map (·.name))) entry := by
  intro a
  have absent : fields.find? (·.name == entry.1) = none := by
    rw [List.find?_eq_none]
    intro f member same
    exact undeclared (beq_iff_eq.mp same ▸ List.mem_map_of_mem member)
  rw [readEntry, absent]

/-- Objects are read from their fields, in some order. -/
theorem readRecord_obj (name : String) (fields : List (Field α)) (start : α)
    (told : List (String × Json)) :
    ∃ entries, readRecord name fields start .json (Node.ofJson (.obj told)) =
        readFields .json fields entries start ∧
      entries.Perm (told.map fun entry => (entry.1, Node.ofJson entry.2)) := by
  have mapped : Node.ofJsonFields told = told.map fun entry => (entry.1, Node.ofJson entry.2) := by
    induction told with
    | nil => rfl
    | cons entry rest ih => rw [Node.ofJsonFields, ih, List.map_cons]
  refine ⟨Node.sorted (Node.ofJsonFields told), by rw [Node.ofJson, readRecord], ?_⟩
  rw [← mapped]
  exact List.mergeSort_perm _ _

/-- What is told of a record: all of its fields under their names, each of which sets it. Nothing
but the named fields makes up the record. -/
structure Tells (fields : List (Field α)) (mix : (String → α) → α) (a : α)
    (told : List (String × Json)) : Prop where
  keys : told.map Prod.fst = fields.map (·.name)
  sets : ∀ entry ∈ told, Sets fields mix a (entry.1, Node.ofJson entry.2)
  same : ∀ a, mix (fun _ => a) = a
  congr : ∀ source other, (∀ name ∈ fields.map (·.name), source name = other name) →
    mix source = mix other

variable {told : List (String × Json)} {gone : String → Bool}

theorem Tells.read (tells : Tells fields mix a told) (name : String) :
    readRecord name fields defaults .json
        (Node.ofJson (.obj (told.filter fun entry => !gone entry.1))) =
      .ok (restored mix defaults gone a) := by
  obtain ⟨entries, reads, perm⟩ :=
    readRecord_obj name fields defaults (told.filter fun entry => !gone entry.1)
  have sets : ∀ entry ∈ entries, Sets fields mix a entry := by
    intro entry member
    obtain ⟨other, kept, rfl⟩ := List.mem_map.mp (perm.mem_iff.mp member)
    exact tells.sets other (List.mem_filter.mp kept).1
  have start := readFields_of_sets sets fun _ => defaults
  rw [tells.same] at start
  rw [reads, start, restored]
  congr 1
  refine tells.congr _ _ fun key declared => ?_
  rw [← tells.keys, List.mem_map] at declared
  obtain ⟨entry, member, rfl⟩ := declared
  have stays : entry.1 ∈ entries.map Prod.fst ↔ gone entry.1 = false := by
    rw [(perm.map Prod.fst).mem_iff]
    constructor
    · simp +contextual
    · intro kept
      simp only [List.map_map, List.mem_map, List.mem_filter]
      exact ⟨entry, ⟨member, by rw [kept]; rfl⟩, rfl⟩
  cases left : gone entry.1 <;> simp [stays, left]

theorem Tells.refuse (tells : Tells fields mix a told) (name : String) {key : String} {value : Json}
    {others : List (String × Json)} (undeclared : key ∉ told.map Prod.fst)
    (perm : others.Perm ((key, value) :: told.filter fun entry => !gone entry.1)) :
    readRecord name fields defaults .json (Node.ofJson (.obj others)) =
      .error (.unknownField key (told.map Prod.fst)) := by
  obtain ⟨entries, reads, same⟩ := readRecord_obj name fields defaults others
  rw [reads, ← tells.same defaults]
  rw [tells.keys] at undeclared ⊢
  have refused : Refused fields (.unknownField key (fields.map (·.name)))
      (key, Node.ofJson value) := refused_of_undeclared undeclared
  refine readFields_of_refused (a := a) ?_ ⟨_, ?_, refused⟩ _
  · intro entry member
    obtain ⟨other, kept, rfl⟩ := List.mem_map.mp (same.mem_iff.mp member)
    rcases List.mem_cons.mp (perm.mem_iff.mp kept) with rfl | kept
    · exact Or.inr refused
    · exact Or.inl (tells.sets other (List.mem_filter.mp kept).1)
  · rw [same.mem_iff]
    exact List.mem_map_of_mem (perm.mem_iff.mpr List.mem_cons_self)

theorem sets_field {read : Reading β} {put : β → α → α} {name : String} {node : Node} {b : β}
    (found : fields.find? (·.name == name) = some (field name read put))
    (reads : read .json node = .ok b)
    (puts : ∀ source, put b (mix source) = mix (Function.update source name a)) :
    Sets fields mix a (name, node) := by
  intro source
  rw [readEntry, found]
  simp only [field, reads, Except.map, puts]

theorem refused_field {read : Reading β} {put : β → α → α} {name : String} {node : Node}
    (found : fields.find? (·.name == name) = some (field name read put))
    (refuses : read .json node = .error mismatch) : Refused fields mismatch (name, node) := by
  intro source
  rw [readEntry, found]
  simp only [field, refuses, Except.map]

end Record

/-! ### Values -/

theorem readNat_nat {limit n : Nat} (small : n < limit) (expected : String) :
    readNat limit expected .json (Node.ofJson (.nat n)) = .ok n := by
  have within : (0 : Int) ≤ n ∧ (n : Int) < limit := by omega
  rw [Json.nat, Node.ofJson, readNat, if_pos within, Int.toNat_natCast]

theorem read16_nat (n : UInt16) : read16 .json (Node.ofJson (.nat n.toNat)) = .ok n := by
  rw [read16, readNat_nat n.toNat_lt_size, Except.map, UInt16.ofNat_toNat]

theorem read32_nat (n : UInt32) : read32 .json (Node.ofJson (.nat n.toNat)) = .ok n := by
  rw [read32, readNat_nat n.toNat_lt_size, Except.map, UInt32.ofNat_toNat]

theorem read64_nat (n : UInt64) : read64 .json (Node.ofJson (.nat n.toNat)) = .ok n := by
  rw [read64, readNat_nat n.toNat_lt_size, Except.map, UInt64.ofNat_toNat]

theorem readSize_nat (n : UInt64) : readSize .json (Node.ofJson (.nat n.toNat)) = .ok n := by
  rw [readSize, readNat_nat n.toNat_lt_size, Except.map, UInt64.ofNat_toNat]

theorem readStrings_arr (texts : List String) :
    readStrings .json (Node.ofJson (.arr (texts.map .str))) = .ok texts := by
  rw [Node.ofJson, readStrings]
  induction texts with
  | nil => rfl
  | cons text rest ih =>
      rw [List.map_cons, Node.ofJsonItems, List.mapM_cons, ih]
      rfl

theorem readTimerKind_toJson (kind : TimerKind) :
    readTimerKind .json (Node.ofJson kind.toJson) = .ok kind := by
  cases kind <;> rfl

/-! ### Sections -/

theorem tells_link (s : LinkSettings) : Tells linkFields .mix s s.toJson.entries := by
  refine ⟨rfl, ?_, fun _ => rfl, fun source other agree => ?_⟩
  · simp only [LinkSettings.toJson, Json.entries, List.forall_mem_cons]
    refine ⟨sets_field rfl rfl ?_, sets_field rfl (read32_nat _) ?_,
      sets_field rfl (read64_nat _) ?_, sets_field rfl (read64_nat _) ?_,
      sets_field rfl (readSize_nat _) ?_, sets_field rfl (read64_nat _) ?_,
      sets_field rfl (read64_nat _) ?_, sets_field rfl (read64_nat _) ?_, sets_field rfl rfl ?_,
      sets_field rfl (read16_nat _) ?_, sets_field rfl (readStrings_arr _) ?_, by simp⟩ <;>
      simp [LinkSettings.mix]
  · simp only [linkFields, field, List.map_cons, List.map_nil, List.forall_mem_cons] at agree
    simp [LinkSettings.mix, agree]

theorem tells_accessPoint (s : AccessPointSettings) :
    Tells accessPointFields .mix s s.toJson.entries := by
  refine ⟨rfl, ?_, fun _ => rfl, fun source other agree => ?_⟩
  · simp only [AccessPointSettings.toJson, Json.entries, List.forall_mem_cons]
    refine ⟨sets_field rfl rfl ?_, sets_field rfl rfl ?_, sets_field rfl (readStrings_arr _) ?_,
      sets_field rfl rfl ?_, sets_field rfl (readSize_nat _) ?_, sets_field rfl (read64_nat _) ?_,
      by simp⟩ <;> simp [AccessPointSettings.mix]
  · simp only [accessPointFields, field, List.map_cons, List.map_nil, List.forall_mem_cons] at agree
    simp [AccessPointSettings.mix, agree]

theorem tells_monitor (s : MonitorSettings) : Tells monitorFields .mix s s.toJson.entries := by
  refine ⟨rfl, ?_, fun _ => rfl, fun source other agree => ?_⟩
  · simp only [MonitorSettings.toJson, Json.entries, List.forall_mem_cons]
    refine ⟨sets_field rfl (read64_nat _) ?_, sets_field rfl rfl ?_, by simp⟩ <;>
      simp [MonitorSettings.mix]
  · simp only [monitorFields, field, List.map_cons, List.map_nil, List.forall_mem_cons] at agree
    simp [MonitorSettings.mix, agree]

theorem tells_liveness (s : LivenessSettings) : Tells livenessFields .mix s s.toJson.entries := by
  refine ⟨rfl, ?_, fun _ => rfl, fun source other agree => ?_⟩
  · simp only [LivenessSettings.toJson, Json.entries, List.forall_mem_cons]
    refine ⟨sets_field rfl (read64_nat _) ?_, sets_field rfl (read64_nat _) ?_,
      sets_field rfl (readTimerKind_toJson _) ?_, sets_field rfl rfl ?_, by simp⟩ <;>
      simp [LivenessSettings.mix]
  · simp only [livenessFields, field, List.map_cons, List.map_nil, List.forall_mem_cons] at agree
    simp [LivenessSettings.mix, agree]

theorem tells_telemetry (s : TelemetrySettings) :
    Tells telemetryFields .mix s s.toJson.entries := by
  refine ⟨rfl, ?_, fun _ => rfl, fun source other agree => ?_⟩
  · simp only [TelemetrySettings.toJson, Json.entries, List.forall_mem_cons]
    exact ⟨sets_field rfl (read64_nat _) (by simp [TelemetrySettings.mix]), by simp⟩
  · simp only [telemetryFields, field, List.map_cons, List.map_nil, List.forall_mem_cons] at agree
    simp [TelemetrySettings.mix, agree]

theorem tells_api (s : ApiSettings) : Tells apiFields .mix s s.toJson.entries := by
  refine ⟨rfl, ?_, fun _ => rfl, fun source other agree => ?_⟩
  · simp only [ApiSettings.toJson, Json.entries, List.forall_mem_cons]
    exact ⟨sets_field rfl rfl (by simp [ApiSettings.mix]), by simp⟩
  · simp only [apiFields, field, List.map_cons, List.map_nil, List.forall_mem_cons] at agree
    simp [ApiSettings.mix, agree]

/-- The sections tell of settings in the same way, whatever each of them leaves out. -/
theorem tells_sections (part : String → String → Bool) (s : Settings) :
    Tells sections .mix (s.withoutParts part)
      (s.toJson.entries.map fun entry => (entry.1, entry.2.without (part entry.1))) := by
  refine ⟨rfl, ?_, fun _ => rfl, fun source other agree => ?_⟩
  · simp only [Settings.toJson, Json.entries, List.map_cons, List.map_nil, List.forall_mem_cons]
    refine ⟨sets_field rfl ((tells_link s.link).read "LinkConfig") ?_,
      sets_field rfl ((tells_accessPoint s.accessPoint).read "AccessPointConfig") ?_,
      sets_field rfl ((tells_monitor s.monitor).read "MonitorConfig") ?_,
      sets_field rfl ((tells_liveness s.liveness).read "LivenessConfig") ?_,
      sets_field rfl ((tells_telemetry s.telemetry).read "TelemetryConfig") ?_,
      sets_field rfl ((tells_api s.api).read "ApiConfig") ?_, by simp⟩ <;>
      simp [Settings.mix, withoutParts]
  · simp only [sections, field, List.map_cons, List.map_nil, List.forall_mem_cons] at agree
    simp [Settings.mix, agree]

/-- A further field of a section is refused there, so the section is. -/
theorem refused_section {part : String → String → Bool} {s : Settings} {key : String} {value : Json}
    {inner : List (String × Json)} :
    ∀ entry ∈ s.toJson.entries, key ∉ entry.2.keys →
      inner.Perm ((key, value) :: (entry.2.without (part entry.1)).entries) →
      Refused sections (.unknownField key entry.2.keys) (entry.1, Node.ofJson (.obj inner)) := by
  simp only [Settings.toJson, Json.entries, List.forall_mem_cons]
  refine ⟨fun undeclared perm => ?_, fun undeclared perm => ?_, fun undeclared perm => ?_,
    fun undeclared perm => ?_, fun undeclared perm => ?_, fun undeclared perm => ?_, by simp⟩
  · exact refused_field rfl ((tells_link s.link).refuse "LinkConfig" undeclared perm)
  · exact refused_field rfl
      ((tells_accessPoint s.accessPoint).refuse "AccessPointConfig" undeclared perm)
  · exact refused_field rfl ((tells_monitor s.monitor).refuse "MonitorConfig" undeclared perm)
  · exact refused_field rfl ((tells_liveness s.liveness).refuse "LivenessConfig" undeclared perm)
  · exact refused_field rfl ((tells_telemetry s.telemetry).refuse "TelemetryConfig" undeclared perm)
  · exact refused_field rfl ((tells_api s.api).refuse "ApiConfig" undeclared perm)

/-! ### Settings that say some things -/

/-- Settings written as JSON and read again without some of their sections and fields have the
defaults there and are otherwise the same; with nothing left out they are the same. One further name
beside the sections, or in one of them, makes what is read no settings, and the answer names it. -/
theorem partial_settings_read (s : Settings) (o : Omission) :
    ofJson (o.apply s.toJson) = .ok (s.without o) ∧
    ofJson s.toJson = .ok s ∧
    (∀ key value fields, key ∉ s.toJson.keys →
      fields.Perm ((key, value) :: (o.apply s.toJson).entries) →
      ofJson (.obj fields) = .error (.unknownField key s.toJson.keys)) ∧
    (∀ entry ∈ s.toJson.entries, ∀ key value inner fields, key ∉ entry.2.keys →
      inner.Perm ((key, value) :: (entry.2.without (o.part entry.1)).entries) →
      fields.Perm ((entry.1, .obj inner) :: ((o.apply s.toJson).without (· == entry.1)).entries) →
      ofJson (.obj fields) = .error (.unknownField key entry.2.keys)) := by
  have tells := tells_sections o.part s
  refine ⟨tells.read "Config", ?_, ?_, ?_⟩
  · have whole : ofJson ((Omission.mk (fun _ => false) fun _ _ => false).apply s.toJson) = .ok s :=
      (tells_sections (fun _ _ => false) s).read "Config"
    exact whole
  · intro key value fields undeclared perm
    exact tells.refuse "Config" undeclared perm
  · intro entry member key value inner fields undeclared within perm
    have refused := refused_section entry member undeclared within
    obtain ⟨entries, reads, same⟩ := readRecord_obj "Config" sections {} fields
    rw [ofJson, ofNode, reads, ← tells.same {}]
    -- The other sections set themselves, so the refused one is reached wherever it stands.
    refine readFields_of_refused (a := s.withoutParts o.part) ?_ ⟨_, ?_, refused⟩ _
    · intro read among
      obtain ⟨other, kept, rfl⟩ := List.mem_map.mp (same.mem_iff.mp among)
      rcases List.mem_cons.mp (perm.mem_iff.mp kept) with rfl | kept
      · exact Or.inr refused
      · have present := (List.mem_filter.mp kept).1
        exact Or.inl (tells.sets other (List.mem_filter.mp present).1)
    · rw [same.mem_iff]
      exact List.mem_map_of_mem (perm.mem_iff.mpr List.mem_cons_self)

/-- A slip in the name of the one field that is told beside another one. -/
theorem misspelled_period_refused :
    ofJson (.obj [("liveness", .obj [("timeout_secs", .nat 30), ("period_sec", .nat 5)])]) =
      .error (.unknownField "period_sec"
        ["period_secs", "timeout_secs", "watchdog", "device"]) := by
  obtain ⟨-, -, -, further⟩ :=
    partial_settings_read {} ⟨(· != "liveness"), fun _ => (· != "timeout_secs")⟩
  have present : ("liveness", ({} : LivenessSettings).toJson) ∈ ({} : Settings).toJson.entries := by
    simp [Settings.toJson, Json.entries]
  refine further _ present "period_sec" (.nat 5) [("timeout_secs", .nat 30), ("period_sec", .nat 5)]
    _ (by decide) ?_ ?_
  · exact List.Perm.swap _ _ []
  · exact List.Perm.refl _

end Settings

end BridgeWarden
