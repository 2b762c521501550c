import BridgeWarden.Proofs.Address.Dotted
import BridgeWarden.Proofs.Address.Spelling
import BridgeWarden.Proofs.Json.RoundTrip
import BridgeWarden.Proofs.Text.Utf8
import BridgeWarden.Status.Client

/-!
What the status interface writes, and what its client makes of it.

`ReadsAs` puts together the two things that carry a value there and back: its JSON form loses
nothing in the text, and reading that form gives the value. Each type has it from its parts, in the
order in which they lie inside one another; only numbers can be out of range. A report looks for its
tag first and keeps the rest meanwhile, the outcome within it included, so it may lie only so deep
(`keepable_toJson`); an answer is far from that. The server and the client then agree on every call
(`values_round_trip`).
-/

namespace BridgeWarden

namespace Json

/-- The value is written without loss, and a reading of it gives what it stands for. -/
structure ReadsAs {α : Type} (read : Json → Option α) (j : Json) (a : α) : Prop where
  lossless : j.lossless = true
  reads : read j = some a

/-- The bytes of a value's text without blanks. -/
def bytes (j : Json) : Text.Bytes := Text.encode j.compact.toList

/-- The value that bytes hold as the text of one. -/
def ofBytes? {α : Type} (read : Json → Option α) (bytes : Text.Bytes) : Option α :=
  ((Text.decode? bytes).bind parse?).bind read

variable {α : Type} {read : Json → Option α} {write : α → Json} {j : Json} {a : α}

theorem parse?_bytes (lossless : j.lossless = true) :
    (Text.decode? j.bytes).bind parse? = some j := by
  rw [bytes, Text.decode?_encode, Option.bind_some, parse?_compact lossless]

theorem ReadsAs.ofBytes? (stands : ReadsAs read j a) : ofBytes? read j.bytes = some a := by
  rw [Json.ofBytes?, parse?_bytes stands.lossless, Option.bind_some, stands.reads]

/-- A required field is read as its value is. -/
theorem ReadsAs.required (stands : ReadsAs read j a) : Json.required read (some j) = some a :=
  stands.reads

/-! ### Plain values -/

theorem readsAs_nat {limit n : Nat} (small : n < limit) (word : limit ≤ UInt64.size) :
    ReadsAs (natBelow? limit) (.nat n) n := by
  constructor
  · simp only [nat, Json.lossless, Bool.and_eq_true, decide_eq_true_eq]
    omega
  · have within : (0 : Int) ≤ n ∧ (n : Int) < limit := by omega
    rw [nat, natBelow?, if_pos within, Int.toNat_natCast]

theorem readsAs_bool (b : Bool) : ReadsAs bool? (.bool b) b := ⟨rfl, rfl⟩

theorem readsAs_option {o : Option α} (stands : ∀ a ∈ o, ReadsAs read (write a) a)
    (solid : ∀ a ∈ o, write a ≠ .null) :
    ReadsAs (fun j => optional read (some j)) (ofOption write o) o := by
  cases o with
  | none => exact ⟨rfl, rfl⟩
  | some a =>
      obtain ⟨lossless, reads⟩ := stands a rfl
      refine ⟨lossless, ?_⟩
      unfold ofOption optional
      split
      · next absent => cases absent
      · next null => exact absurd (Option.some.inj null) (solid a rfl)
      · next same => cases same; rw [reads, Option.map_some]

end Json

open Json (ReadsAs Parts choice?)

theorem Mac.readsAs (m : Mac) : ReadsAs ofJson? m.toJson m := by
  refine ⟨rfl, ?_⟩
  rw [toJson, ofJson?, Json.str?, Option.bind_some, text, String.toList_ofList, parse?_render]

theorem Ipv4.readsAs (a : Ipv4) : ReadsAs ofJson? a.toJson a := by
  refine ⟨rfl, ?_⟩
  rw [toJson, ofJson?, Json.str?, Option.bind_some, text, String.toList_ofList, parse?_render]

theorem Ipv4.readsAs_option (o : Option Ipv4) :
    ReadsAs (fun j => Json.optional ofJson? (some j)) (.ofOption toJson o) o :=
  Json.readsAs_option (fun a _ => a.readsAs) fun a _ => by simp [toJson]

theorem Remote.Suppression.readsAs (s : Remote.Suppression) : ReadsAs ofJson? s.toJson s := by
  cases s <;> exact ⟨rfl, rfl⟩

namespace Link

theorem State.readsAs (s : State) : ReadsAs ofJson? s.toJson s := by
  cases s <;> exact ⟨rfl, rfl⟩

/-- The numbers of a snapshot fit the words that hold them. -/
structure Snapshot.InRange (s : Snapshot) : Prop where
  backoffSecs : s.backoffSecs < UInt64.size
  consecutiveFailures : s.consecutiveFailures < UInt32.size

theorem Snapshot.readsAs {s : Snapshot} (inRange : s.InRange) : ReadsAs ofJson? s.toJson s := by
  have state := s.state.readsAs
  have address := Ipv4.readsAs_option s.address
  have gateway := Ipv4.readsAs_option s.gateway
  have netmask := Ipv4.readsAs_option s.netmask
  have backoff := Json.readsAs_nat inRange.backoffSecs (Nat.le_refl _)
  have failures := Json.readsAs_nat inRange.consecutiveFailures (by decide)
  constructor
  · simp [toJson, Json.lossless, Json.losslessFields, state.lossless, address.lossless,
      gateway.lossless, netmask.lossless, backoff.lossless, failures.lossless]
  · simp [ofJson?, toJson, Json.record?, Json.single?, state.required, address.reads,
      gateway.reads, netmask.reads, backoff.required, failures.required]

end Link

namespace Reach.Outcome

/-- The counts of an outcome fit the words that hold them. -/
def InRange : Outcome → Prop
  | .reachable probed unresolved => probed < UInt64.size ∧ unresolved < UInt64.size
  | _ => True

variable {o : Outcome}

/-- The counts may come from any values that read as them. On numbers themselves the check of this
proof would compare them with their limit, one by one. -/
theorem readsAs_reachable {first second : Json} {probed unresolved : Nat} (kept : Bool)
    (stands : ReadsAs (Json.natBelow? UInt64.size) first probed)
    (follows : ReadsAs (Json.natBelow? UInt64.size) second unresolved) :
    ReadsAs (ofKept? kept)
      (.obj [("result", .str "reachable"), ("probed", first), ("unresolved", second)])
      (.reachable probed unresolved) := by
  have chosen : choice? "result" names kept
      (.obj [("result", .str "reachable"), ("probed", first), ("unresolved", second)]) =
    some (1, .named [("probed", first), ("unresolved", second)]) := rfl
  constructor
  · simp [Json.lossless, Json.losslessFields, stands.lossless, follows.lossless]
  · simp [ofKept?, chosen, Parts.record?, Json.record?, Json.single?, stands.required,
      follows.required]

/-- An outcome is read back by itself, and from within a report. -/
theorem readsAs (inRange : o.InRange) (kept : Bool) : ReadsAs (ofKept? kept) o.toJson o := by
  cases o with
  | noClients => exact ⟨rfl, rfl⟩
  | reachable probed unresolved =>
      exact readsAs_reachable kept (Json.readsAs_nat inRange.1 (Nat.le_refl _))
        (Json.readsAs_nat inRange.2 (Nat.le_refl _))
  | unreachable client address =>
      have chosen : choice? "result" names kept (toJson (.unreachable client address)) =
        some (2, .named [("client", client.toJson), ("address", address.toJson)]) := rfl
      have first := client.readsAs
      have second := address.readsAs
      constructor
      · simp [toJson, Json.lossless, Json.losslessFields, first.lossless, second.lossless]
      · simp [ofKept?, chosen, Parts.record?, Json.record?, Json.single?,
          first.required, second.required]
  | indeterminate reason => exact ⟨rfl, rfl⟩

theorem keepable_toJson (o : Outcome) {level : Nat} (shallow : level < Json.depthLimit) :
    Json.keepable level o.toJson = true := by
  have parts : o.toJson.readable = true ∧ o.toJson.nesting = 1 := by
    cases o <;> exact ⟨rfl, rfl⟩
  simp only [Json.keepable, parts, Bool.true_and, decide_eq_true_eq]
  omega

theorem readsAs_alone (inRange : o.InRange) {level : Nat} (shallow : level < Json.depthLimit) :
    ReadsAs (ofJson? level) o.toJson o := by
  have stands := readsAs inRange false
  refine ⟨stands.lossless, ?_⟩
  rw [ofJson?, if_pos (keepable_toJson o shallow), stands.reads]

end Reach.Outcome

namespace Recovery.Report

/-- The counts of a report's outcome fit the words that hold them. -/
def InRange : Report → Prop
  | .checked outcome _ => outcome.InRange
  | _ => True

theorem keepable_toJson (r : Report) {level : Nat} (shallow : level + 1 < Json.depthLimit) :
    Json.keepable level r.toJson = true := by
  have parts : r.toJson.readable = true ∧ r.toJson.nesting ≤ 2 := by
    cases r with
    | suppressed => exact ⟨rfl, by decide⟩
    | inFlight => exact ⟨rfl, by decide⟩
    | checked outcome started => cases outcome <;> exact ⟨rfl, Nat.le_refl _⟩
  obtain ⟨readable, nesting⟩ := parts
  simp only [Json.keepable, readable, Bool.true_and, decide_eq_true_eq]
  omega

theorem readsAs {r : Report} (inRange : r.InRange) {level : Nat}
    (shallow : level + 1 < Json.depthLimit) : ReadsAs (ofJson? level) r.toJson r := by
  have kept := keepable_toJson r shallow
  cases r with
  | suppressed => exact ⟨rfl, by simp [ofJson?, kept]; rfl⟩
  | inFlight => exact ⟨rfl, by simp [ofJson?, kept]; rfl⟩
  | checked outcome started =>
      have chosen : choice? "cycle" names false (toJson (.checked outcome started)) =
        some (2, .named [("outcome", outcome.toJson), ("recovery_started", .bool started)]) := rfl
      have first := Reach.Outcome.readsAs inRange true
      constructor
      · simp [toJson, Json.lossless, Json.losslessFields, first.lossless]
      · simp [ofJson?, kept, chosen, Parts.record?, Json.record?, Json.single?,
          first.required, (Json.readsAs_bool started).required]

end Recovery.Report

namespace Status

/-- The numbers of the display's status fit the words that hold them. -/
structure DisplayStatus.InRange (d : DisplayStatus) : Prop where
  recoveries : d.recoveries < UInt64.size
  lastRecoveryUnix : ∀ last ∈ d.lastRecoveryUnix, last < UInt64.size
  idleSecs : d.idleSecs < UInt64.size

/-- The numbers may come from any values that read as them, as those of an outcome. -/
theorem DisplayStatus.readsAs_obj {recoveries last idle : Json} {d : DisplayStatus}
    (first : ReadsAs (Json.natBelow? UInt64.size) recoveries d.recoveries)
    (second : ReadsAs (fun j => Json.optional (Json.natBelow? UInt64.size) (some j)) last
      d.lastRecoveryUnix)
    (third : ReadsAs (Json.natBelow? UInt64.size) idle d.idleSecs) :
    ReadsAs ofJson? (.obj [("recoveries", recoveries), ("last_recovery_unix", last),
      ("idle_secs", idle)]) d := by
  constructor
  · simp [Json.lossless, Json.losslessFields, first.lossless, second.lossless, third.lossless]
  · simp [ofJson?, Json.record?, Json.single?, first.required, second.reads, third.required]

theorem DisplayStatus.readsAs {d : DisplayStatus} (inRange : d.InRange) :
    ReadsAs ofJson? d.toJson d := by
  refine readsAs_obj (Json.readsAs_nat inRange.recoveries (Nat.le_refl _)) ?_
    (Json.readsAs_nat inRange.idleSecs (Nat.le_refl _))
  exact Json.readsAs_option
    (fun n member => Json.readsAs_nat (inRange.lastRecoveryUnix n member) (Nat.le_refl _))
    (fun n _ => by simp [Json.nat])

/-- All numbers of the health fit the words that hold them. -/
structure Health.InRange (h : Health) : Prop where
  link : h.link.InRange
  lastCycle : ∀ report ∈ h.lastCycle, report.InRange
  display : h.display.InRange

theorem Health.readsAs {h : Health} (inRange : h.InRange) : ReadsAs ofJson? h.toJson h := by
  have link := Link.Snapshot.readsAs inRange.link
  have remote := h.remote.readsAs
  have cycle : ReadsAs (fun j => Json.optional (Recovery.Report.ofJson? 1) (some j))
      (.ofOption Recovery.Report.toJson h.lastCycle) h.lastCycle :=
    Json.readsAs_option
      (fun r member => Recovery.Report.readsAs (inRange.lastCycle r member) (by decide))
      (fun r _ => by cases r <;> simp [Recovery.Report.toJson])
  have up := Json.readsAs_bool h.linkUp
  have display := DisplayStatus.readsAs inRange.display
  constructor
  · simp [toJson, Json.lossless, Json.losslessFields, link.lossless, remote.lossless,
      cycle.lossless, display.lossless]
  · simp [ofJson?, toJson, Json.record?, Json.single?, up.required, link.required,
      remote.required, cycle.reads, display.required]

theorem RemoteReport.readsAs (r : RemoteReport) : ReadsAs ofJson? r.toJson r := by
  have state := r.state.readsAs
  constructor
  · simp [toJson, Json.lossless, Json.losslessFields, state.lossless]
  · simp [ofJson?, toJson, Json.record?, Json.single?, state.required]

theorem ClientRecord.readsAs (c : ClientRecord) : ReadsAs ofJson? c.toJson c := by
  have address := c.hardwareAddress.readsAs
  constructor
  · simp [toJson, Json.lossless, Json.losslessFields, address.lossless]
  · simp [ofJson?, toJson, Json.record?, Json.single?, address.required]

/-! ### From the server to a client -/

/-- What the server's handlers build for a call. -/
def Call.built (h : Health) : Call → CallValue
  | .link => .link h.link
  | .linkUp => .linkUp h.linkUp
  | .health => .health h
  | .report payload => .remote ⟨.ofPayload payload.toList⟩

/-- A response as it comes to the client. -/
def Response.reply (r : Response) : Reply := ⟨r.status, Text.encode r.body.toList⟩

/-- The server finds what a call asks for, and shows it. -/
theorem serve_request (h : Health) (call : Call) :
    (serve h call.request).1 = .ofJson (call.built h).toJson := by
  cases call with
  | link => rfl
  | linkUp => rfl
  | health => rfl
  | report payload =>
      have found : Resource.ofPath? (Call.report payload).request.path = some .remote := rfl
      rw [serve, found]
      simp only [Call.request, Call.body, Text.decode?_encode]
      rfl

namespace Client

theorem decode?_built {h : Health} (inRange : h.InRange) (call : Call) :
    decode? call (call.built h).toJson.bytes = some (call.built h) := by
  cases call with
  | link =>
      have link := Link.Snapshot.readsAs inRange.link
      rw [Call.built, CallValue.toJson, decode?, Json.parse?_bytes link.lossless]
      exact congrArg (Option.map CallValue.link) link.reads
  | linkUp =>
      rw [Call.built, CallValue.toJson, decode?, Json.parse?_bytes rfl]
      rfl
  | health =>
      have whole := Health.readsAs inRange
      rw [Call.built, CallValue.toJson, decode?, Json.parse?_bytes whole.lossless]
      exact congrArg (Option.map CallValue.health) whole.reads
  | report payload =>
      have report := RemoteReport.readsAs ⟨.ofPayload payload.toList⟩
      rw [Call.built, CallValue.toJson, decode?, Json.parse?_bytes report.lossless]
      exact congrArg (Option.map CallValue.remote) report.reads

theorem outcome_serve {h : Health} (inRange : h.InRange) (c : Client) (call : Call) :
    c.outcome call (some (serve h call.request).1.reply) = .ok (call.built h) := by
  have success : ¬ 400 ≤ (Response.ofJson (call.built h).toJson).reply.status := by
    change ¬ 400 ≤ 200
    decide
  have read : decode? call (Response.ofJson (call.built h).toJson).reply.body =
      some (call.built h) := decode?_built inRange call
  rw [serve_request, outcome]
  simp only [if_neg success, read]

end Client

/-- Every value of the interface is read back from the JSON text that is written of it, if its
numbers fit the words that hold them. So each call of a client gives what the handler built. -/
theorem values_round_trip :
    (∀ h : Health, h.InRange → Json.ofBytes? Health.ofJson? h.toJson.bytes = some h) ∧
    (∀ r : RemoteReport, Json.ofBytes? RemoteReport.ofJson? r.toJson.bytes = some r) ∧
    (∀ c : ClientRecord, Json.ofBytes? ClientRecord.ofJson? c.toJson.bytes = some c) ∧
    (∀ d : DisplayStatus, d.InRange →
      Json.ofBytes? DisplayStatus.ofJson? d.toJson.bytes = some d) ∧
    (∀ s : Link.Snapshot, s.InRange →
      Json.ofBytes? Link.Snapshot.ofJson? s.toJson.bytes = some s) ∧
    (∀ r : Recovery.Report, r.InRange →
      Json.ofBytes? (Recovery.Report.ofJson? 0) r.toJson.bytes = some r) ∧
    (∀ o : Reach.Outcome, o.InRange →
      Json.ofBytes? (Reach.Outcome.ofJson? 0) o.toJson.bytes = some o) ∧
    (∀ m : Mac, Json.ofBytes? Mac.ofJson? m.toJson.bytes = some m) ∧
    (∀ (c : Client) (h : Health) (call : Call), h.InRange →
      c.outcome call (some (serve h call.request).1.reply) = .ok (call.built h)) := by
  refine ⟨fun h inRange => (Health.readsAs inRange).ofBytes?, fun r => r.readsAs.ofBytes?,
    fun c => c.readsAs.ofBytes?, fun d inRange => (DisplayStatus.readsAs inRange).ofBytes?,
    fun s inRange => (Link.Snapshot.readsAs inRange).ofBytes?,
    fun r inRange => (Recovery.Report.readsAs inRange (by decide)).ofBytes?,
    fun o inRange => (Reach.Outcome.readsAs_alone inRange (by decide)).ofBytes?,
    fun m => m.readsAs.ofBytes?, fun c h call inRange => c.outcome_serve inRange call⟩

/-- Numbers at their limits, and a reason that takes every kind of escape. -/
def troubled : Health where
  link := ⟨.faulted, some ⟨10, 0, 0, 255⟩, none, some .broadcast, UInt64.size - 1, UInt32.size - 1⟩
  linkUp := false
  remote := .offline
  lastCycle := some (.checked (.indeterminate "\"exit\" \\ 1:\n\x1b[0m π 😀") true)
  display := ⟨UInt64.size - 1, some 0, 7⟩

theorem troubled_round_trip :
    Json.ofBytes? Health.ofJson? troubled.toJson.bytes = some troubled ∧
    (Client.ofUrl "http://host/").outcome .link (some (serve troubled Call.link.request).1.reply) =
      .ok (.link troubled.link) := by
  have inRange : troubled.InRange := by
    refine ⟨⟨by decide, by decide⟩, ?_, ⟨by decide, ?_, by decide⟩⟩
    · rintro report ⟨⟩
      trivial
    · rintro last ⟨⟩
      decide
  obtain ⟨health, -, -, -, -, -, -, -, calls⟩ := values_round_trip
  exact ⟨health troubled inRange, calls _ troubled .link inRange⟩

end Status

end BridgeWarden
