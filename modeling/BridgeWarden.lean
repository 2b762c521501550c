import BridgeWarden.Time.Clock
import BridgeWarden.Status.Decode
import BridgeWarden.Remote.Telemetry
import BridgeWarden.Link.System
import BridgeWarden.Rehearsal.Agenda
import BridgeWarden.Rehearsal.Values
import BridgeWarden.Toml.Reader
import BridgeWarden.Rehearsal.Channel
import BridgeWarden.Rehearsal.Ensemble
import BridgeWarden.Rehearsal.Cycles
import BridgeWarden.Rehearsal.Watch
import BridgeWarden.Liveness.Supervisor
import BridgeWarden.Rehearsal.Engine
import BridgeWarden.Reach.Ping
import BridgeWarden.Json.Reader
import BridgeWarden.Json.Printer
import BridgeWarden.Text.Utf8
import BridgeWarden.Address.Mac
import BridgeWarden.Link.Session
import BridgeWarden.Settings.Encode
import BridgeWarden.Settings.Load
import BridgeWarden.Program.Run
import BridgeWarden.AccessPoint.Control
import BridgeWarden.Liveness.Device
import BridgeWarden.Liveness.Launch
import BridgeWarden.Transport.Serial
import BridgeWarden.Rehearsal.Shell
import BridgeWarden.Rehearsal.Dialing
import BridgeWarden.Console.Report
import BridgeWarden.Rehearsal.Service
import BridgeWarden.Main
import BridgeWarden.Proofs.Recovery.Episode
import BridgeWarden.Proofs.Liveness.Disturbance
import BridgeWarden.Proofs.Liveness.Accounts
import BridgeWarden.Proofs.Link.Tokens
import BridgeWarden.Proofs.Link.Staleness
import BridgeWarden.Proofs.Link.Negotiation
import BridgeWarden.Proofs.Transport.Returns
import BridgeWarden.Proofs.Settings.Withstanding
import BridgeWarden.Proofs.Link.Superseded
import BridgeWarden.Proofs.Link.Shutdown
import BridgeWarden.Proofs.Liveness.Trips
import BridgeWarden.Proofs.Transport.Stream
import BridgeWarden.Proofs.Reach.Reference
import BridgeWarden.Proofs.Reach.Silence
import BridgeWarden.Proofs.Liveness.Confirmation
import BridgeWarden.Proofs.Link.Streaks
import BridgeWarden.Proofs.Settings.Range
import BridgeWarden.Proofs.Link.LogAddresses
import BridgeWarden.Proofs.Link.Forwarding
import BridgeWarden.Proofs.Link.LogLines
import BridgeWarden.Proofs.Link.LogReports
import BridgeWarden.Proofs.Address.Spelling
import BridgeWarden.Proofs.Recovery.Suppression
import BridgeWarden.Proofs.Settings.Partial
import BridgeWarden.Proofs.Status.RoundTrip
import BridgeWarden.Proofs.AccessPoint.Leases
import BridgeWarden.Proofs.Transport.Rounds
import BridgeWarden.Proofs.Link.LogGrammar
