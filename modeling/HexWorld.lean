import HexWorld.Bus.Connector
import HexWorld.Bus.Endpoint
import HexWorld.Bus.EntityFeed
import HexWorld.Bus.Fault
import HexWorld.Config.Basic
import HexWorld.Config.Document
import HexWorld.Daemon.Failure
import HexWorld.Daemon.Lifecycle
import HexWorld.Daemon.Log
import HexWorld.Daemon.LogFilter
import HexWorld.Decimal.Binary
import HexWorld.Decimal.Layout
import HexWorld.Decimal.Reading
import HexWorld.Decimal.Shortest
import HexWorld.Duration
import HexWorld.Entity.Basic
import HexWorld.Entity.Json
import HexWorld.Failure
import HexWorld.Json.Document
import HexWorld.Json.Pointer
import HexWorld.Json.Record
import HexWorld.Json.Token
import HexWorld.Json.Value
import HexWorld.Main
import HexWorld.Message.Basic
import HexWorld.Message.Decode
import HexWorld.Message.Json
import HexWorld.Proofs.Bus.EntityFeed
import HexWorld.Proofs.Bus.Reply
import HexWorld.Proofs.Daemon.Outcome
import HexWorld.Proofs.Entity.Json
import HexWorld.Proofs.History
import HexWorld.Proofs.Json.Document
import HexWorld.Proofs.Json.Record
import HexWorld.Proofs.Json.Text
import HexWorld.Proofs.Json.Token
import HexWorld.Proofs.Message.Envelope
import HexWorld.Proofs.Message.Json
import HexWorld.Proofs.Relay.Observation
import HexWorld.Proofs.Relay.Order
import HexWorld.Proofs.Relay.Reaction
import HexWorld.Proofs.Relay.UpToDate
import HexWorld.Proofs.Sync.Backoff
import HexWorld.Proofs.Sync.Calls
import HexWorld.Proofs.Sync.Chronicle
import HexWorld.Proofs.Sync.Course
import HexWorld.Proofs.Sync.Description
import HexWorld.Proofs.Sync.Erasure
import HexWorld.Proofs.Sync.Notification
import HexWorld.Proofs.Sync.Reentry
import HexWorld.Proofs.Sync.Registry
import HexWorld.Proofs.Sync.Retry
import HexWorld.Proofs.Sync.Rounds
import HexWorld.Proofs.Sync.Run
import HexWorld.Proofs.Sync.Session
import HexWorld.Proofs.Sync.Step
import HexWorld.Proofs.Sync.Stop
import HexWorld.Proofs.Sync.Tally
import HexWorld.Proofs.Sync.Traffic
import HexWorld.Proofs.Sync.Undisturbed
import HexWorld.Proofs.Terrain.Account
import HexWorld.Proofs.Terrain.Slot
import HexWorld.Proofs.Terrain.Step
import HexWorld.Proofs.Text.Numeral
import HexWorld.Proofs.Text.Utf8
import HexWorld.Proofs.Text.Uuid
import HexWorld.Proofs.World.Bootstrap
import HexWorld.Proofs.World.LastWriter
import HexWorld.Proofs.World.RoomText
import HexWorld.Proofs.World.Snapshot
import HexWorld.Proofs.World.Update
import HexWorld.Rehearsal.Audience
import HexWorld.Rehearsal.Broker
import HexWorld.Rehearsal.Callback
import HexWorld.Rehearsal.Conversation
import HexWorld.Rehearsal.Performance
import HexWorld.Rehearsal.Script
import HexWorld.Rehearsal.Service
import HexWorld.Rehearsal.Source
import HexWorld.Relay.Address
import HexWorld.Relay.Broadcast
import HexWorld.Relay.Client
import HexWorld.Relay.Failure
import HexWorld.Relay.Frame
import HexWorld.Relay.Http
import HexWorld.Relay.Page
import HexWorld.Relay.Route
import HexWorld.Room
import HexWorld.RoomMap
import HexWorld.Saturating
import HexWorld.Sync.Backoff
import HexWorld.Sync.Hub
import HexWorld.Sync.Phase
import HexWorld.Sync.Registry
import HexWorld.Sync.Request
import HexWorld.Sync.Supervisor
import HexWorld.Sync.TerrainSlot
import HexWorld.Text.Blank
import HexWorld.Text.CaseTable
import HexWorld.Text.Hidden
import HexWorld.Text.Integer
import HexWorld.Text.Lowercase
import HexWorld.Text.Quoted
import HexWorld.Text.Utf8
import HexWorld.Text.Uuid
import HexWorld.World.Json
import HexWorld.World.Snapshot
import HexWorld.World.Update
import HexWorld.Yaml.Cursor
import HexWorld.Yaml.Node
import HexWorld.Yaml.Scalar
import HexWorld.Yaml.Token
import HexWorld.Proofs.Config.Requirement
import HexWorld.Proofs.Relay.Occasion
import HexWorld.Proofs.Relay.Agreement
import HexWorld.Proofs.Message.Variation
import HexWorld.Proofs.Message.Tolerance
import HexWorld.Proofs.Decimal.Rounding
import HexWorld.Proofs.Decimal.Shortest
import HexWorld.Proofs.Decimal.NearMiss
import HexWorld.Proofs.Decimal.Reading
import HexWorld.Proofs.Decimal.Single
import HexWorld.Proofs.Message.Layout
import HexWorld.Proofs.Relay.Layout
