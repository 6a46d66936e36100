import AlarmEscalation.BusClient
import AlarmEscalation.Channel
import AlarmEscalation.Config.Basic
import AlarmEscalation.Config.Json
import AlarmEscalation.Config.Schema
import AlarmEscalation.Config.Source
import AlarmEscalation.Config.Yaml
import AlarmEscalation.Daemon
import AlarmEscalation.Decimal.Read
import AlarmEscalation.Decimal.Shortest
import AlarmEscalation.Decimal.Written
import AlarmEscalation.Decoding
import AlarmEscalation.Deployment
import AlarmEscalation.Engine.Basic
import AlarmEscalation.Engine.Flashlight
import AlarmEscalation.Engine.Lifecycle
import AlarmEscalation.Engine.Notification
import AlarmEscalation.Engine.Settings
import AlarmEscalation.Engine.Step
import AlarmEscalation.Error
import AlarmEscalation.Fault
import AlarmEscalation.Host.Basic
import AlarmEscalation.Host.Machine
import AlarmEscalation.Json.Cursor
import AlarmEscalation.Json.Decode
import AlarmEscalation.Json.Error
import AlarmEscalation.Json.Number
import AlarmEscalation.Json.Skip
import AlarmEscalation.Json.Text
import AlarmEscalation.Json.Written
import AlarmEscalation.Log
import AlarmEscalation.Mail.Address
import AlarmEscalation.Mail.Encoding
import AlarmEscalation.Mail.IpAddress
import AlarmEscalation.Mail.Message
import AlarmEscalation.Mail.Text
import AlarmEscalation.Main
import AlarmEscalation.Message
import AlarmEscalation.Notify.CommandAlert
import AlarmEscalation.Notify.Presenter
import AlarmEscalation.Notify.SerialRelay
import AlarmEscalation.Observation
import AlarmEscalation.Program.Arguments
import AlarmEscalation.Program.Output
import AlarmEscalation.Program.Run
import AlarmEscalation.Proofs.Alert.Loops
import AlarmEscalation.Proofs.Alert.Overtaking
import AlarmEscalation.Proofs.Alert.Player
import AlarmEscalation.Proofs.Config.Documents
import AlarmEscalation.Proofs.Config.Json
import AlarmEscalation.Proofs.Config.Shape
import AlarmEscalation.Proofs.Config.Yaml
import AlarmEscalation.Proofs.Content
import AlarmEscalation.Proofs.Daemon
import AlarmEscalation.Proofs.Deployment
import AlarmEscalation.Proofs.Engine.Actors
import AlarmEscalation.Proofs.Engine.Alert
import AlarmEscalation.Proofs.Engine.AllClear
import AlarmEscalation.Proofs.Engine.AtMostOnce
import AlarmEscalation.Proofs.Engine.Commuting
import AlarmEscalation.Proofs.Engine.Crew
import AlarmEscalation.Proofs.Engine.Dispatch
import AlarmEscalation.Proofs.Engine.Entry
import AlarmEscalation.Proofs.Engine.Escalation
import AlarmEscalation.Proofs.Engine.Frame
import AlarmEscalation.Proofs.Engine.Gate
import AlarmEscalation.Proofs.Engine.Independence
import AlarmEscalation.Proofs.Engine.Interleaving
import AlarmEscalation.Proofs.Engine.Lifespan
import AlarmEscalation.Proofs.Engine.Light
import AlarmEscalation.Proofs.Engine.Polling
import AlarmEscalation.Proofs.Engine.Publication
import AlarmEscalation.Proofs.Engine.Reception
import AlarmEscalation.Proofs.Engine.Redelivery
import AlarmEscalation.Proofs.Engine.Relay
import AlarmEscalation.Proofs.Engine.Roles
import AlarmEscalation.Proofs.Engine.Run
import AlarmEscalation.Proofs.Engine.Schedule
import AlarmEscalation.Proofs.Engine.Succession
import AlarmEscalation.Proofs.Engine.Unbroken
import AlarmEscalation.Proofs.Field
import AlarmEscalation.Proofs.Json.Contents
import AlarmEscalation.Proofs.Json.Numbers
import AlarmEscalation.Proofs.Json.Reading
import AlarmEscalation.Proofs.Json.Strings
import AlarmEscalation.Proofs.Json.Structures
import AlarmEscalation.Proofs.Json.Values
import AlarmEscalation.Proofs.Json.Writing
import AlarmEscalation.Proofs.Occurrence
import AlarmEscalation.Proofs.OpenCalls
import AlarmEscalation.Proofs.Record.Written
import AlarmEscalation.Proofs.Relay.Device
import AlarmEscalation.Proofs.Relay.Installation
import AlarmEscalation.Proofs.Relay.Line
import AlarmEscalation.Proofs.Relay.Override
import AlarmEscalation.Proofs.Session.Alarms
import AlarmEscalation.Proofs.Session.Calls
import AlarmEscalation.Proofs.Session.Observer
import AlarmEscalation.Proofs.Session.Toggles
import AlarmEscalation.Proofs.Store.Arrival
import AlarmEscalation.Proofs.Store.Episode
import AlarmEscalation.Proofs.Store.History
import AlarmEscalation.Proofs.Store.Oldest
import AlarmEscalation.Proofs.Store.Scan
import AlarmEscalation.Proofs.Store.Seen
import AlarmEscalation.Proofs.Store.Table
import AlarmEscalation.Proofs.Store.View
import AlarmEscalation.Proofs.Store.Views
import AlarmEscalation.Proofs.Text.Utf8
import AlarmEscalation.Proofs.Time.Calendar
import AlarmEscalation.Proofs.Time.Written
import AlarmEscalation.Proofs.Turns
import AlarmEscalation.Proofs.Yaml.Contents
import AlarmEscalation.Record.Basic
import AlarmEscalation.Record.Json
import AlarmEscalation.Session
import AlarmEscalation.Store.Basic
import AlarmEscalation.Store.Roster
import AlarmEscalation.Text.Alphanumeric
import AlarmEscalation.Text.Blank
import AlarmEscalation.Text.CodeRange
import AlarmEscalation.Text.Printable
import AlarmEscalation.Text.Quoted
import AlarmEscalation.Text.Utf8
import AlarmEscalation.Time.Calendar
import AlarmEscalation.Time.Instant
import AlarmEscalation.Time.Read
import AlarmEscalation.Time.Written
import AlarmEscalation.Yaml.Decode
import AlarmEscalation.Yaml.Document
import AlarmEscalation.Yaml.Node
import AlarmEscalation.Yaml.Place
import AlarmEscalation.Yaml.Problem
import AlarmEscalation.Yaml.Scalar
import AlarmEscalation.Yaml.Token.Basic
import AlarmEscalation.Yaml.Token.Lexer
import AlarmEscalation.Yaml.Token.Scalar
import AlarmEscalation.Yaml.Token.Tag
