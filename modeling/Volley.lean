import Volley.About
import Volley.Ammo.Missile
import Volley.Ammo.Reader
import Volley.App
import Volley.Chance
import Volley.Channel
import Volley.Clock
import Volley.Config.Basic
import Volley.Config.CommandLine
import Volley.Config.CommandLine.Help
import Volley.Config.EnvFile
import Volley.Config.Environment
import Volley.Config.Json
import Volley.Config.Load
import Volley.Config.Variables
import Volley.Config.Warning
import Volley.Executor
import Volley.Extension.Engine
import Volley.Extension.Loader
import Volley.Extension.Name
import Volley.Extension.ScriptUnit
import Volley.Extension.TreeEngine
import Volley.Fault
import Volley.FileSystem
import Volley.Gun.Basic
import Volley.Gun.Fired
import Volley.Gun.Http
import Volley.Gun.Kind
import Volley.Gun.Log
import Volley.Gun.Script
import Volley.Gun.Sql
import Volley.Gun.Timeout
import Volley.Http.Exchange
import Volley.Json.Basic
import Volley.Json.Parser
import Volley.Json.Printer
import Volley.Logging
import Volley.Main
import Volley.Measurement
import Volley.Measurement.Json
import Volley.Numeral.Integer
import Volley.Numeral.Real
import Volley.Numeral.Shortest
import Volley.Options
import Volley.Phout.Line
import Volley.Phout.Reader
import Volley.Phout.Writer
import Volley.Program
import Volley.Proofs.Ammo.Reader
import Volley.Proofs.Channel.Traffic
import Volley.Proofs.Executor.Pool
import Volley.Proofs.FileSystem
import Volley.Proofs.Gun.Unscripted
import Volley.Proofs.Numeral.Integer
import Volley.Proofs.Phout.Line
import Volley.Proofs.Phout.Session
import Volley.Proofs.Phout.Tail
import Volley.Proofs.Phout.Transfer
import Volley.Proofs.Session
import Volley.Proofs.SharedFile.Reads
import Volley.Proofs.SharedFile.Sharing
import Volley.Proofs.Text.Blank
import Volley.Proofs.Text.Lines
import Volley.Proofs.Text.Utf8
import Volley.Report.Format
import Volley.Script.Access
import Volley.Script.Display
import Volley.Script.Eval
import Volley.Script.Host
import Volley.Script.Json
import Volley.Script.Load
import Volley.Script.Machine
import Volley.Script.Native
import Volley.Script.Syntax
import Volley.Script.Tree
import Volley.Script.Value
import Volley.SharedFile.Basic
import Volley.SharedFile.Cursor
import Volley.SharedFile.Lock
import Volley.Shot
import Volley.Sql.Database
import Volley.Sql.Fault
import Volley.Sql.Driver
import Volley.Sql.Memory
import Volley.Sql.Token
import Volley.Style
import Volley.Text.Alphanumeric
import Volley.Text.Blank
import Volley.Text.Case
import Volley.Text.CaseTable
import Volley.Text.Hex
import Volley.Text.Split
import Volley.Text.Utf8
import Volley.Time.Basic
import Volley.Time.Calendar
import Volley.Time.Seconds
import Volley.Url.Address
import Volley.Url.Host
import Volley.Url.Percent
import Volley.Url.Punycode
import Volley.World
import Volley.Proofs.Script.Calls
import Volley.Proofs.Script.Scopes
import Volley.Proofs.Gun.Scopes
import Volley.Proofs.Phout.RoundTrip
import Volley.Proofs.Executor.Stop
import Volley.Proofs.Gun.Failures
import Volley.Proofs.Executor.Protocol
import Volley.Proofs.Phout.Delivery
import Volley.Proofs.Gun.Lifecycle
import Volley.Proofs.Config.EnvFile
import Volley.Proofs.Config.Layers
import Volley.Proofs.Measurement.Figures
import Volley.Proofs.Shot
import Volley.Proofs.Config.Checks
import Volley.Proofs.Script.Nesting
import Volley.Proofs.Gun.Dispatch
import Volley.Proofs.Channel.Losses
import Volley.Proofs.SharedFile.Finish
import Volley.Proofs.Sql.Refusals
import Volley.Proofs.Gun.Sql
import Volley.Proofs.Config.Priority
import Volley.Proofs.Ammo.Cycle
import Volley.Proofs.Ammo.Written
import Volley.Proofs.SharedFile.Lines
import Volley.Proofs.SharedFile.Contention
import Volley.Proofs.Gun.Requirements
import Volley.Proofs.Measurement.Overrides
import Volley.Proofs.Numeral.Double
import Volley.Proofs.Script.Fetch
import Volley.Proofs.Gun.Requests
import Volley.Proofs.Extension.Loading
import Volley.Proofs.Phout.TimeOrder
import Volley.Proofs.Config.Members
import Volley.Proofs.Report.Colors
import Volley.Proofs.Phout.Decimals
