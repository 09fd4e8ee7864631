import LiveEvents.Backoff
import LiveEvents.Binary64
import LiveEvents.Binary64.Shortest
import LiveEvents.Calendar
import LiveEvents.Config.Basic
import LiveEvents.Config.Loading
import LiveEvents.Config.Reader
import LiveEvents.Config.Validation
import LiveEvents.Crawlers
import LiveEvents.Decimal
import LiveEvents.Duration
import LiveEvents.Exchange
import LiveEvents.Feed.Adapter
import LiveEvents.Feed.Task
import LiveEvents.Game
import LiveEvents.Health
import LiveEvents.Http.Fetch
import LiveEvents.Http.Status
import LiveEvents.Instant
import LiveEvents.Json.Basic
import LiveEvents.Json.Fields
import LiveEvents.Json.Node
import LiveEvents.Json.Numeral
import LiveEvents.Json.Printer
import LiveEvents.Json.Reader
import LiveEvents.LogFilter
import LiveEvents.Main
import LiveEvents.Metrics.Basic
import LiveEvents.Metrics.Text
import LiveEvents.Observation
import LiveEvents.Poll.Prices
import LiveEvents.Poll.Schedules
import LiveEvents.Poll.Task
import LiveEvents.Program
import LiveEvents.Proofs.BlendedPairs
import LiveEvents.Proofs.CallCounts
import LiveEvents.Proofs.CallProtocol
import LiveEvents.Proofs.CommittedRows
import LiveEvents.Proofs.CompleteTables
import LiveEvents.Proofs.ConcurrentUpserts
import LiveEvents.Proofs.CountedCycles
import LiveEvents.Proofs.DirectWrites
import LiveEvents.Proofs.FaultyCourses
import LiveEvents.Proofs.FeedSteps
import LiveEvents.Proofs.FirstUses
import LiveEvents.Proofs.GameReports
import LiveEvents.Proofs.HeldStreams
import LiveEvents.Proofs.HiddenCommits
import LiveEvents.Proofs.IdleSessions
import LiveEvents.Proofs.InterruptedUpserts
import LiveEvents.Proofs.IsolatedSessions
import LiveEvents.Proofs.KeyedLists
import LiveEvents.Proofs.LoneTransactions
import LiveEvents.Proofs.PairKeys
import LiveEvents.Proofs.ProgramCourses
import LiveEvents.Proofs.ReconnectWaits
import LiveEvents.Proofs.RepeatedUpserts
import LiveEvents.Proofs.RecordFields
import LiveEvents.Proofs.Retries
import LiveEvents.Proofs.RivalCourses
import LiveEvents.Proofs.RivalStakes
import LiveEvents.Proofs.RivalUpserts
import LiveEvents.Proofs.Rounding
import LiveEvents.Proofs.SerialGuids
import LiveEvents.Proofs.SerialUpserts
import LiveEvents.Proofs.SessionTicks
import LiveEvents.Proofs.SharedCourses
import LiveEvents.Proofs.StagedRows
import LiveEvents.Proofs.StaleColumns
import LiveEvents.Proofs.StartedTasks
import LiveEvents.Proofs.StopRequests
import LiveEvents.Proofs.StoreSteps
import LiveEvents.Proofs.SupervisorSteps
import LiveEvents.Proofs.TableRows
import LiveEvents.Proofs.Turns
import LiveEvents.Proofs.ValidConfigs
import LiveEvents.Proofs.WireMessages
import LiveEvents.Proofs.WrittenJson
import LiveEvents.Record.Observations
import LiveEvents.Record.Reading
import LiveEvents.Record.Rows
import LiveEvents.Record.Settings
import LiveEvents.Rehearsal.Feed
import LiveEvents.Rehearsal.Poll
import LiveEvents.Rehearsal.Supervisor
import LiveEvents.Rehearsal.World
import LiveEvents.Retry
import LiveEvents.Rows
import LiveEvents.Schedule.Document
import LiveEvents.Service
import LiveEvents.Settings
import LiveEvents.Sql.Calls
import LiveEvents.Sql.Connection
import LiveEvents.Sql.Schema
import LiveEvents.Sql.Session
import LiveEvents.Sql.Statement
import LiveEvents.Stop
import LiveEvents.Store.Call
import LiveEvents.Store.Fault
import LiveEvents.Store.Memory
import LiveEvents.Store.Table
import LiveEvents.Supervisor
import LiveEvents.Text.Affix
import LiveEvents.Text.Blank
import LiveEvents.Text.Case
import LiveEvents.Text.CaseTable
import LiveEvents.Text.Digits
import LiveEvents.Text.Quoted
import LiveEvents.Text.Utf8
import LiveEvents.Text.Visible
import LiveEvents.Tick
import LiveEvents.Toml.Reader
import LiveEvents.Toml.Scalar
import LiveEvents.Toml.Value
import LiveEvents.Upsert
import LiveEvents.Url.Address
import LiveEvents.Url.Error
import LiveEvents.Url.Host
import LiveEvents.Url.NameTable
import LiveEvents.Url.Punycode
import LiveEvents.Url.Query
import LiveEvents.Url.Scheme
import LiveEvents.Wire
import LiveEvents.Wire.Binance
import LiveEvents.Wire.Bybit
import LiveEvents.Wire.Frame
import LiveEvents.Wire.Okx
import LiveEvents.Proofs.ReadyCrawlers
import LiveEvents.Proofs.AttendedSources
import LiveEvents.Proofs.RunningTasks
import LiveEvents.Proofs.HeedingPollers
import LiveEvents.Proofs.StoppedLoops
import LiveEvents.Proofs.TaskEnds
import LiveEvents.Proofs.RefusedUpserts
import LiveEvents.Proofs.EventStatements
import LiveEvents.Proofs.WaitVerdicts
import LiveEvents.Proofs.Subscriptions
import LiveEvents.Proofs.CalendarDays
import LiveEvents.Proofs.DateTexts
import LiveEvents.Proofs.SyncedDays
import LiveEvents.Proofs.MetricCounts
import LiveEvents.Proofs.FrameCounts
import LiveEvents.Proofs.SyncReports
import LiveEvents.Proofs.BaseQuotes
import LiveEvents.Proofs.TickKeys
import LiveEvents.Proofs.QuotedPrices
import LiveEvents.Proofs.ScoredObservations
import LiveEvents.Proofs.RecordSlots
import LiveEvents.Proofs.ScheduleDocuments
import LiveEvents.Proofs.ReplacedSecrets
import LiveEvents.Proofs.GameFacts
import LiveEvents.Proofs.ScheduledTimes
import LiveEvents.Proofs.StagedKeys
import LiveEvents.Proofs.ReadableBytes
import LiveEvents.Proofs.ErrorBodies
