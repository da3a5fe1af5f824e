import SiteWatch.Activity
import SiteWatch.CommandLine.Command
import SiteWatch.CommandLine.Grammar
import SiteWatch.CommandLine.Run
import SiteWatch.Css.Matching
import SiteWatch.Css.Reader
import SiteWatch.Css.Selector
import SiteWatch.Decimal.Double
import SiteWatch.Decimal.Shortest
import SiteWatch.Digest.Content
import SiteWatch.Digest.Sha256
import SiteWatch.Environment
import SiteWatch.Environment.File
import SiteWatch.Extraction.Fields
import SiteWatch.Extraction.Frames
import SiteWatch.Extraction.Value
import SiteWatch.Failure
import SiteWatch.Html.Body
import SiteWatch.Html.Builder
import SiteWatch.Html.Construction
import SiteWatch.Html.Entities
import SiteWatch.Html.Foreign
import SiteWatch.Html.Query
import SiteWatch.Html.Reference
import SiteWatch.Html.Token
import SiteWatch.Html.Tree
import SiteWatch.Json.Basic
import SiteWatch.Json.Mismatch
import SiteWatch.Json.Number
import SiteWatch.Json.Reader
import SiteWatch.Json.Record
import SiteWatch.Json.Schema
import SiteWatch.Json.Writer
import SiteWatch.Main
import SiteWatch.Proofs.Activity
import SiteWatch.Proofs.CommandLine.Management
import SiteWatch.Proofs.CommandLine.Registering
import SiteWatch.Proofs.CommandLine.Targets
import SiteWatch.Proofs.CommandLine.Tasks
import SiteWatch.Proofs.Decimal.Overflow
import SiteWatch.Proofs.Execution
import SiteWatch.Proofs.Extraction.Fields
import SiteWatch.Proofs.Extraction.Frames
import SiteWatch.Proofs.Extraction.Numerals
import SiteWatch.Proofs.Json.Agreement
import SiteWatch.Proofs.Json.Canonical
import SiteWatch.Proofs.Json.Compact
import SiteWatch.Proofs.Json.Records
import SiteWatch.Proofs.Json.RoundTrip
import SiteWatch.Proofs.Json.Rounding
import SiteWatch.Proofs.Json.Settled
import SiteWatch.Proofs.Json.Shapes
import SiteWatch.Proofs.Json.Tokens
import SiteWatch.Proofs.Moments
import SiteWatch.Proofs.Outcome
import SiteWatch.Proofs.Robots.Inquiries
import SiteWatch.Proofs.Schedule.Announcements
import SiteWatch.Proofs.Schedule.Course
import SiteWatch.Proofs.Schedule.Dispatch
import SiteWatch.Proofs.Schedule.Endings
import SiteWatch.Proofs.Schedule.Format
import SiteWatch.Proofs.Schedule.Guarding
import SiteWatch.Proofs.Schedule.Independence
import SiteWatch.Proofs.Schedule.Ledger
import SiteWatch.Proofs.Schedule.Lineage
import SiteWatch.Proofs.Schedule.Mandates
import SiteWatch.Proofs.Schedule.News
import SiteWatch.Proofs.Schedule.Proceedings
import SiteWatch.Proofs.Schedule.RoundOutcome
import SiteWatch.Proofs.Schedule.Rounds
import SiteWatch.Proofs.Schedule.RunCount
import SiteWatch.Proofs.Schedule.RunHistory
import SiteWatch.Proofs.Schedule.Slots
import SiteWatch.Proofs.Schedule.Solitude
import SiteWatch.Proofs.Schedule.Soundness
import SiteWatch.Proofs.Schedule.StopReports
import SiteWatch.Proofs.Schedule.Stopping
import SiteWatch.Proofs.Schedule.Succession
import SiteWatch.Proofs.Schedule.Workers
import SiteWatch.Proofs.Scrape.CalledOff
import SiteWatch.Proofs.Scrape.Closing
import SiteWatch.Proofs.Scrape.Deadline
import SiteWatch.Proofs.Scrape.Format
import SiteWatch.Proofs.Scrape.Gate
import SiteWatch.Proofs.Scrape.Halting
import SiteWatch.Proofs.Scrape.Itinerary
import SiteWatch.Proofs.Scrape.Journal
import SiteWatch.Proofs.Scrape.LiveFiles
import SiteWatch.Proofs.Scrape.Punctuality
import SiteWatch.Proofs.Scrape.Quiet
import SiteWatch.Proofs.Scrape.Reuse
import SiteWatch.Proofs.Scrape.Routes
import SiteWatch.Proofs.Scrape.Sections
import SiteWatch.Proofs.Scrape.Sequence
import SiteWatch.Proofs.Scrape.Stages
import SiteWatch.Proofs.Scrape.Supersession
import SiteWatch.Proofs.Scrape.Transcript
import SiteWatch.Proofs.Scrape.Transparency
import SiteWatch.Proofs.Scrape.Turns
import SiteWatch.Proofs.Server.Messages
import SiteWatch.Proofs.Server.Quota
import SiteWatch.Proofs.Site.Coverage
import SiteWatch.Proofs.Site.Format
import SiteWatch.Proofs.Site.Plans
import SiteWatch.Proofs.Site.Reloading
import SiteWatch.Proofs.Site.Snapshots
import SiteWatch.Proofs.Site.Stability
import SiteWatch.Proofs.Store.Contents
import SiteWatch.Proofs.Store.FileNames
import SiteWatch.Proofs.Store.Files
import SiteWatch.Proofs.Store.Paths
import SiteWatch.Proofs.Store.ProperRegister
import SiteWatch.Proofs.Store.Pruning
import SiteWatch.Proofs.Store.RegisterFile
import SiteWatch.Proofs.Store.ResultFolder
import SiteWatch.Proofs.Store.Separation
import SiteWatch.Proofs.Store.SharedFile
import SiteWatch.Proofs.Tables
import SiteWatch.Proofs.Time.Calendar
import SiteWatch.Proofs.Time.RoundTrip
import SiteWatch.Proofs.Timing
import SiteWatch.Proofs.Url.HostNames
import SiteWatch.Proofs.Url.Origins
import SiteWatch.Proofs.Web.Embedding
import SiteWatch.Proofs.Web.Fetches
import SiteWatch.Proofs.Web.PageHistory
import SiteWatch.Proofs.Web.Traffic
import SiteWatch.Rehearsal.Direction
import SiteWatch.Rehearsal.Network
import SiteWatch.Rehearsal.Page
import SiteWatch.Rehearsal.Schedule
import SiteWatch.Rehearsal.Script
import SiteWatch.Rehearsal.Server
import SiteWatch.Rehearsal.Service
import SiteWatch.Robots.Fetch
import SiteWatch.Robots.Pattern
import SiteWatch.Robots.Policy
import SiteWatch.Robots.Rules
import SiteWatch.Schedule.Event
import SiteWatch.Schedule.Job
import SiteWatch.Schedule.Notice
import SiteWatch.Schedule.Register
import SiteWatch.Schedule.Registration
import SiteWatch.Schedule.Round
import SiteWatch.Schedule.Scheduler
import SiteWatch.Schedule.Services
import SiteWatch.Schedule.Timeline
import SiteWatch.Scrape.Cache
import SiteWatch.Scrape.Live
import SiteWatch.Scrape.Politeness
import SiteWatch.Scrape.Request
import SiteWatch.Scrape.Result
import SiteWatch.Scrape.Service
import SiteWatch.Scrape.Step
import SiteWatch.Scrape.Verdict
import SiteWatch.Server.Api
import SiteWatch.Server.Form
import SiteWatch.Server.Messages
import SiteWatch.Server.Quota
import SiteWatch.Server.Routes
import SiteWatch.Server.Settings
import SiteWatch.Site.Basic
import SiteWatch.Site.Document
import SiteWatch.Site.Extractor
import SiteWatch.Site.Folder
import SiteWatch.Site.Instruction
import SiteWatch.Site.Matching
import SiteWatch.Site.Options
import SiteWatch.Site.Plan
import SiteWatch.Site.Source
import SiteWatch.Site.Validation
import SiteWatch.Store.Files
import SiteWatch.Store.Layout
import SiteWatch.Store.Pictures
import SiteWatch.Store.RegisterFile
import SiteWatch.Store.ResultFolder
import SiteWatch.Store.StoredResult
import SiteWatch.Text.Blank
import SiteWatch.Text.Case
import SiteWatch.Text.CaseTables
import SiteWatch.Text.FileName
import SiteWatch.Text.Lenient
import SiteWatch.Time.Date
import SiteWatch.Time.Instant
import SiteWatch.Time.Reading
import SiteWatch.Url.Basic
import SiteWatch.Url.Host
import SiteWatch.Url.Parse
import SiteWatch.Url.Percent
import SiteWatch.Url.Punycode
import SiteWatch.Web.Channel
import SiteWatch.Web.Delivery
import SiteWatch.Web.EngineKind
import SiteWatch.Web.Network
import SiteWatch.Web.Online
import SiteWatch.Web.Page
import SiteWatch.Web.StaticPage
