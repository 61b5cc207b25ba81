import ProjectScan.Address.DomainName
import ProjectScan.Address.Ipv4
import ProjectScan.Address.Ipv6
import ProjectScan.Address.Parts
import ProjectScan.Address.Punycode
import ProjectScan.Address.Site
import ProjectScan.Candidate
import ProjectScan.Channel
import ProjectScan.Client
import ProjectScan.Command.Arguments
import ProjectScan.Command.Console
import ProjectScan.Command.Discovery
import ProjectScan.Command.Grammar
import ProjectScan.Command.Program
import ProjectScan.Command.Recording
import ProjectScan.Credential
import ProjectScan.Disk
import ProjectScan.Endpoint
import ProjectScan.Environment
import ProjectScan.Failure
import ProjectScan.Glob
import ProjectScan.Json.Display
import ProjectScan.Json.Lexeme
import ProjectScan.Json.Reader
import ProjectScan.Json.Shape
import ProjectScan.Json.Value
import ProjectScan.Json.Writer
import ProjectScan.Log.Journal
import ProjectScan.Log.Level
import ProjectScan.Log.Line
import ProjectScan.Log.Record
import ProjectScan.Log.Template
import ProjectScan.Log.Timestamp
import ProjectScan.Main
import ProjectScan.Navigator
import ProjectScan.Number.Binary64
import ProjectScan.Number.Decimal
import ProjectScan.Number.Power
import ProjectScan.Number.Whole
import ProjectScan.Observer
import ProjectScan.Pager
import ProjectScan.Project
import ProjectScan.Proofs.Accounting
import ProjectScan.Proofs.AddressGrammar
import ProjectScan.Proofs.Connection
import ProjectScan.Proofs.Course
import ProjectScan.Proofs.CredentialFiles
import ProjectScan.Proofs.Delays
import ProjectScan.Proofs.Diagnostics
import ProjectScan.Proofs.DistinctKeys
import ProjectScan.Proofs.Entries
import ProjectScan.Proofs.EnvironmentCredential
import ProjectScan.Proofs.Exchange
import ProjectScan.Proofs.Fetch
import ProjectScan.Proofs.FileWrites
import ProjectScan.Proofs.GuardedBodies
import ProjectScan.Proofs.HeaderCase
import ProjectScan.Proofs.Hiccups
import ProjectScan.Proofs.HostText
import ProjectScan.Proofs.Interleaving
import ProjectScan.Proofs.JsonText
import ProjectScan.Proofs.Lifecycle
import ProjectScan.Proofs.Listing
import ProjectScan.Proofs.LoadedSettings
import ProjectScan.Proofs.LogLines
import ProjectScan.Proofs.Lookup
import ProjectScan.Proofs.Nesting
import ProjectScan.Proofs.Observation
import ProjectScan.Proofs.Outcome
import ProjectScan.Proofs.Overriding
import ProjectScan.Proofs.PageFailures
import ProjectScan.Proofs.Passage
import ProjectScan.Proofs.Remarks
import ProjectScan.Proofs.Repetition
import ProjectScan.Proofs.Replies
import ProjectScan.Proofs.ReportFormat
import ProjectScan.Proofs.ReportShape
import ProjectScan.Proofs.Requests
import ProjectScan.Proofs.Resolution
import ProjectScan.Proofs.Respelling
import ProjectScan.Proofs.Retelling
import ProjectScan.Proofs.Retries
import ProjectScan.Proofs.RunEndings
import ProjectScan.Proofs.SameServer
import ProjectScan.Proofs.Scan
import ProjectScan.Proofs.Scope
import ProjectScan.Proofs.ScopeMeaning
import ProjectScan.Proofs.Secrecy
import ProjectScan.Proofs.SiteText
import ProjectScan.Proofs.Sittings
import ProjectScan.Proofs.SmallLetters
import ProjectScan.Proofs.SourceIds
import ProjectScan.Proofs.Spelling
import ProjectScan.Proofs.StableServer
import ProjectScan.Proofs.StoreHistory
import ProjectScan.Proofs.Traffic
import ProjectScan.Proofs.Traversal
import ProjectScan.Proofs.Truncation
import ProjectScan.Proofs.Undisturbed
import ProjectScan.Proofs.UriSyntax
import ProjectScan.Proofs.Walk
import ProjectScan.Proofs.WholeFloats
import ProjectScan.Proofs.WrittenJson
import ProjectScan.Report
import ProjectScan.Session
import ProjectScan.Settings
import ProjectScan.Store
import ProjectScan.Text.Blank
import ProjectScan.Text.Case
import ProjectScan.Text.Cut
import ProjectScan.Text.Quoted
import ProjectScan.Text.Utf8
import ProjectScan.Unicode.CaseTable
import ProjectScan.Unicode.Compatibility
import ProjectScan.Unicode.CompatibilityData
import ProjectScan.Unicode.CompositionData
import ProjectScan.Unicode.NameprepData
import ProjectScan.Unicode.Numeral
import ProjectScan.Unicode.Printable
import ProjectScan.Unicode.Spans
