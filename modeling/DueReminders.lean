import DueReminders.Bucket
import DueReminders.Calendar.Civil
import DueReminders.Calendar.Date
import DueReminders.Calendar.DateTime
import DueReminders.Calendar.Lenient
import DueReminders.Calendar.Names
import DueReminders.Calendar.OffsetDateTime
import DueReminders.Calendar.Pattern
import DueReminders.Calendar.Span
import DueReminders.Calendar.Writing
import DueReminders.Classify
import DueReminders.Digest
import DueReminders.Document
import DueReminders.Failure
import DueReminders.Files.Archive
import DueReminders.Files.Path
import DueReminders.Files.SystemFault
import DueReminders.Files.Tree
import DueReminders.Item
import DueReminders.Json.Basic
import DueReminders.Json.Numeral
import DueReminders.Json.Quoted
import DueReminders.Json.Reader
import DueReminders.Log
import DueReminders.Mail.Address
import DueReminders.Mail.Mailbox
import DueReminders.Mail.Message
import DueReminders.Mail.Relay
import DueReminders.Main
import DueReminders.Notice
import DueReminders.Number.Binary64
import DueReminders.Number.Digits
import DueReminders.Number.Integer
import DueReminders.Number.Shortest
import DueReminders.Program
import DueReminders.Proofs.Digest.Contents
import DueReminders.Proofs.Digest.Partition
import DueReminders.Proofs.Document.Meaning
import DueReminders.Proofs.Template.Layout
import DueReminders.Proofs.Template.Substitution
import DueReminders.Record
import DueReminders.Row
import DueReminders.Run.Delivery
import DueReminders.Run.Notification
import DueReminders.Run.Plan
import DueReminders.Run.Report
import DueReminders.Run.RunId
import DueReminders.Run.Source
import DueReminders.Settings
import DueReminders.Site.Client
import DueReminders.Site.Endpoint
import DueReminders.Site.Status
import DueReminders.Template.Block
import DueReminders.Template.ItemTemplate
import DueReminders.Template.Tokens
import DueReminders.Text.Blank
import DueReminders.Text.Lowercase
import DueReminders.Text.Search
import DueReminders.Text.Taker
import DueReminders.Url.Basic
import DueReminders.Url.DomainName
import DueReminders.Url.Host
import DueReminders.Url.Percent
import DueReminders.Url.Punycode
import DueReminders.Url.Reading
import DueReminders.Zone.Basic
import DueReminders.Zone.Current
import DueReminders.Zone.Histories
import DueReminders.Zone.Registry
import DueReminders.Zone.Rule
import DueReminders.Proofs.Digest.Due
import DueReminders.Proofs.Document.Batch
import DueReminders.Proofs.Run.Accounting
import DueReminders.Proofs.Run.Isolation
import DueReminders.Proofs.Run.Addresses
import DueReminders.Proofs.Run.Failing
import DueReminders.Proofs.Text.Passing
import DueReminders.Proofs.Template.Chunks
import DueReminders.Proofs.Template.Acceptance
import DueReminders.Proofs.Document.Alike
import DueReminders.Proofs.Document.Survivors
import DueReminders.Proofs.Digest.History
import DueReminders.Proofs.Document.Conservation
import DueReminders.Proofs.Files.Extension
import DueReminders.Proofs.Files.Confinement
import DueReminders.Proofs.Run.Copies
import DueReminders.Proofs.Number.Numeral
import DueReminders.Proofs.Settings.Validation
import DueReminders.Proofs.Json.WellFormed
import DueReminders.Proofs.Program.Alerts
import DueReminders.Proofs.Site.Rows
import DueReminders.Proofs.Template.Replacement
import DueReminders.Proofs.Template.Irrelevance
import DueReminders.Proofs.Template.Placeholders
import DueReminders.Proofs.Calendar.Marks
import DueReminders.Proofs.Calendar.Readers
import DueReminders.Proofs.Number.Padded
import DueReminders.Proofs.Calendar.LongDate
import DueReminders.Proofs.Calendar.CompactDate
import DueReminders.Proofs.Bucket.Partition
import DueReminders.Proofs.Bucket.Progress
import DueReminders.Proofs.Digest.Overflow
import DueReminders.Proofs.Template.ShortBody
import DueReminders.Proofs.Calendar.Undated
import DueReminders.Proofs.Number.Figures
import DueReminders.Proofs.Calendar.Timestamp
import DueReminders.Proofs.Calendar.WallClock
import DueReminders.Proofs.Zone.Instants
import DueReminders.Proofs.Template.Surroundings
import DueReminders.Proofs.Run.Lookups
import DueReminders.Proofs.Site.Arrays
import DueReminders.Proofs.Url.Percent
import DueReminders.Proofs.Site.ListUrl
import DueReminders.Proofs.Text.Occurrence
import DueReminders.Proofs.Template.Region
import DueReminders.Proofs.Program.Entities
import DueReminders.Proofs.Template.AnyOrder
