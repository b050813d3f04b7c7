import TripProposal.Calendar.Date
import TripProposal.Calendar.DayKey
import TripProposal.Calendar.Iso
import TripProposal.Calendar.Moment
import TripProposal.Calendar.Written
import TripProposal.CommandLine.Arguments
import TripProposal.CommandLine.Command
import TripProposal.CommandLine.Printed
import TripProposal.CommandLine.Run
import TripProposal.CommandLine.Session
import TripProposal.Files.Document
import TripProposal.Files.Path
import TripProposal.Files.Tree
import TripProposal.Log
import TripProposal.Main
import TripProposal.Number.Binary64
import TripProposal.Number.Reading
import TripProposal.Number.Shortest
import TripProposal.Profile
import TripProposal.Proofs.Calendar.DayKey
import TripProposal.Proofs.Calendar.ReadDates
import TripProposal.Proofs.Files.Tree
import TripProposal.Proofs.Histories
import TripProposal.Proofs.Number.Characters
import TripProposal.Proofs.Number.Equality
import TripProposal.Proofs.Number.Numerals
import TripProposal.Proofs.Number.Range
import TripProposal.Proofs.Number.Readers
import TripProposal.Proofs.Number.Rounding
import TripProposal.Proofs.Number.Spelling
import TripProposal.Proofs.Outcomes
import TripProposal.Proofs.Proposal.Trial
import TripProposal.Proofs.Settings.History
import TripProposal.Proofs.Template.Alternatives
import TripProposal.Proofs.Template.Characters
import TripProposal.Proofs.Template.Closers
import TripProposal.Proofs.Template.Composition
import TripProposal.Proofs.Template.Currency
import TripProposal.Proofs.Template.Delimiters
import TripProposal.Proofs.Template.Depth
import TripProposal.Proofs.Template.Directory
import TripProposal.Proofs.Template.Faults
import TripProposal.Proofs.Template.History
import TripProposal.Proofs.Template.Interpretation
import TripProposal.Proofs.Template.Leniency
import TripProposal.Proofs.Template.Listings
import TripProposal.Proofs.Template.Lookup
import TripProposal.Proofs.Template.LoopText
import TripProposal.Proofs.Template.Markers
import TripProposal.Proofs.Template.NestedLoops
import TripProposal.Proofs.Template.Nesting
import TripProposal.Proofs.Template.PaddedOpeners
import TripProposal.Proofs.Template.Padding
import TripProposal.Proofs.Template.PlainData
import TripProposal.Proofs.Template.PrintedTags
import TripProposal.Proofs.Template.Segmentation
import TripProposal.Proofs.Template.StrayTags
import TripProposal.Proofs.Template.TagGrammar
import TripProposal.Proofs.Template.Termination
import TripProposal.Proofs.Template.TierFolders
import TripProposal.Proofs.Template.Tree
import TripProposal.Proofs.Template.Weight
import TripProposal.Proofs.Text.Digits
import TripProposal.Proofs.Text.Occurrences
import TripProposal.Proofs.Text.Order
import TripProposal.Proofs.Text.Searching
import TripProposal.Proofs.Text.Utf8
import TripProposal.Proofs.Text.Words
import TripProposal.Proofs.Trip.Balance
import TripProposal.Proofs.Trip.Bookings
import TripProposal.Proofs.Trip.CommentLinks
import TripProposal.Proofs.Trip.Dates
import TripProposal.Proofs.Trip.DayType
import TripProposal.Proofs.Trip.Failures
import TripProposal.Proofs.Trip.Frame
import TripProposal.Proofs.Trip.Guidance
import TripProposal.Proofs.Trip.ImageMerging
import TripProposal.Proofs.Trip.Images
import TripProposal.Proofs.Trip.Itinerary
import TripProposal.Proofs.Trip.Normalization
import TripProposal.Proofs.Trip.Notices
import TripProposal.Proofs.Trip.Preparation
import TripProposal.Proofs.Trip.Ranking
import TripProposal.Proofs.Trip.Repetition
import TripProposal.Proofs.Trip.Settled
import TripProposal.Proofs.Trip.Shown
import TripProposal.Proofs.Trip.TimelineEntries
import TripProposal.Proofs.Trip.Tracking
import TripProposal.Proofs.Trip.Travelers
import TripProposal.Proofs.Trip.Views
import TripProposal.Proofs.Url.Query
import TripProposal.Proofs.Url.Split
import TripProposal.Proofs.Url.Tracking
import TripProposal.Proofs.Value.Difference
import TripProposal.Proofs.Value.Fields
import TripProposal.Proofs.Value.JsonNumbers
import TripProposal.Proofs.Value.JsonQuotes
import TripProposal.Proofs.Value.JsonReadBack
import TripProposal.Proofs.Value.JsonText
import TripProposal.Proofs.Value.Lists
import TripProposal.Proofs.Value.Number
import TripProposal.Proofs.Value.Paths
import TripProposal.Proofs.Value.Sameness
import TripProposal.Proofs.Value.Traversal
import TripProposal.Proposal.Render
import TripProposal.Proposal.Watermark
import TripProposal.Settings.Basic
import TripProposal.Settings.Cache
import TripProposal.Settings.File
import TripProposal.Settings.Load
import TripProposal.Template.BuiltIn
import TripProposal.Template.Display
import TripProposal.Template.Fault
import TripProposal.Template.Nesting
import TripProposal.Template.Registry
import TripProposal.Template.Remark
import TripProposal.Template.Render
import TripProposal.Template.Scope
import TripProposal.Template.Segment
import TripProposal.Template.Selection
import TripProposal.Template.Store
import TripProposal.Template.Tag
import TripProposal.Text.Alphanumeric
import TripProposal.Text.Blank
import TripProposal.Text.Case
import TripProposal.Text.CaseTable
import TripProposal.Text.CodePoint
import TripProposal.Text.Digit
import TripProposal.Text.Hex
import TripProposal.Text.Printable
import TripProposal.Text.Search
import TripProposal.Text.Table
import TripProposal.Text.Utf8
import TripProposal.Trip.Booking
import TripProposal.Trip.Comments
import TripProposal.Trip.Config
import TripProposal.Trip.DayType
import TripProposal.Trip.Extras
import TripProposal.Trip.Images
import TripProposal.Trip.Insurance
import TripProposal.Trip.Itinerary
import TripProposal.Trip.Normalize
import TripProposal.Trip.Notices
import TripProposal.Trip.Repair
import TripProposal.Trip.Timeline
import TripProposal.Trip.Tours
import TripProposal.Trip.Tracking
import TripProposal.Trip.Workspace
import TripProposal.Url.Basic
import TripProposal.Url.Host
import TripProposal.Url.Percent
import TripProposal.Url.Query
import TripProposal.Url.Tracking
import TripProposal.Value.Basic
import TripProposal.Value.Literal
import TripProposal.Value.Lowered
import TripProposal.Value.Number
import TripProposal.Value.Path
import TripProposal.Value.Read
import TripProposal.Value.Written
