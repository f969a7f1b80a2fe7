import EventTime.Calendar.Date
import EventTime.Calendar.LocalTime
import EventTime.Calendar.Month
import EventTime.Calendar.WeekDate
import EventTime.Calendar.Weekday
import EventTime.Calendar.Year
import EventTime.Command.Basic
import EventTime.Command.Reader
import EventTime.Command.Run
import EventTime.Command.Usage
import EventTime.Failure
import EventTime.Main
import EventTime.Memo.Basic
import EventTime.Memo.Race
import EventTime.Moment
import EventTime.Options
import EventTime.Preset
import EventTime.Proofs.Calendar.Count
import EventTime.Proofs.Calendar.Days
import EventTime.Proofs.Calendar.MonthWeeks
import EventTime.Proofs.Calendar.Order
import EventTime.Proofs.Calendar.Weeks
import EventTime.Proofs.Command.Arguments
import EventTime.Proofs.Command.Delivery
import EventTime.Proofs.Command.Filter
import EventTime.Proofs.Command.Sources
import EventTime.Proofs.Layout.DateSpellings
import EventTime.Proofs.Layout.Instant
import EventTime.Proofs.Layout.Lossless
import EventTime.Proofs.Layout.Order
import EventTime.Proofs.Layout.Reading
import EventTime.Proofs.Layout.Seconds
import EventTime.Proofs.Memo.Sound
import EventTime.Proofs.Moment.Floor
import EventTime.Proofs.Race.Agreement
import EventTime.Proofs.Race.Cells
import EventTime.Proofs.Race.Exact
import EventTime.Proofs.Race.Move
import EventTime.Proofs.Race.Progress
import EventTime.Proofs.Race.Provenance
import EventTime.Proofs.Race.Reclamation
import EventTime.Proofs.Race.Retirement
import EventTime.Proofs.Selection.Keywords
import EventTime.Proofs.Selection.Resolution
import EventTime.Proofs.Session.Transparency
import EventTime.Proofs.Stamper.Construction
import EventTime.Proofs.Stamper.Inputs
import EventTime.Proofs.Stamper.Positions
import EventTime.Proofs.Stamper.Raced
import EventTime.Proofs.Stamper.SelfDescription
import EventTime.Proofs.Stamper.Shared
import EventTime.Proofs.Stamper.Stream
import EventTime.Proofs.Store.Append
import EventTime.Proofs.Style.Epoch
import EventTime.Proofs.Style.Warnings
import EventTime.Proofs.Template.Canonical
import EventTime.Proofs.Template.Concatenation
import EventTime.Proofs.Template.Grammar
import EventTime.Proofs.Template.NameTables
import EventTime.Proofs.Template.Numbers
import EventTime.Proofs.Template.Padding
import EventTime.Proofs.Template.Pieces
import EventTime.Proofs.Template.Printing
import EventTime.Proofs.Template.Ranges
import EventTime.Proofs.Template.Rendering
import EventTime.Proofs.Template.WeekFields
import EventTime.Proofs.Text.Digits
import EventTime.Proofs.Text.Faults
import EventTime.Proofs.Text.Integers
import EventTime.Proofs.Text.Letters
import EventTime.Proofs.Text.Lines
import EventTime.Proofs.Text.Numerals
import EventTime.Proofs.Text.Order
import EventTime.Proofs.Text.Trimming
import EventTime.Proofs.Timestamp.Reading
import EventTime.Proofs.Zone.Grammar
import EventTime.Proofs.Zone.OffsetBytes
import EventTime.Proofs.Zone.OffsetGrammar
import EventTime.Proofs.Zone.OffsetText
import EventTime.Proofs.Zone.Resolution
import EventTime.Selection
import EventTime.Stamper.Basic
import EventTime.Stamper.Dump
import EventTime.Stamper.Run
import EventTime.Stamper.Session
import EventTime.Store
import EventTime.Style
import EventTime.Template.Basic
import EventTime.Template.Field
import EventTime.Template.Item
import EventTime.Template.Render
import EventTime.Text.Blank
import EventTime.Text.Caseless
import EventTime.Text.Decimal
import EventTime.Text.Lines
import EventTime.Text.Numeral
import EventTime.Text.Quoted
import EventTime.Text.Terminal
import EventTime.Text.Unprinted
import EventTime.Timestamp
import EventTime.Zone.Basic
import EventTime.Zone.Database
import EventTime.Zone.Offset
import EventTime.Zone.Reader
import EventTime.Zone.Reading
import EventTime.Zone.Region
import EventTime.Zone.Table.Africa
import EventTime.Zone.Table.America
import EventTime.Zone.Table.Asia
import EventTime.Zone.Table.Australia
import EventTime.Zone.Table.Europe
import EventTime.Zone.Table.Fixed
import EventTime.Zone.Table.Pacific
