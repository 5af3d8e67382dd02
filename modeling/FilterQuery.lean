import FilterQuery.Calendar.Clock
import FilterQuery.Calendar.Date
import FilterQuery.Calendar.Text
import FilterQuery.Calendar.Week
import FilterQuery.Conversion
import FilterQuery.DatePattern.Basic
import FilterQuery.DatePattern.Description
import FilterQuery.DatePattern.Facts
import FilterQuery.DatePattern.Names
import FilterQuery.DatePattern.Reader
import FilterQuery.DatePattern.Writer
import FilterQuery.DateText
import FilterQuery.Decimal.Shortest
import FilterQuery.Event
import FilterQuery.Expr.Basic
import FilterQuery.Expr.Equality
import FilterQuery.Expr.Printer
import FilterQuery.FieldType
import FilterQuery.FieldType.Json
import FilterQuery.Json.Decode
import FilterQuery.Json.Float
import FilterQuery.Json.Text
import FilterQuery.Json.Value
import FilterQuery.Number
import FilterQuery.Operator
import FilterQuery.Position
import FilterQuery.Problem
import FilterQuery.Proofs.Budget
import FilterQuery.Proofs.Congruence
import FilterQuery.Proofs.DateOrder
import FilterQuery.Proofs.Equivalence
import FilterQuery.Proofs.Fixpoint
import FilterQuery.Proofs.GapWalk
import FilterQuery.Proofs.Grammar
import FilterQuery.Proofs.JsonGrammar
import FilterQuery.Proofs.Log
import FilterQuery.Proofs.Messages
import FilterQuery.Proofs.Mirror
import FilterQuery.Proofs.Node
import FilterQuery.Proofs.PatternDescription
import FilterQuery.Proofs.PostOrder
import FilterQuery.Proofs.PrintedQuery
import FilterQuery.Proofs.QuotedText
import FilterQuery.Proofs.ReadBack
import FilterQuery.Proofs.Readiness
import FilterQuery.Proofs.RefinedTree
import FilterQuery.Proofs.Relevance
import FilterQuery.Proofs.Reread
import FilterQuery.Proofs.SettingsText
import FilterQuery.Proofs.Specialization
import FilterQuery.Proofs.StandardPattern
import FilterQuery.Proofs.StandardTexts
import FilterQuery.Proofs.StartOfDay
import FilterQuery.Proofs.Surroundings
import FilterQuery.Proofs.UnknownFields
import FilterQuery.Proofs.WallClock
import FilterQuery.Refinement
import FilterQuery.Regex.Automaton.Draft
import FilterQuery.Regex.Automaton.Memo
import FilterQuery.Regex.Automaton.Set
import FilterQuery.Regex.Automaton.Words
import FilterQuery.Regex.Basic
import FilterQuery.Regex.Bracket
import FilterQuery.Regex.Cursor
import FilterQuery.Regex.Escape
import FilterQuery.Regex.Fault
import FilterQuery.Regex.Group
import FilterQuery.Regex.Meaning
import FilterQuery.Regex.Nesting
import FilterQuery.Regex.Node
import FilterQuery.Regex.Property
import FilterQuery.Regex.Reader
import FilterQuery.Regex.Repetition
import FilterQuery.Regex.Report
import FilterQuery.Regex.Size
import FilterQuery.Regex.Term
import FilterQuery.Session
import FilterQuery.Settings
import FilterQuery.Settings.Json
import FilterQuery.Text.Blank
import FilterQuery.Text.Hex
import FilterQuery.Text.Letter
import FilterQuery.Text.Numeral
import FilterQuery.Text.Printable
import FilterQuery.Text.Quoted
import FilterQuery.Text.Scan
import FilterQuery.Text.Utf8
import FilterQuery.Unicode.Age
import FilterQuery.Unicode.Binary
import FilterQuery.Unicode.CaseFolding
import FilterQuery.Unicode.Category
import FilterQuery.Unicode.CodeSet
import FilterQuery.Unicode.NamedSet
import FilterQuery.Unicode.Newer
import FilterQuery.Unicode.Script
import FilterQuery.Unicode.Segmentation
import FilterQuery.Zone.Basic
import FilterQuery.Zone.SummerTime
import FilterQuery.Zone.Table
