import PagedSearch.CommandLine.Basic
import PagedSearch.CommandLine.Run
import PagedSearch.CommandLine.Scan
import PagedSearch.CommandLine.Usage
import PagedSearch.Excerpt.Cut
import PagedSearch.Excerpt.Fragment
import PagedSearch.Fault.Basic
import PagedSearch.Fault.Kind
import PagedSearch.FileView
import PagedSearch.Index.Basic
import PagedSearch.Json.Number
import PagedSearch.Json.Token
import PagedSearch.Json.Tree
import PagedSearch.Json.Value
import PagedSearch.Main
import PagedSearch.Markup.Escape
import PagedSearch.Number.Binary
import PagedSearch.Number.Decimal
import PagedSearch.Number.Logarithm
import PagedSearch.Number.Reading
import PagedSearch.Order.Basic
import PagedSearch.Order.Hits
import PagedSearch.Order.Registry
import PagedSearch.Order.Specification
import PagedSearch.Order.TextKey
import PagedSearch.Order.ValueComparator
import PagedSearch.Proofs.Excerpt.Best
import PagedSearch.Proofs.Excerpt.Glyph
import PagedSearch.Proofs.Excerpt.Place
import PagedSearch.Proofs.Excerpt.Repair
import PagedSearch.Proofs.Excerpt.Replacement
import PagedSearch.Proofs.Excerpt.Segments
import PagedSearch.Proofs.Excerpt.TaggedWords
import PagedSearch.Proofs.Excerpt.Tiling
import PagedSearch.Proofs.Index.Consistency
import PagedSearch.Proofs.Index.Statistics
import PagedSearch.Proofs.Json.BinaryLiteral
import PagedSearch.Proofs.Json.Literal
import PagedSearch.Proofs.Json.Scan
import PagedSearch.Proofs.Json.Text
import PagedSearch.Proofs.Json.Writing
import PagedSearch.Proofs.Markup.FormEncoding
import PagedSearch.Proofs.Markup.Reference
import PagedSearch.Proofs.Markup.Tag
import PagedSearch.Proofs.Number.Exact
import PagedSearch.Proofs.Number.Magnitude
import PagedSearch.Proofs.Number.Natural
import PagedSearch.Proofs.Number.Shortest
import PagedSearch.Proofs.Number.Sign
import PagedSearch.Proofs.Number.TotalOrder
import PagedSearch.Proofs.Order.Alias
import PagedSearch.Proofs.Order.Alphabet
import PagedSearch.Proofs.Order.CaseLevel
import PagedSearch.Proofs.Order.Collation
import PagedSearch.Proofs.Order.Comparison
import PagedSearch.Proofs.Order.Edited
import PagedSearch.Proofs.Order.EntryOrder
import PagedSearch.Proofs.Order.Grammar
import PagedSearch.Proofs.Order.HitOrder
import PagedSearch.Proofs.Order.Joining
import PagedSearch.Proofs.Order.KnownFields
import PagedSearch.Proofs.Order.LocaleDisplay
import PagedSearch.Proofs.Order.MissingFirst
import PagedSearch.Proofs.Order.MissingNumber
import PagedSearch.Proofs.Order.NaturalOrder
import PagedSearch.Proofs.Order.Pieces
import PagedSearch.Proofs.Order.Rendering
import PagedSearch.Proofs.Outcome
import PagedSearch.Proofs.Query.Balance
import PagedSearch.Proofs.Query.Boost
import PagedSearch.Proofs.Query.ExactWeight
import PagedSearch.Proofs.Query.Found
import PagedSearch.Proofs.Query.Grammar
import PagedSearch.Proofs.Query.Group
import PagedSearch.Proofs.Query.Matching
import PagedSearch.Proofs.Query.Nesting
import PagedSearch.Proofs.Query.Phrase
import PagedSearch.Proofs.Query.Primary
import PagedSearch.Proofs.Query.Sequence
import PagedSearch.Proofs.Query.Terms
import PagedSearch.Proofs.Ranking.BestFirst
import PagedSearch.Proofs.Ranking.ByScore
import PagedSearch.Proofs.Ranking.FieldCollector
import PagedSearch.Proofs.Ranking.Matches
import PagedSearch.Proofs.Ranking.Offers
import PagedSearch.Proofs.Ranking.Pages
import PagedSearch.Proofs.Ranking.Rank
import PagedSearch.Proofs.Ranking.ScoreCollector
import PagedSearch.Proofs.Ranking.StableOrder
import PagedSearch.Proofs.Related
import PagedSearch.Proofs.Request.Acceptance
import PagedSearch.Proofs.Request.Execution
import PagedSearch.Proofs.Result.JsonText
import PagedSearch.Proofs.Result.Plain
import PagedSearch.Proofs.Result.Snippet
import PagedSearch.Proofs.Result.Tags
import PagedSearch.Proofs.Result.XmlText
import PagedSearch.Proofs.Session.Run
import PagedSearch.Proofs.Store.Lines
import PagedSearch.Proofs.Store.Members
import PagedSearch.Proofs.Store.NumericReading
import PagedSearch.Proofs.Text.Lowercase
import PagedSearch.Proofs.Text.Runs
import PagedSearch.Proofs.Text.Split
import PagedSearch.Proofs.Unicode.Boundary
import PagedSearch.Proofs.Unicode.Case
import PagedSearch.Proofs.Unicode.Composition
import PagedSearch.Proofs.Unicode.Joined
import PagedSearch.Proofs.Unicode.LetterForms
import PagedSearch.Proofs.Unicode.Lowering
import PagedSearch.Proofs.Unicode.Mark
import PagedSearch.Query.Basic
import PagedSearch.Query.Match
import PagedSearch.Query.Syntax
import PagedSearch.Ranking.Best
import PagedSearch.Ranking.Page
import PagedSearch.Request.Basic
import PagedSearch.Request.Defaults
import PagedSearch.Request.Searcher
import PagedSearch.Request.Stage
import PagedSearch.Result.Basic
import PagedSearch.Result.OfPage
import PagedSearch.Result.Xml
import PagedSearch.Session.Basic
import PagedSearch.Session.Desk
import PagedSearch.Store.Document
import PagedSearch.Store.Lines
import PagedSearch.Text.Analysis
import PagedSearch.Unicode.Basic
import PagedSearch.Unicode.Canonical
import PagedSearch.Unicode.CanonicalMapping
import PagedSearch.Unicode.Case
import PagedSearch.Unicode.Mark
import PagedSearch.Unicode.WordCharacter
