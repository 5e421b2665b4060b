import TagTemplate.Cache.Basic
import TagTemplate.Cache.Entry
import TagTemplate.CommandLine.Arguments
import TagTemplate.CommandLine.Help
import TagTemplate.CommandLine.Run
import TagTemplate.Config
import TagTemplate.DataFile
import TagTemplate.Error
import TagTemplate.Expr.Arithmetic
import TagTemplate.Expr.Operator
import TagTemplate.Expr.Path
import TagTemplate.Expr.Problem
import TagTemplate.Expr.Scanner
import TagTemplate.Expr.Stacks
import TagTemplate.FilePath
import TagTemplate.FileStore
import TagTemplate.Function.Basic
import TagTemplate.Function.Island
import TagTemplate.Function.Logic
import TagTemplate.Function.Loop
import TagTemplate.Function.Native
import TagTemplate.Function.Text
import TagTemplate.Island.Basic
import TagTemplate.Island.Query
import TagTemplate.Island.Read
import TagTemplate.Island.Select
import TagTemplate.Json.Basic
import TagTemplate.Json.Number
import TagTemplate.Json.Read
import TagTemplate.Json.Write
import TagTemplate.Main
import TagTemplate.Markup.Doctype
import TagTemplate.Markup.Event
import TagTemplate.Markup.Fault
import TagTemplate.Markup.Reference
import TagTemplate.Markup.Tag
import TagTemplate.Number.Binary64
import TagTemplate.Number.Digits
import TagTemplate.Number.Fixed
import TagTemplate.Number.Read
import TagTemplate.Number.Rounding
import TagTemplate.Number.Shortest
import TagTemplate.OrderedMap
import TagTemplate.Project
import TagTemplate.Proofs.Cache.Codec
import TagTemplate.Proofs.Cache.Containment
import TagTemplate.Proofs.Cache.History
import TagTemplate.Proofs.Cache.Path
import TagTemplate.Proofs.Cache.Sessions
import TagTemplate.Proofs.Cache.Sharing
import TagTemplate.Proofs.Cache.Site
import TagTemplate.Proofs.Cache.Untrusted
import TagTemplate.Proofs.Cache.Views
import TagTemplate.Proofs.Expr.Acceptance
import TagTemplate.Proofs.Expr.Balance
import TagTemplate.Proofs.Expr.Completion
import TagTemplate.Proofs.Expr.Derivation
import TagTemplate.Proofs.Expr.Embedding
import TagTemplate.Proofs.Expr.Failures
import TagTemplate.Proofs.Expr.Grammar
import TagTemplate.Proofs.Expr.Meaning
import TagTemplate.Proofs.Expr.Reduction
import TagTemplate.Proofs.Expr.Reordering
import TagTemplate.Proofs.Expr.Scanning
import TagTemplate.Proofs.Expr.Steps
import TagTemplate.Proofs.Expr.Unmarked
import TagTemplate.Proofs.FilePath.Climbing
import TagTemplate.Proofs.FileStore
import TagTemplate.Proofs.Function.Comparison
import TagTemplate.Proofs.Function.Failures
import TagTemplate.Proofs.Function.Printing
import TagTemplate.Proofs.Function.Reordering
import TagTemplate.Proofs.Function.Unmarked
import TagTemplate.Proofs.Function.Window
import TagTemplate.Proofs.Island.Descent
import TagTemplate.Proofs.Island.Levels
import TagTemplate.Proofs.Island.Order
import TagTemplate.Proofs.Island.Reading
import TagTemplate.Proofs.Island.References
import TagTemplate.Proofs.Island.Repetition
import TagTemplate.Proofs.Island.RoundTrip
import TagTemplate.Proofs.Island.Selection
import TagTemplate.Proofs.Island.Spelling
import TagTemplate.Proofs.Island.Ways
import TagTemplate.Proofs.Json.RoundTrip
import TagTemplate.Proofs.Markup.Attributes
import TagTemplate.Proofs.Markup.Fragment
import TagTemplate.Proofs.Number.Binary64
import TagTemplate.Proofs.Number.Digits
import TagTemplate.Proofs.Number.Equality
import TagTemplate.Proofs.Number.Fixed
import TagTemplate.Proofs.Number.Numeral
import TagTemplate.Proofs.Number.Truncation
import TagTemplate.Proofs.OrderedMap
import TagTemplate.Proofs.Render.Agreement
import TagTemplate.Proofs.Render.Anchors
import TagTemplate.Proofs.Render.Annotation
import TagTemplate.Proofs.Render.Composition
import TagTemplate.Proofs.Render.Counterpart
import TagTemplate.Proofs.Render.DataOrder
import TagTemplate.Proofs.Render.Detour
import TagTemplate.Proofs.Render.Directives
import TagTemplate.Proofs.Render.Elements
import TagTemplate.Proofs.Render.Folding
import TagTemplate.Proofs.Render.Inclusion
import TagTemplate.Proofs.Render.Inert
import TagTemplate.Proofs.Render.Interpolation
import TagTemplate.Proofs.Render.Iterations
import TagTemplate.Proofs.Render.Nesting
import TagTemplate.Proofs.Render.Orderly
import TagTemplate.Proofs.Render.Pairing
import TagTemplate.Proofs.Render.Reordered
import TagTemplate.Proofs.Render.Reordering
import TagTemplate.Proofs.Render.Reproduction
import TagTemplate.Proofs.Render.Respelling
import TagTemplate.Proofs.Render.Restoration
import TagTemplate.Proofs.Render.Restored
import TagTemplate.Proofs.Render.SameElements
import TagTemplate.Proofs.Render.StartTag
import TagTemplate.Proofs.Scope
import TagTemplate.Proofs.Session
import TagTemplate.Proofs.Slots.Content
import TagTemplate.Proofs.Slots.Expansion
import TagTemplate.Proofs.Slots.Growth
import TagTemplate.Proofs.Slots.Nested
import TagTemplate.Proofs.Slots.Pass
import TagTemplate.Proofs.Slots.Repeated
import TagTemplate.Proofs.Slots.Searches
import TagTemplate.Proofs.Slots.Splice
import TagTemplate.Proofs.Template.Acceptance
import TagTemplate.Proofs.Template.Arena
import TagTemplate.Proofs.Template.ByteOrderMark
import TagTemplate.Proofs.Template.Consistency
import TagTemplate.Proofs.Template.Failures
import TagTemplate.Proofs.Template.Folding
import TagTemplate.Proofs.Template.Forest
import TagTemplate.Proofs.Template.Likeness
import TagTemplate.Proofs.Template.LineCount
import TagTemplate.Proofs.Template.Lines
import TagTemplate.Proofs.Template.Outline
import TagTemplate.Proofs.Template.Places
import TagTemplate.Proofs.Template.Reading
import TagTemplate.Proofs.Template.Reproduction
import TagTemplate.Proofs.Template.RespelledSource
import TagTemplate.Proofs.Template.Respelling
import TagTemplate.Proofs.Text.Unmarked
import TagTemplate.Proofs.Value.Equality
import TagTemplate.Proofs.Value.Unmarked
import TagTemplate.Render.Directive
import TagTemplate.Render.Document
import TagTemplate.Render.Element
import TagTemplate.Render.Environment
import TagTemplate.Render.Interpolation
import TagTemplate.Render.State
import TagTemplate.Render.Walk
import TagTemplate.Scope
import TagTemplate.Slots
import TagTemplate.Template.Builder
import TagTemplate.Template.Directive
import TagTemplate.Template.Lines
import TagTemplate.Template.Read
import TagTemplate.Template.Tree
import TagTemplate.Text.Alphabetic
import TagTemplate.Text.Blank
import TagTemplate.Text.CaseMap
import TagTemplate.Text.CaseTable
import TagTemplate.Text.CodePoint
import TagTemplate.Text.Quoted
import TagTemplate.Text.QuotedTable
import TagTemplate.Text.Search
import TagTemplate.Toml.Basic
import TagTemplate.Toml.Datetime
import TagTemplate.Toml.Read
import TagTemplate.Toml.Scalar
import TagTemplate.Toml.Table
import TagTemplate.Toml.Text
import TagTemplate.Value.Basic
import TagTemplate.Value.Equality
import TagTemplate.Value.OfJson
import TagTemplate.Value.OfToml
import TagTemplate.Value.Output
import TagTemplate.View
