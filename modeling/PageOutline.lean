import PageOutline.Browser.Options
import PageOutline.Browser.Page
import PageOutline.Browser.Script
import PageOutline.Browser.Scripted
import PageOutline.Browser.Session
import PageOutline.Browser.Tabs
import PageOutline.Cli.Arguments
import PageOutline.Cli.Command
import PageOutline.Cli.Run
import PageOutline.Css.Integer
import PageOutline.Css.Lexer
import PageOutline.Css.Matching
import PageOutline.Css.Nth
import PageOutline.Css.Parser
import PageOutline.Css.Quoted
import PageOutline.Css.Selector
import PageOutline.Css.Token
import PageOutline.Decimal.Layout
import PageOutline.Decimal.Shortest
import PageOutline.Engine
import PageOutline.Failure
import PageOutline.Html.Body
import PageOutline.Html.Builder
import PageOutline.Html.Construction
import PageOutline.Html.Doctype
import PageOutline.Html.Formatting
import PageOutline.Html.Head
import PageOutline.Html.OpenElements
import PageOutline.Html.Reference
import PageOutline.Html.ReferenceTable
import PageOutline.Html.Scanner
import PageOutline.Html.Tables
import PageOutline.Html.Token
import PageOutline.Html.Tree
import PageOutline.Json.Decode
import PageOutline.Json.Parser
import PageOutline.Json.Printer
import PageOutline.Json.Value
import PageOutline.OrderedMap
import PageOutline.Outline.Basic
import PageOutline.Outline.Json
import PageOutline.Page.Box
import PageOutline.Page.Document
import PageOutline.Page.Guarded
import PageOutline.Page.Live
import PageOutline.Page.Markup
import PageOutline.Page.Query
import PageOutline.Page.Rendered
import PageOutline.Page.Snapshot
import PageOutline.Pass.Access
import PageOutline.Pass.Dropdown
import PageOutline.Pass.Metadata
import PageOutline.Pass.Name
import PageOutline.Pass.Registry
import PageOutline.Pass.Visible
import PageOutline.Pass.Walk
import PageOutline.Recipe.Basic
import PageOutline.Recipe.Catalog
import PageOutline.Recipe.Functions
import PageOutline.Recipe.Rule
import PageOutline.Recipe.Schema
import PageOutline.Recipe.Spec
import PageOutline.Settings
import PageOutline.Text.Ascii
import PageOutline.Text.Blank
import PageOutline.Text.CaseTable
import PageOutline.Text.CodeRange
import PageOutline.Text.Described
import PageOutline.Text.HiddenTable
import PageOutline.Text.Lowercase
import PageOutline.Text.Runs
import PageOutline.Text.Search
import PageOutline.Url.Basic
import PageOutline.Url.Host
import PageOutline.Url.Percent
import PageOutline.Main
import PageOutline.Proofs.Stages
import PageOutline.Proofs.InStep
import PageOutline.Proofs.Lockstep
import PageOutline.Proofs.Overlay
import PageOutline.Proofs.Accumulation
import PageOutline.Proofs.Frame
import PageOutline.Proofs.Resolution
import PageOutline.Proofs.Erasure
import PageOutline.Proofs.Feedback
import PageOutline.Proofs.Building
import PageOutline.Proofs.Answers
import PageOutline.Proofs.Infallible
import PageOutline.Proofs.Traversal
import PageOutline.Proofs.Endings
import PageOutline.Proofs.ReadingOrder
import PageOutline.Proofs.Correspondence
import PageOutline.Proofs.Recovery
import PageOutline.Proofs.Presentation
import PageOutline.Proofs.Arena
import PageOutline.Proofs.Escaping
import PageOutline.Proofs.OutlineMarkup
import PageOutline.Proofs.Canonical
import PageOutline.Proofs.Descendants
import PageOutline.Proofs.Records
import PageOutline.Proofs.Collection
import PageOutline.Proofs.Growth
import PageOutline.Proofs.Import
import PageOutline.Proofs.Drafting
import PageOutline.Proofs.Scanning
import PageOutline.Proofs.Construction
import PageOutline.Proofs.Reparsing
import PageOutline.Proofs.JsonFields
import PageOutline.Proofs.JsonNesting
import PageOutline.Proofs.CatalogText
import PageOutline.Proofs.OutlineText
import PageOutline.Proofs.Numbering
import PageOutline.Proofs.JsonGrammar
import PageOutline.Proofs.JsonReading
import PageOutline.Proofs.DeclaredFields
import PageOutline.Proofs.SnapshotText
import PageOutline.Proofs.DocumentOrder
import PageOutline.Proofs.DropdownParts
import PageOutline.Proofs.OutlineShape
import PageOutline.Proofs.PageSelection
import PageOutline.Proofs.CatalogBuilding
import PageOutline.Proofs.AttributeQuery
import PageOutline.Proofs.Blocks
import PageOutline.Proofs.SelectorLevels
import PageOutline.Proofs.ScopedQuery
import PageOutline.Proofs.Lowering
import PageOutline.Proofs.NamePaths
import PageOutline.Proofs.ShownNames
import PageOutline.Proofs.Grouping
import PageOutline.Proofs.Marking
import PageOutline.Proofs.Composition
import PageOutline.Proofs.DocumentElement
import PageOutline.Proofs.BuilderSteps
import PageOutline.Proofs.StageRules
import PageOutline.Proofs.ParsedDocument
import PageOutline.Proofs.Pruning
import PageOutline.Proofs.Siblings
import PageOutline.Proofs.Progressions
import PageOutline.Proofs.Words
import PageOutline.Proofs.Slugs
import PageOutline.Proofs.NameSearch
