import SchemaDiagram.Command.Argument
import SchemaDiagram.Command.File
import SchemaDiagram.Command.Request
import SchemaDiagram.Command.Run
import SchemaDiagram.Config.Basic
import SchemaDiagram.Config.Environment
import SchemaDiagram.Config.Export
import SchemaDiagram.Config.Layers
import SchemaDiagram.Config.Problem
import SchemaDiagram.Config.Store
import SchemaDiagram.Config.Value
import SchemaDiagram.Console.Columns
import SchemaDiagram.Console.Emoji
import SchemaDiagram.Console.EmojiName
import SchemaDiagram.Console.HandlerCall
import SchemaDiagram.Console.Markup
import SchemaDiagram.Console.Message
import SchemaDiagram.Console.Summary
import SchemaDiagram.Console.TagStyle
import SchemaDiagram.Console.Wrapping
import SchemaDiagram.Declaration.Document
import SchemaDiagram.Declaration.Endpoint
import SchemaDiagram.Declaration.Field
import SchemaDiagram.Declaration.Format
import SchemaDiagram.Declaration.Index
import SchemaDiagram.Declaration.Merge
import SchemaDiagram.Declaration.Reference
import SchemaDiagram.Edit.Change
import SchemaDiagram.Edit.Commit
import SchemaDiagram.Edit.Plan
import SchemaDiagram.Edit.Splice
import SchemaDiagram.Expression.Basic
import SchemaDiagram.Expression.Fault
import SchemaDiagram.Expression.Grammar
import SchemaDiagram.Expression.Literal
import SchemaDiagram.Expression.Name
import SchemaDiagram.Expression.Numeral
import SchemaDiagram.Expression.Parameters
import SchemaDiagram.Expression.Quotation
import SchemaDiagram.Expression.Reading
import SchemaDiagram.Expression.Template
import SchemaDiagram.Expression.Text
import SchemaDiagram.Expression.Token
import SchemaDiagram.Failure
import SchemaDiagram.Geometry.Path
import SchemaDiagram.Geometry.Rect
import SchemaDiagram.Json
import SchemaDiagram.Json.Merge
import SchemaDiagram.Json.Reader
import SchemaDiagram.Layout.Placement
import SchemaDiagram.Logging.Event
import SchemaDiagram.Logging.Record
import SchemaDiagram.Main
import SchemaDiagram.Model.Diagnostic
import SchemaDiagram.Model.Display
import SchemaDiagram.Model.Export
import SchemaDiagram.Model.Project
import SchemaDiagram.Model.Schema
import SchemaDiagram.Model.Table
import SchemaDiagram.Number.Binary
import SchemaDiagram.Number.Decimal
import SchemaDiagram.Number.Length
import SchemaDiagram.Number.Metric
import SchemaDiagram.Number.Mixed
import SchemaDiagram.Number.Numeral
import SchemaDiagram.Number.Rounding
import SchemaDiagram.Order.Arrange
import SchemaDiagram.Order.Merge
import SchemaDiagram.Order.Run
import SchemaDiagram.Order.Search
import SchemaDiagram.OrderedMap
import SchemaDiagram.Preview.Debouncer
import SchemaDiagram.Preview.Gesture
import SchemaDiagram.Preview.Session
import SchemaDiagram.Proofs.Accounting
import SchemaDiagram.Proofs.Arranging
import SchemaDiagram.Proofs.Balance
import SchemaDiagram.Proofs.BodyEnd
import SchemaDiagram.Proofs.BodyPlace
import SchemaDiagram.Proofs.BodyRewrite
import SchemaDiagram.Proofs.BodySite
import SchemaDiagram.Proofs.Boundary
import SchemaDiagram.Proofs.Calculable
import SchemaDiagram.Proofs.CalculableLayout
import SchemaDiagram.Proofs.Cleaning
import SchemaDiagram.Proofs.ColumnPairs
import SchemaDiagram.Proofs.Committing
import SchemaDiagram.Proofs.Commuting
import SchemaDiagram.Proofs.DebouncedCalls
import SchemaDiagram.Proofs.DeclarationLines
import SchemaDiagram.Proofs.DoubleBits
import SchemaDiagram.Proofs.DoubleRange
import SchemaDiagram.Proofs.DrawnValues
import SchemaDiagram.Proofs.Entries
import SchemaDiagram.Proofs.ExactNumbers
import SchemaDiagram.Proofs.Extent
import SchemaDiagram.Proofs.FieldSettings
import SchemaDiagram.Proofs.FileCommit
import SchemaDiagram.Proofs.Fillets
import SchemaDiagram.Proofs.FreshIds
import SchemaDiagram.Proofs.GestureRuns
import SchemaDiagram.Proofs.GridCells
import SchemaDiagram.Proofs.HeaderList
import SchemaDiagram.Proofs.IndexKeys
import SchemaDiagram.Proofs.IndexLines
import SchemaDiagram.Proofs.Injections
import SchemaDiagram.Proofs.Lanes
import SchemaDiagram.Proofs.LayerPaths
import SchemaDiagram.Proofs.LineEnd
import SchemaDiagram.Proofs.ListPlace
import SchemaDiagram.Proofs.ListUpdate
import SchemaDiagram.Proofs.MapUpdate
import SchemaDiagram.Proofs.Merging
import SchemaDiagram.Proofs.NameLists
import SchemaDiagram.Proofs.Naming
import SchemaDiagram.Proofs.NearestDouble
import SchemaDiagram.Proofs.Nesting
import SchemaDiagram.Proofs.NewLines
import SchemaDiagram.Proofs.Numerals
import SchemaDiagram.Proofs.Outcomes
import SchemaDiagram.Proofs.Outline
import SchemaDiagram.Proofs.PartItems
import SchemaDiagram.Proofs.Parts
import SchemaDiagram.Proofs.PathEnds
import SchemaDiagram.Proofs.Pieces
import SchemaDiagram.Proofs.Places
import SchemaDiagram.Proofs.ProjectEdit
import SchemaDiagram.Proofs.QuotedReferences
import SchemaDiagram.Proofs.Reading
import SchemaDiagram.Proofs.Recovery
import SchemaDiagram.Proofs.Retracing
import SchemaDiagram.Proofs.Rewriting
import SchemaDiagram.Proofs.ScalarTexts
import SchemaDiagram.Proofs.SceneOutline
import SchemaDiagram.Proofs.SchemaEdit
import SchemaDiagram.Proofs.Sealed
import SchemaDiagram.Proofs.SessionCalls
import SchemaDiagram.Proofs.SettingSpans
import SchemaDiagram.Proofs.SettingsChain
import SchemaDiagram.Proofs.SettingsEdit
import SchemaDiagram.Proofs.ShortestDigits
import SchemaDiagram.Proofs.ShownTables
import SchemaDiagram.Proofs.Site
import SchemaDiagram.Proofs.Slots
import SchemaDiagram.Proofs.SpliceApply
import SchemaDiagram.Proofs.SplitTokens
import SchemaDiagram.Proofs.Splitting
import SchemaDiagram.Proofs.StackedRows
import SchemaDiagram.Proofs.Steps
import SchemaDiagram.Proofs.Subscriptions
import SchemaDiagram.Proofs.TableApart
import SchemaDiagram.Proofs.TokenTiling
import SchemaDiagram.Proofs.TopLevel
import SchemaDiagram.Proofs.Turning
import SchemaDiagram.Proofs.Untied
import SchemaDiagram.Proofs.Utf8
import SchemaDiagram.Proofs.ValueEdit
import SchemaDiagram.Proofs.VerticalRuns
import SchemaDiagram.Proofs.Views
import SchemaDiagram.Proofs.WellNested
import SchemaDiagram.Proofs.WrittenNumbers
import SchemaDiagram.Proofs.WrittenValues
import SchemaDiagram.Proofs.XmlReading
import SchemaDiagram.Render.Scene
import SchemaDiagram.Render.Svg
import SchemaDiagram.Routing.Fault
import SchemaDiagram.Routing.Highlight
import SchemaDiagram.Routing.Route
import SchemaDiagram.Settings.Item
import SchemaDiagram.Settings.Typed
import SchemaDiagram.Source.Block
import SchemaDiagram.Source.Quote
import SchemaDiagram.Source.Segment
import SchemaDiagram.Source.Span
import SchemaDiagram.Source.Token
import SchemaDiagram.Text.Basic
import SchemaDiagram.Text.Blank
import SchemaDiagram.Text.CaseRun
import SchemaDiagram.Text.CellWidth
import SchemaDiagram.Text.Cells
import SchemaDiagram.Text.CharacterName
import SchemaDiagram.Text.CodePointSet
import SchemaDiagram.Text.DecimalDigit
import SchemaDiagram.Text.Lines
import SchemaDiagram.Text.LowerCase
import SchemaDiagram.Text.PathName
import SchemaDiagram.Text.Printable
import SchemaDiagram.Text.Quoted
import SchemaDiagram.Text.Similar
import SchemaDiagram.Text.UpperCase
import SchemaDiagram.Text.Utf16
import SchemaDiagram.Text.Utf8
import SchemaDiagram.Text.WordChar
import SchemaDiagram.Time.Moment
import SchemaDiagram.Yaml.Cursor
import SchemaDiagram.Yaml.Document
import SchemaDiagram.Yaml.Node
import SchemaDiagram.Yaml.Token
import SchemaDiagram.Yaml.Word
