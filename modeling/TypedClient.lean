import TypedClient.Api.Document
import TypedClient.Api.MediaType
import TypedClient.Api.Override
import TypedClient.Client.Binding
import TypedClient.Client.Comment
import TypedClient.Client.Compile
import TypedClient.Client.Declaration
import TypedClient.Client.Generate
import TypedClient.Client.Identifier
import TypedClient.Client.Literal
import TypedClient.Client.Method
import TypedClient.Client.Route
import TypedClient.Client.Template
import TypedClient.Client.Transliteration
import TypedClient.Client.TypeExpr
import TypedClient.Client.Warning
import TypedClient.Client.WordCase
import TypedClient.Console.CommandLine
import TypedClient.Console.Generation
import TypedClient.Console.Grammar
import TypedClient.Console.Palette
import TypedClient.Console.Session
import TypedClient.Console.Table
import TypedClient.Console.Transcript
import TypedClient.Console.Usage
import TypedClient.Console.Wrap
import TypedClient.Decimal.Magnitude
import TypedClient.Decimal.Shortest
import TypedClient.Files.FilePath
import TypedClient.Files.FileSystem
import TypedClient.Json.Basic
import TypedClient.Json.Consume
import TypedClient.Json.Merge
import TypedClient.Json.Number
import TypedClient.Json.Print
import TypedClient.Json.Problem
import TypedClient.Json.Read
import TypedClient.Json.Shape
import TypedClient.Json.Shape.Read
import TypedClient.Json.Skip
import TypedClient.Json.Token
import TypedClient.Json.Token.Digits
import TypedClient.Json.Token.Quoted
import TypedClient.Main
import TypedClient.Schema.Node
import TypedClient.Schema.Typing
import TypedClient.Text.Blank
import TypedClient.Text.Cluster
import TypedClient.Text.Emoji
import TypedClient.Text.Lines
import TypedClient.Text.Marks
import TypedClient.Text.Printable
import TypedClient.Text.Ranges
import TypedClient.Text.Split
import TypedClient.Text.Utf8
import TypedClient.Text.Width
import TypedClient.Proofs.Api.Additions
import TypedClient.Proofs.Api.JsonEntries
import TypedClient.Proofs.Api.Lookups
import TypedClient.Proofs.Api.MediaTypeGrammar
import TypedClient.Proofs.Api.ReadSchemas
import TypedClient.Proofs.Api.SeenDocument
import TypedClient.Proofs.Api.View
import TypedClient.Proofs.Client.Accounting
import TypedClient.Proofs.Client.Building
import TypedClient.Proofs.Client.CommentEnds
import TypedClient.Proofs.Client.CommentReading
import TypedClient.Proofs.Client.Entries
import TypedClient.Proofs.Client.FieldOutcomes
import TypedClient.Proofs.Client.Fresh
import TypedClient.Proofs.Client.Indentation
import TypedClient.Proofs.Client.LiteralReading
import TypedClient.Proofs.Client.Locality
import TypedClient.Proofs.Client.MethodLines
import TypedClient.Proofs.Client.MethodReading
import TypedClient.Proofs.Client.OptionalOptions
import TypedClient.Proofs.Client.OverrideModes
import TypedClient.Proofs.Client.PathParameters
import TypedClient.Proofs.Client.RequestFields
import TypedClient.Proofs.Client.RequestText
import TypedClient.Proofs.Client.ResponseText
import TypedClient.Proofs.Client.RouteReading
import TypedClient.Proofs.Client.RouteScan
import TypedClient.Proofs.Client.Routing
import TypedClient.Proofs.Client.SeenParts
import TypedClient.Proofs.Client.SentNames
import TypedClient.Proofs.Client.SignatureReading
import TypedClient.Proofs.Client.TemplateDraft
import TypedClient.Proofs.Client.TemplateErrors
import TypedClient.Proofs.Client.TemplateFilling
import TypedClient.Proofs.Client.TemplateMarks
import TypedClient.Proofs.Client.TypeNames
import TypedClient.Proofs.Client.TypeText
import TypedClient.Proofs.Client.Unseen
import TypedClient.Proofs.Client.Visits
import TypedClient.Proofs.Console.Display
import TypedClient.Proofs.Console.Readings
import TypedClient.Proofs.Console.Sources
import TypedClient.Proofs.Console.Stages
import TypedClient.Proofs.Files.Growth
import TypedClient.Proofs.Files.Parents
import TypedClient.Proofs.Files.Storing
import TypedClient.Proofs.Json.Distinct
import TypedClient.Proofs.Json.MemberOrder
import TypedClient.Proofs.Json.Members
import TypedClient.Proofs.Json.MergePatch
import TypedClient.Proofs.Json.NumberText
import TypedClient.Proofs.Json.ReadDistinct
import TypedClient.Proofs.Json.Tree
import TypedClient.Proofs.Json.TreeShapes
import TypedClient.Proofs.Json.TreeValues
import TypedClient.Proofs.Naming.BindingLoop
import TypedClient.Proofs.Naming.Humps
import TypedClient.Proofs.Naming.Locals
import TypedClient.Proofs.Naming.Slugs
import TypedClient.Proofs.Naming.Styles
import TypedClient.Proofs.Naming.Words
import TypedClient.Proofs.Schema.Loosenings
import TypedClient.Proofs.Schema.NodeType
import TypedClient.Proofs.Schema.Properties
import TypedClient.Proofs.Schema.Seen
import TypedClient.Proofs.Schema.SilentTypes
import TypedClient.Proofs.Schema.Walk
import TypedClient.Proofs.Script.Constant
import TypedClient.Proofs.Script.LooseType
import TypedClient.Proofs.Script.Numeral
import TypedClient.Proofs.Script.Object
import TypedClient.Proofs.Script.OpenRecord
import TypedClient.Proofs.Script.Reading
import TypedClient.Proofs.Script.Scanning
import TypedClient.Proofs.Script.StringLiteral
import TypedClient.Proofs.Script.TemplateEscapes
import TypedClient.Proofs.Script.TemplateLiteral
import TypedClient.Proofs.Script.Token
import TypedClient.Proofs.Script.TypeGrammar
import TypedClient.Proofs.Script.TypeReading
import TypedClient.Proofs.Text.Encoding
import TypedClient.Proofs.Text.Joining
import TypedClient.Proofs.Text.LineNumbers
import TypedClient.Proofs.Text.Lines
import TypedClient.Proofs.Text.Occurrences
import TypedClient.Proofs.Text.Runs
