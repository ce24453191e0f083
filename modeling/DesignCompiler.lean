import DesignCompiler.CommandLine.Grammar
import DesignCompiler.CommandLine.Progress
import DesignCompiler.CommandLine.Run
import DesignCompiler.Completion.Answer
import DesignCompiler.Completion.Client
import DesignCompiler.Completion.CodeBlock
import DesignCompiler.Completion.Prompt
import DesignCompiler.Component.Compile
import DesignCompiler.Component.Name
import DesignCompiler.Component.Output
import DesignCompiler.Component.Template
import DesignCompiler.Component.Variant
import DesignCompiler.Design.Field
import DesignCompiler.Design.Node
import DesignCompiler.Design.Reading
import DesignCompiler.Design.Writing
import DesignCompiler.Failure
import DesignCompiler.Figma.Address
import DesignCompiler.Figma.Client
import DesignCompiler.Files.Path
import DesignCompiler.Files.Tree
import DesignCompiler.Http.Error
import DesignCompiler.Http.Message
import DesignCompiler.Http.Percent
import DesignCompiler.Http.Retry
import DesignCompiler.Http.Url
import DesignCompiler.Json.Basic
import DesignCompiler.Json.Display
import DesignCompiler.Json.Reader
import DesignCompiler.Json.Text
import DesignCompiler.Log
import DesignCompiler.Main
import DesignCompiler.Markup
import DesignCompiler.ModelStore
import DesignCompiler.Number.Basic
import DesignCompiler.Number.Binary64
import DesignCompiler.Number.Decimal
import DesignCompiler.Number.Layout
import DesignCompiler.Number.Lenient
import DesignCompiler.Number.Literal
import DesignCompiler.Number.Shortest
import DesignCompiler.Service.CrossOrigin
import DesignCompiler.Service.Endpoint
import DesignCompiler.Service.Input
import DesignCompiler.Service.Message
import DesignCompiler.Service.Serve
import DesignCompiler.Settings
import DesignCompiler.Style.Color
import DesignCompiler.Style.Declaration
import DesignCompiler.Text.Blank
import DesignCompiler.Text.Case
import DesignCompiler.Text.Digit
import DesignCompiler.Text.Encoding
import DesignCompiler.Text.Hexadecimal
import DesignCompiler.Text.Printable
import DesignCompiler.Text.Quoted
import DesignCompiler.Text.Split
import DesignCompiler.Text.Utf8
import DesignCompiler.Text.WordCharacter
import DesignCompiler.Proofs.Composition
import DesignCompiler.Proofs.Number.Range
import DesignCompiler.Proofs.Design.Acceptance
import DesignCompiler.Proofs.Design.Erasure
import DesignCompiler.Proofs.Http.Attempt
import DesignCompiler.Proofs.Http.Decision
import DesignCompiler.Proofs.Http.Trace
import DesignCompiler.Proofs.Http.Answer
import DesignCompiler.Proofs.Number.Value
import DesignCompiler.Proofs.Http.Backoff
import DesignCompiler.Proofs.Design.Rereading
import DesignCompiler.Proofs.Design.Preservation
import DesignCompiler.Proofs.Style.Channel
import DesignCompiler.Proofs.Number.Numeral
import DesignCompiler.Proofs.Json.Number
import DesignCompiler.Proofs.Json.Text
import DesignCompiler.Proofs.Json.Document
import DesignCompiler.Proofs.Json.Equality
import DesignCompiler.Proofs.Json.RoundTrip
import DesignCompiler.Proofs.Markup.Literal
import DesignCompiler.Proofs.Markup.Skeleton
import DesignCompiler.Proofs.Markup.Visibility
import DesignCompiler.Proofs.Markup.Indentation
import DesignCompiler.Proofs.Style.Rules
import DesignCompiler.Proofs.Component.Name
import DesignCompiler.Proofs.Component.Words
import DesignCompiler.Proofs.Component.Source
import DesignCompiler.Proofs.Files.Tree
import DesignCompiler.Proofs.Files.Refusal
import DesignCompiler.Proofs.CommandLine.Component
import DesignCompiler.Proofs.ModelStore
import DesignCompiler.Proofs.Design.Frames
import DesignCompiler.Proofs.Figma.Fetch
import DesignCompiler.Proofs.Figma.Frames
import DesignCompiler.Proofs.CommandLine.Fetch
import DesignCompiler.Proofs.Figma.Shape
import DesignCompiler.Proofs.CommandLine.Report
import DesignCompiler.Proofs.Completion.Answer
import DesignCompiler.Proofs.CommandLine.Progress
import DesignCompiler.Proofs.CommandLine.Options
import DesignCompiler.Proofs.CommandLine.Place
import DesignCompiler.Proofs.Number.Lenient
import DesignCompiler.Proofs.Number.Nearest
import DesignCompiler.Proofs.Number.Neighbours
import DesignCompiler.Proofs.Number.Shortest
import DesignCompiler.Proofs.Number.Reading
import DesignCompiler.Proofs.Number.ScriptText
import DesignCompiler.Proofs.Number.StyleText
import DesignCompiler.Proofs.Design.Document
import DesignCompiler.Proofs.Markup.JsonLiteral
import DesignCompiler.Proofs.Completion.Prompt
import DesignCompiler.Proofs.Service.Call
import DesignCompiler.Proofs.Service.Fetch
import DesignCompiler.Proofs.Service.Failure
import DesignCompiler.Proofs.Service.Listing
import DesignCompiler.Proofs.Service.Component
import DesignCompiler.Proofs.Service.Malformed
import DesignCompiler.Proofs.Text.Case
import DesignCompiler.Proofs.Text.Part
import DesignCompiler.Proofs.Text.Search
import DesignCompiler.Proofs.Text.Utf8
import DesignCompiler.Proofs.Text.Word
import DesignCompiler.Proofs.Http.Percent
import DesignCompiler.Proofs.Http.Url
import DesignCompiler.Proofs.Completion.CodeBlock
import DesignCompiler.Proofs.Figma.Link
import DesignCompiler.Proofs.Figma.Translation
import DesignCompiler.Proofs.Service.Link
