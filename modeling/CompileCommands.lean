import CompileCommands.Action
import CompileCommands.Bazel
import CompileCommands.CommandLine
import CompileCommands.CommandLine.Guide
import CompileCommands.CommandLine.Options
import CompileCommands.Compile.Classification
import CompileCommands.Compile.Kind
import CompileCommands.Compile.Output
import CompileCommands.Compile.Source
import CompileCommands.Config.Arguments
import CompileCommands.Config.Discovery
import CompileCommands.Config.Layer
import CompileCommands.Config.Settings
import CompileCommands.Database
import CompileCommands.Database.File
import CompileCommands.Decimal.Binary64
import CompileCommands.Decimal.Shortest
import CompileCommands.External
import CompileCommands.Failure
import CompileCommands.Generation
import CompileCommands.Host
import CompileCommands.Host.FileSystem
import CompileCommands.Host.Journal
import CompileCommands.Host.Operation
import CompileCommands.Host.OsError
import CompileCommands.Host.Process
import CompileCommands.Json.Pretty
import CompileCommands.Json.Value
import CompileCommands.Path
import CompileCommands.Query
import CompileCommands.Query.Pattern
import CompileCommands.Shell.Arithmetic
import CompileCommands.Shell.Builtin
import CompileCommands.Shell.Builtin.Directory
import CompileCommands.Shell.Builtin.Signal
import CompileCommands.Shell.Builtin.Variable
import CompileCommands.Shell.Command
import CompileCommands.Shell.Condition
import CompileCommands.Shell.Expansion
import CompileCommands.Shell.Field
import CompileCommands.Shell.Floating
import CompileCommands.Shell.Format
import CompileCommands.Shell.Launch
import CompileCommands.Shell.Pattern
import CompileCommands.Shell.Program
import CompileCommands.Shell.Redirection
import CompileCommands.Shell.Regular
import CompileCommands.Shell.Rounded
import CompileCommands.Shell.Run
import CompileCommands.Shell.Script
import CompileCommands.Shell.Source
import CompileCommands.Shell.State
import CompileCommands.Shell.Utility
import CompileCommands.Shell.Utility.Basic
import CompileCommands.Shell.Utility.Expression
import CompileCommands.Shell.Utility.Files
import CompileCommands.Shell.Utility.Lines
import CompileCommands.Shell.Utility.Running
import CompileCommands.Shell.Utility.Search
import CompileCommands.Shell.Utility.Values
import CompileCommands.Shell.Word
import CompileCommands.Text.Fields
import CompileCommands.Text.Lowercase
import CompileCommands.Text.Lowercase.Table
import CompileCommands.Text.Octets
import CompileCommands.Text.Opening
import CompileCommands.Text.Printable.Table
import CompileCommands.Text.Quoted
import CompileCommands.Text.Similarity
import CompileCommands.Text.Utf8
import CompileCommands.Text.Whitespace
import CompileCommands.Wire.ActionGraph
import CompileCommands.Wire.Field
import CompileCommands.Wire.Varint
import CompileCommands.Yaml.Document
import CompileCommands.Yaml.Event
import CompileCommands.Yaml.Position
import CompileCommands.Yaml.Scalar.Block
import CompileCommands.Yaml.Scalar.Gap
import CompileCommands.Yaml.Scalar.Plain
import CompileCommands.Yaml.Scalar.Quoted
import CompileCommands.Yaml.Scalar.Value
import CompileCommands.Yaml.SyntaxError
import CompileCommands.Yaml.Token
import CompileCommands.Yaml.Token.Lexer
import CompileCommands.Yaml.Token.Tag
import CompileCommands.Main
import CompileCommands.Proofs.Result
import CompileCommands.Proofs.Text.Utf8
import CompileCommands.Proofs.Wire.Field
import CompileCommands.Proofs.Wire.ActionGraph
import CompileCommands.Proofs.Bazel
import CompileCommands.Proofs.Compile.Output
import CompileCommands.Proofs.Compile.Source
import CompileCommands.Proofs.Database
import CompileCommands.Proofs.Database.Rendering
import CompileCommands.Proofs.External
import CompileCommands.Proofs.Generation
import CompileCommands.Proofs.Wire.Encoding
import CompileCommands.Proofs.Wire.Concatenation
import CompileCommands.Proofs.Wire.Truncation
import CompileCommands.Proofs.CommandLine.Settings
import CompileCommands.Proofs.CommandLine.Ending
import CompileCommands.Proofs.Host.Atomicity
import CompileCommands.Proofs.Generation.Repetition
import CompileCommands.Proofs.Compile.Concatenation
import CompileCommands.Proofs.Host.Program
import CompileCommands.Proofs.Bazel.Program
import CompileCommands.Proofs.Text.Whitespace
import CompileCommands.Proofs.Config.Merging
import CompileCommands.Proofs.Config.Arguments
import CompileCommands.Proofs.Query
import CompileCommands.Proofs.CommandLine.Options
import CompileCommands.Proofs.External.Place
import CompileCommands.Proofs.Query.Pattern
import CompileCommands.Proofs.Text.Lossy
import CompileCommands.Proofs.Bazel.Answer
import CompileCommands.Proofs.Config.Reading
import CompileCommands.Proofs.Config.Settings
import CompileCommands.Proofs.Database.Layout
import CompileCommands.Proofs.Shell
