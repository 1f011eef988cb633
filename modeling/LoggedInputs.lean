import LoggedInputs.Text.Digits
import LoggedInputs.Text.Split
import LoggedInputs.Text.Escape
import LoggedInputs.Text.Printable
import LoggedInputs.Model.DeclaredType
import LoggedInputs.Model.Codec
import LoggedInputs.Model.Suggest
import LoggedInputs.Model.Class
import LoggedInputs.Naming
import LoggedInputs.Unit.Basic
import LoggedInputs.Unit.Emit
import LoggedInputs.Log
import LoggedInputs.Files.Error
import LoggedInputs.Diagnostic
import LoggedInputs.Batch
import LoggedInputs.Json.Basic
import LoggedInputs.Json.Parse
import LoggedInputs.Json.Print
import LoggedInputs.Float.Binary
import LoggedInputs.Table.Value
import LoggedInputs.Table.Basic
import LoggedInputs.Kotlin.Types
import LoggedInputs.Kotlin.Render
import LoggedInputs.Cli.Commands
import LoggedInputs.Cli.Config
import LoggedInputs.Cli.Failure
import LoggedInputs.Cli.Interface
import LoggedInputs.Cli.Output
import LoggedInputs.Cli.Parse
import LoggedInputs.Cli.Report
import LoggedInputs.Cli.Run
import LoggedInputs.Files.Path
import LoggedInputs.Files.Volume
import LoggedInputs.Float.Display
import LoggedInputs.Json.Reader
import LoggedInputs.Main
import LoggedInputs.Model.BatchFile
import LoggedInputs.Rust.Declared
import LoggedInputs.Rust.Describe
import LoggedInputs.Rust.Expansion
import LoggedInputs.Rust.Lexer
import LoggedInputs.Rust.Literal
import LoggedInputs.Rust.Options
import LoggedInputs.Rust.Parser.Expr
import LoggedInputs.Rust.Parser.Grammar
import LoggedInputs.Rust.Parser.Item
import LoggedInputs.Rust.Parser.Stream
import LoggedInputs.Rust.Print
import LoggedInputs.Rust.Read
import LoggedInputs.Rust.Syntax
import LoggedInputs.Rust.Token
import LoggedInputs.Rust.Unicode
import LoggedInputs.Rust.Wrapper
import LoggedInputs.Text.Similarity
import LoggedInputs.Toml.Datetime
import LoggedInputs.Toml.Decode
import LoggedInputs.Toml.Document
import LoggedInputs.Toml.Error
import LoggedInputs.Toml.Lexer
import LoggedInputs.Toml.Parse
import LoggedInputs.Toml.Syntax
import LoggedInputs.Proofs.Lookup
import LoggedInputs.Proofs.Process
import LoggedInputs.Proofs.Generate
import LoggedInputs.Proofs.Table
import LoggedInputs.Proofs.Wrapper
import LoggedInputs.Proofs.Files
import LoggedInputs.Proofs.Run
import LoggedInputs.Proofs.GenerateEffects
import LoggedInputs.Proofs.Emit
import LoggedInputs.Proofs.RustClasses
import LoggedInputs.Proofs.KotlinLines
import LoggedInputs.Proofs.Directories
import LoggedInputs.Proofs.Regenerate
import LoggedInputs.Proofs.Naming
import LoggedInputs.Proofs.OutputPaths
import LoggedInputs.Proofs.Suggestions
import LoggedInputs.Proofs.Expansion
import LoggedInputs.Proofs.ByteOrder
import LoggedInputs.Proofs.TableMap
import LoggedInputs.Proofs.Persist
import LoggedInputs.Proofs.Clone
import LoggedInputs.Proofs.TypeTokens
import LoggedInputs.Proofs.TypeParsing
import LoggedInputs.Proofs.TypeSpelling
import LoggedInputs.Proofs.Classification
