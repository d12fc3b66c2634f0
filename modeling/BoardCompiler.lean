import BoardCompiler.Files.Disk
import BoardCompiler.Json.Reader
import BoardCompiler.Main
import BoardCompiler.Proofs.Compile.Bindings
import BoardCompiler.Proofs.Compile.Extend
import BoardCompiler.Proofs.Compile.Order
import BoardCompiler.Proofs.Compile.Variables
import BoardCompiler.Proofs.EntityChecks
import BoardCompiler.Proofs.Json.Spelling
import BoardCompiler.Proofs.Layout.Builtin
import BoardCompiler.Proofs.Json.Tokens
import BoardCompiler.Proofs.Json.Reader
import BoardCompiler.Proofs.InitMap
import BoardCompiler.Proofs.Json.Decode
import BoardCompiler.Proofs.BoardText
import BoardCompiler.Proofs.Files.Disk
import BoardCompiler.Proofs.Files.Paths
import BoardCompiler.Proofs.Files.Directories
import BoardCompiler.Proofs.Jobs
import BoardCompiler.Proofs.WriteBoard
import BoardCompiler.Proofs.Files.Join
import BoardCompiler.Proofs.CreateProject
import BoardCompiler.CLiteral
import BoardCompiler.Proofs.CLiteral
import BoardCompiler.Proofs.Noninterference
import BoardCompiler.Proofs.Unread
import BoardCompiler.Proofs.Toml.Lines
import BoardCompiler.Proofs.Toml.Standing
import BoardCompiler.Proofs.Toml.Strings
import BoardCompiler.Proofs.Manifest
import BoardCompiler.Proofs.Reference.Spellings
import BoardCompiler.Proofs.Registrations.Answers
import BoardCompiler.Proofs.Compile.Headers
import BoardCompiler.Proofs.Yaml.Load
import BoardCompiler.Proofs.Yaml.Scalar
import BoardCompiler.Proofs.Board.Sections
import BoardCompiler.Proofs.Traversal
import BoardCompiler.Proofs.Board.Documents
import BoardCompiler.Proofs.Board.Loading
import BoardCompiler.Proofs.Files.Outward
import BoardCompiler.Proofs.FindManifest
import BoardCompiler.Proofs.Field.Exactness
import BoardCompiler.Proofs.Compile.Identifiers
import BoardCompiler.Proofs.Text.Lines
import BoardCompiler.Proofs.Commands
import BoardCompiler.Proofs.CheckReport
import BoardCompiler.Proofs.FirstOccurrences
import BoardCompiler.Proofs.PeripheralRegistry.Insertions
import BoardCompiler.Proofs.InitMap.Insertions
import BoardCompiler.Proofs.Board.Entities
import BoardCompiler.Proofs.Toml.Distinct
import BoardCompiler.Proofs.Manifest.Grammar
