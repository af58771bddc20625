import SliceGuard.Check.Access
import SliceGuard.Check.Condition
import SliceGuard.Check.Guard
import SliceGuard.Check.Package
import SliceGuard.CommandLine.Options
import SliceGuard.CommandLine.Run
import SliceGuard.Declarations.Index
import SliceGuard.Declarations.Signature
import SliceGuard.Declarations.Symbol
import SliceGuard.Main
import SliceGuard.Packages.FileTree
import SliceGuard.Packages.Loading
import SliceGuard.Packages.Path
import SliceGuard.Packages.Pattern
import SliceGuard.Proofs.Check.Alike
import SliceGuard.Proofs.Check.Comments
import SliceGuard.Proofs.Check.Extension
import SliceGuard.Proofs.Check.FileOrder
import SliceGuard.Proofs.Check.Guarding
import SliceGuard.Proofs.Check.LengthCheck
import SliceGuard.Proofs.Check.Modularity
import SliceGuard.Proofs.Check.OwnValue
import SliceGuard.Proofs.Check.Positions
import SliceGuard.Proofs.Check.Rearranging
import SliceGuard.Proofs.Check.Retyping
import SliceGuard.Proofs.Check.Silencing
import SliceGuard.Proofs.Check.Subpackage
import SliceGuard.Proofs.Check.Unguarded
import SliceGuard.Proofs.Check.Versions
import SliceGuard.Proofs.CommandLine.Failures
import SliceGuard.Proofs.CommandLine.Findings
import SliceGuard.Proofs.CommandLine.Modes
import SliceGuard.Proofs.Declarations.Alike
import SliceGuard.Proofs.Declarations.Comments
import SliceGuard.Proofs.Declarations.DeclaredNames
import SliceGuard.Proofs.Declarations.Flattening
import SliceGuard.Proofs.Declarations.MethodLookup
import SliceGuard.Proofs.Declarations.Relocation
import SliceGuard.Proofs.Declarations.Signatures
import SliceGuard.Proofs.Packages.Complaints
import SliceGuard.Proofs.Packages.Directories
import SliceGuard.Proofs.Packages.Expansion
import SliceGuard.Proofs.Packages.ExternalTests
import SliceGuard.Proofs.Packages.FileSystem
import SliceGuard.Proofs.Packages.Lists
import SliceGuard.Proofs.Packages.Paths
import SliceGuard.Proofs.Packages.RecursivePatterns
import SliceGuard.Proofs.Service.Buffers
import SliceGuard.Proofs.Service.FrontEnds
import SliceGuard.Proofs.Service.Relevance
import SliceGuard.Proofs.Service.Requests
import SliceGuard.Proofs.Syntax.Comments
import SliceGuard.Proofs.Syntax.Correspondence
import SliceGuard.Proofs.Syntax.Depth.Agreement
import SliceGuard.Proofs.Syntax.Depth.Expressions
import SliceGuard.Proofs.Syntax.Depth.Sources
import SliceGuard.Proofs.Syntax.Depth.Statements
import SliceGuard.Proofs.Syntax.Depth.Types
import SliceGuard.Proofs.Syntax.Frames
import SliceGuard.Proofs.Syntax.Layout
import SliceGuard.Proofs.Syntax.Lexing
import SliceGuard.Proofs.Syntax.Preorder
import SliceGuard.Proofs.Syntax.Reading
import SliceGuard.Proofs.Syntax.Rejection
import SliceGuard.Proofs.Syntax.Relocation
import SliceGuard.Proofs.Syntax.Rewriting
import SliceGuard.Proofs.Syntax.TopLevel
import SliceGuard.Proofs.Syntax.Walking
import SliceGuard.Proofs.Text.JsonReading
import SliceGuard.Proofs.Text.JsonRoundTrip
import SliceGuard.Proofs.Typing.Alike
import SliceGuard.Proofs.Typing.Carrying
import SliceGuard.Proofs.Typing.Chains
import SliceGuard.Proofs.Typing.Comments
import SliceGuard.Proofs.Typing.Declaration
import SliceGuard.Proofs.Typing.Depth
import SliceGuard.Proofs.Typing.Elements
import SliceGuard.Proofs.Typing.GivenTypes
import SliceGuard.Proofs.Typing.Lead
import SliceGuard.Proofs.Typing.Leading
import SliceGuard.Proofs.Typing.Mentions
import SliceGuard.Proofs.Typing.Methods
import SliceGuard.Proofs.Typing.Nearest
import SliceGuard.Proofs.Typing.Results
import SliceGuard.Proofs.Typing.Scopes
import SliceGuard.Proofs.Typing.Shadowing
import SliceGuard.Proofs.Typing.Symbols
import SliceGuard.Proofs.Typing.Uses
import SliceGuard.Proofs.Typing.Variables
import SliceGuard.Proofs.Typing.Versions
import SliceGuard.Service.Reply
import SliceGuard.Service.Request
import SliceGuard.Syntax.Defects
import SliceGuard.Syntax.Grammar.Basic
import SliceGuard.Syntax.Grammar.Expressions
import SliceGuard.Syntax.Grammar.Statements
import SliceGuard.Syntax.Grammar.Types
import SliceGuard.Syntax.Kind
import SliceGuard.Syntax.Lexer
import SliceGuard.Syntax.Node
import SliceGuard.Syntax.Source
import SliceGuard.Syntax.Token
import SliceGuard.Syntax.Walk
import SliceGuard.Text.Json
import SliceGuard.Text.Letter
import SliceGuard.Text.Printable
import SliceGuard.Text.Quoted
import SliceGuard.Text.Utf8
import SliceGuard.Typing.Binding
import SliceGuard.Typing.Expression
import SliceGuard.Typing.TypeInfo
import SliceGuard.Typing.Underlying
