import ShaderGraph.Argument.Description
import ShaderGraph.Argument.Names
import ShaderGraph.Argument.Reading
import ShaderGraph.Artifact
import ShaderGraph.Builtins
import ShaderGraph.Cache.Key
import ShaderGraph.Call
import ShaderGraph.Components
import ShaderGraph.Decimal.Notation
import ShaderGraph.Decimal.Shortest
import ShaderGraph.Dependency
import ShaderGraph.Expression.Basic
import ShaderGraph.Expression.Evaluation
import ShaderGraph.Expression.Fault
import ShaderGraph.Expression.Field
import ShaderGraph.Expression.Grammar
import ShaderGraph.Expression.Primitive
import ShaderGraph.Expression.Token
import ShaderGraph.Expression.Scan
import ShaderGraph.Failure
import ShaderGraph.Files.Path
import ShaderGraph.Files.Tree
import ShaderGraph.Graph.Assembly
import ShaderGraph.Graph.Basic
import ShaderGraph.Graph.Order
import ShaderGraph.Graph.Reference
import ShaderGraph.Graphics.Compilation
import ShaderGraph.Graphics.Program
import ShaderGraph.Host.Basic
import ShaderGraph.Host.Calls
import ShaderGraph.Host.Commands
import ShaderGraph.Host.Graphs
import ShaderGraph.Host.Watching
import ShaderGraph.Overload.Adapter
import ShaderGraph.Overload.Choice
import ShaderGraph.Plugin.Function
import ShaderGraph.Plugin.Module
import ShaderGraph.Plugin.Naming
import ShaderGraph.Plugin.Registry
import ShaderGraph.Plugin.Source
import ShaderGraph.Shader.Declarations
import ShaderGraph.Shader.Directive
import ShaderGraph.Shader.Generator
import ShaderGraph.Shader.Include
import ShaderGraph.Shader.Template
import ShaderGraph.Swizzle
import ShaderGraph.Table
import ShaderGraph.Text.Category
import ShaderGraph.Text.Character
import ShaderGraph.Text.Equivalence
import ShaderGraph.Text.Lines
import ShaderGraph.Text.Normal
import ShaderGraph.Text.Quoted
import ShaderGraph.Text.Sorted
import ShaderGraph.Text.Trim
import ShaderGraph.Trace.Event
import ShaderGraph.Trace.Traced
import ShaderGraph.Vocabulary
import ShaderGraph.Proofs.Trace.Attempt
import ShaderGraph.Proofs.Graph.Reachability
import ShaderGraph.Proofs.Graph.Order
import ShaderGraph.Proofs.Graph.Agreement
import ShaderGraph.Proofs.Graph.Numbering
import ShaderGraph.Proofs.Call.ArgumentList
import ShaderGraph.Proofs.Call.Nesting
import ShaderGraph.Proofs.Call.Discovery
import ShaderGraph.Proofs.Cache.GraphKey
import ShaderGraph.Proofs.Host.Effect
import ShaderGraph.Proofs.Host.GraphWork
import ShaderGraph.Proofs.Host.GraphRun
import ShaderGraph.Proofs.Shader.Names
import ShaderGraph.Proofs.Shader.Declarations
import ShaderGraph.Proofs.Shader.Block
import ShaderGraph.Proofs.Graph.Assembly
import ShaderGraph.Proofs.Cache.CallKey
import ShaderGraph.Proofs.Host.CallWork
import ShaderGraph.Proofs.Host.CallRun
import ShaderGraph.Proofs.Graph.Removal
import ShaderGraph.Proofs.Host.Release
import ShaderGraph.Proofs.Host.Reloading
import ShaderGraph.Proofs.Graph.Descent
import ShaderGraph.Proofs.Host.Request
import ShaderGraph.Proofs.Host.Session
import ShaderGraph.Proofs.Expression.Obstacle
import ShaderGraph.Proofs.Argument.Report
import ShaderGraph.Proofs.Host.Course
import ShaderGraph.Proofs.Host.Forgetting
import ShaderGraph.Proofs.Plugin.Story
import ShaderGraph.Proofs.Plugin.Balance
import ShaderGraph.Proofs.Plugin.Run
import ShaderGraph.Proofs.Trace.Emission
import ShaderGraph.Proofs.Graphics.Compilation
import ShaderGraph.Proofs.Host.Work
import ShaderGraph.Proofs.Host.Ownership
import ShaderGraph.Proofs.Host.Life
import ShaderGraph.Proofs.Host.Connection
import ShaderGraph.Proofs.Host.Showing
import ShaderGraph.Proofs.Graph.Replacement
import ShaderGraph.Proofs.Expression.Quotation
import ShaderGraph.Proofs.Expression.Field
import ShaderGraph.Proofs.Expression.Number
import ShaderGraph.Proofs.Expression.Cutting
import ShaderGraph.Proofs.Expression.Relocation
import ShaderGraph.Proofs.Expression.Lexeme
import ShaderGraph.Proofs.Argument.Mention
import ShaderGraph.Proofs.Argument.Substitution
import ShaderGraph.Proofs.Host.Stock
import ShaderGraph.Proofs.Host.Accounting
import ShaderGraph.Proofs.Shader.Recipe
import ShaderGraph.Proofs.Shader.Include
import ShaderGraph.Proofs.Files.Normal
import ShaderGraph.Proofs.Files.Reading
import ShaderGraph.Proofs.Shader.Following
import ShaderGraph.Proofs.Shader.Resolution
import ShaderGraph.Proofs.Shader.Climbing
import ShaderGraph.Proofs.Shader.Leftover
import ShaderGraph.Proofs.Shader.Embedding
import ShaderGraph.Proofs.Host.Submission
import ShaderGraph.Proofs.Host.Agreement
import ShaderGraph.Proofs.Host.Inclusion
import ShaderGraph.Proofs.Argument.Dependence
import ShaderGraph.Proofs.Expression.Scanning
import ShaderGraph.Proofs.Graph.Isolation
import ShaderGraph.Proofs.Plugin.Rearrangement
import ShaderGraph.Proofs.Plugin.Replacement
import ShaderGraph.Proofs.Host.Polling
import ShaderGraph.Proofs.Host.Serving
import ShaderGraph.Proofs.Host.Provenance
import ShaderGraph.Proofs.Decimal.Written
import ShaderGraph.Proofs.Expression.Arithmetic
import ShaderGraph.Proofs.Argument.Arithmetic
import ShaderGraph.Proofs.Argument.Results
import ShaderGraph.Proofs.Shader.Closure
import ShaderGraph.Proofs.Host.Refreshing
import ShaderGraph.Proofs.Overload.Choice
import ShaderGraph.Proofs.Overload.Slot
import ShaderGraph.Proofs.Overload.Dealing
import ShaderGraph.Proofs.Overload.Typing
import ShaderGraph.Proofs.Host.Renewal
import ShaderGraph.Proofs.Shader.Constant
import ShaderGraph.Proofs.Expression.Formula
import ShaderGraph.Proofs.Expression.Reader
import ShaderGraph.Proofs.Argument.Search
import ShaderGraph.Proofs.Argument.Typing
import ShaderGraph.Proofs.Expression.Literal
import ShaderGraph.Proofs.Expression.Spelling
import ShaderGraph.Proofs.Expression.Precedence
import ShaderGraph.Proofs.Expression.Reading
import ShaderGraph.Proofs.Expression.Outcome
import ShaderGraph.Proofs.Expression.Power
import ShaderGraph.Proofs.Argument.Points
import ShaderGraph.Proofs.Argument.Local
import ShaderGraph.Proofs.Call.Joining
import ShaderGraph.Proofs.Call.Site
import ShaderGraph.Proofs.Expression.Assignment
import ShaderGraph.Proofs.Graph.Definitions
import ShaderGraph.Proofs.Artifact.Lifecycle
import ShaderGraph.Proofs.Plugin.Lookup
import ShaderGraph.Proofs.Call.Masking
import ShaderGraph.Proofs.Expression.Origin
import ShaderGraph.Proofs.Expression.Tracing
import ShaderGraph.Proofs.Expression.Piece
import ShaderGraph.Proofs.Expression.Layout
import ShaderGraph.Proofs.Expression.Position
import ShaderGraph.Proofs.Text.Bytes
import ShaderGraph.Proofs.Text.Ranges
