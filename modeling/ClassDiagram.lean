import ClassDiagram.Analysis.Annotation
import ClassDiagram.Analysis.Members
import ClassDiagram.Analysis.ModuleAnalysis
import ClassDiagram.Analysis.ModuleText
import ClassDiagram.Analysis.Scope
import ClassDiagram.Analysis.TypeResolution
import ClassDiagram.Arena.Basic
import ClassDiagram.Arena.Field
import ClassDiagram.Arena.Outline
import ClassDiagram.Arena.Session
import ClassDiagram.Arena.Tree
import ClassDiagram.Closure
import ClassDiagram.CommandLine.Options
import ClassDiagram.CommandLine.Program
import ClassDiagram.Dependency.Cycles
import ClassDiagram.Dependency.Summary
import ClassDiagram.Diagram.Builder
import ClassDiagram.Diagram.Editing
import ClassDiagram.Diagram.Graph
import ClassDiagram.Diagram.MemberLine
import ClassDiagram.Diagram.Signature
import ClassDiagram.Dictionary
import ClassDiagram.Dot.Identifier
import ClassDiagram.Dot.Printer
import ClassDiagram.Files.Discovery
import ClassDiagram.Files.FileSystem
import ClassDiagram.Files.Path
import ClassDiagram.Log
import ClassDiagram.Log.Logger
import ClassDiagram.Main
import ClassDiagram.Model.Element
import ClassDiagram.Model.ElementError
import ClassDiagram.Model.QualifiedName
import ClassDiagram.Model.Visibility
import ClassDiagram.Project.Project
import ClassDiagram.Project.Session
import ClassDiagram.Proofs.Analysis.Accessors
import ClassDiagram.Proofs.Analysis.Agreement
import ClassDiagram.Proofs.Analysis.Alias
import ClassDiagram.Proofs.Analysis.Canonical
import ClassDiagram.Proofs.Analysis.ClassMembers
import ClassDiagram.Proofs.Analysis.Counterpart
import ClassDiagram.Proofs.Analysis.Decorators
import ClassDiagram.Proofs.Analysis.Exchange
import ClassDiagram.Proofs.Analysis.Findings
import ClassDiagram.Proofs.Analysis.Imports
import ClassDiagram.Proofs.Analysis.Insertion
import ClassDiagram.Proofs.Analysis.Lifetime
import ClassDiagram.Proofs.Analysis.ModuleText
import ClassDiagram.Proofs.Analysis.NamingConvention
import ClassDiagram.Proofs.Analysis.Nesting
import ClassDiagram.Proofs.Analysis.Quotation
import ClassDiagram.Proofs.Analysis.Receiver
import ClassDiagram.Proofs.Analysis.Reference
import ClassDiagram.Proofs.Analysis.Sites
import ClassDiagram.Proofs.Analysis.Visit
import ClassDiagram.Proofs.Analysis.WellFormed
import ClassDiagram.Proofs.Arena.Attach
import ClassDiagram.Proofs.Arena.Liveness
import ClassDiagram.Proofs.Arena.Making
import ClassDiagram.Proofs.Arena.Parent
import ClassDiagram.Proofs.Arena.PropertyStore
import ClassDiagram.Proofs.Arena.WellFormed
import ClassDiagram.Proofs.Closure
import ClassDiagram.Proofs.CommandLine.Summary
import ClassDiagram.Proofs.Dependency.Cycles
import ClassDiagram.Proofs.Dependency.Summary
import ClassDiagram.Proofs.Diagram.Additions
import ClassDiagram.Proofs.Diagram.Associations
import ClassDiagram.Proofs.Diagram.ClassLabel
import ClassDiagram.Proofs.Diagram.CrossReference
import ClassDiagram.Proofs.Diagram.Dependencies
import ClassDiagram.Proofs.Diagram.Forest
import ClassDiagram.Proofs.Diagram.KnownClasses
import ClassDiagram.Proofs.Diagram.MemberOrder
import ClassDiagram.Proofs.Diagram.NodeId
import ClassDiagram.Proofs.Diagram.Position
import ClassDiagram.Proofs.Diagram.Traversal
import ClassDiagram.Proofs.Dictionary
import ClassDiagram.Proofs.Dot.EdgeEnd
import ClassDiagram.Proofs.Dot.Lexing
import ClassDiagram.Proofs.Dot.PlainNames
import ClassDiagram.Proofs.Dot.Reader
import ClassDiagram.Proofs.Dot.RoundTrip
import ClassDiagram.Proofs.Files.Discovery
import ClassDiagram.Proofs.Files.Path
import ClassDiagram.Proofs.Files.Tree
import ClassDiagram.Proofs.Log
import ClassDiagram.Proofs.Log.Logger
import ClassDiagram.Proofs.Model.Property
import ClassDiagram.Proofs.Project.History
import ClassDiagram.Proofs.Project.NameCollision
import ClassDiagram.Proofs.Project.Outcome
import ClassDiagram.Proofs.Project.RelativeImport
import ClassDiagram.Proofs.Project.RootPackage
import ClassDiagram.Proofs.Render.Contexts
import ClassDiagram.Proofs.Render.Shell
import ClassDiagram.Proofs.Source.Grammar
import ClassDiagram.Proofs.Source.Lexer
import ClassDiagram.Proofs.Source.Named
import ClassDiagram.Proofs.Source.Program
import ClassDiagram.Proofs.Source.Reader
import ClassDiagram.Proofs.Text.Dotted
import ClassDiagram.Proofs.Text.Json
import ClassDiagram.Proofs.Text.Normal
import ClassDiagram.Render.Renderer
import ClassDiagram.Render.SearchPath
import ClassDiagram.Source.Expr
import ClassDiagram.Source.Expr.Grammar
import ClassDiagram.Source.Formatted
import ClassDiagram.Source.Lexer
import ClassDiagram.Source.Literal
import ClassDiagram.Source.Numeral
import ClassDiagram.Source.Program
import ClassDiagram.Source.Reader
import ClassDiagram.Source.Stmt
import ClassDiagram.Source.Stmt.Grammar
import ClassDiagram.Source.Stmt.Pattern
import ClassDiagram.Source.Token
import ClassDiagram.Text.Alphabetical
import ClassDiagram.Text.CharacterName
import ClassDiagram.Text.CharacterName.Table
import ClassDiagram.Text.CodeTable
import ClassDiagram.Text.Identifier
import ClassDiagram.Text.Json
import ClassDiagram.Text.Normal
import ClassDiagram.Text.Normal.Composition
import ClassDiagram.Text.Normal.Decomposition
import ClassDiagram.Text.Parts
import ClassDiagram.Text.Printable
import ClassDiagram.Text.Quoted
