import EngineBindings.Bindings.Assembly
import EngineBindings.Bindings.BuiltinUnit
import EngineBindings.Bindings.ClassUnit
import EngineBindings.Bindings.EntryUnit
import EngineBindings.Bindings.EnumUnit
import EngineBindings.Bindings.Error
import EngineBindings.Bindings.Naming
import EngineBindings.Bindings.StartupCalls
import EngineBindings.Bindings.TypeMap
import EngineBindings.Bindings.UtilityUnit
import EngineBindings.Bindings.VirtualUnit
import EngineBindings.Code.Basic
import EngineBindings.Code.Documentation
import EngineBindings.Code.Lexer
import EngineBindings.Command.Error
import EngineBindings.Command.Line
import EngineBindings.Command.Run
import EngineBindings.Config.Basic
import EngineBindings.Config.Document
import EngineBindings.Declaration.Attribute
import EngineBindings.Declaration.Class
import EngineBindings.Declaration.Enumeration
import EngineBindings.Declaration.Error
import EngineBindings.Declaration.Field
import EngineBindings.Declaration.Methods
import EngineBindings.Declaration.MethodsArgument
import EngineBindings.Declaration.TypeReader
import EngineBindings.DeclaredType
import EngineBindings.Distinct
import EngineBindings.File.Path
import EngineBindings.File.Tree
import EngineBindings.File.WorkDirectory
import EngineBindings.Form.Basic
import EngineBindings.Form.Declaration
import EngineBindings.Form.Module
import EngineBindings.Form.Registry
import EngineBindings.Form.Schema
import EngineBindings.Form.Type
import EngineBindings.Form.Value
import EngineBindings.Form.World
import EngineBindings.Host.Arguments
import EngineBindings.Host.Conversion
import EngineBindings.Host.Type
import EngineBindings.Host.TypedArray
import EngineBindings.Level
import EngineBindings.Main
import EngineBindings.Marshal.Argument
import EngineBindings.Marshal.Members
import EngineBindings.Marshal.PropertyInfo
import EngineBindings.Marshal.Proxy
import EngineBindings.Marshal.Setter
import EngineBindings.Module.NameList
import EngineBindings.Module.Partition
import EngineBindings.Module.Plan
import EngineBindings.Number.Binary
import EngineBindings.Number.Decimal
import EngineBindings.Object.Table
import EngineBindings.Primitive
import EngineBindings.Proofs.Bindings.Assembly
import EngineBindings.Proofs.Bindings.BuiltinItems
import EngineBindings.Proofs.Bindings.ClassItems
import EngineBindings.Proofs.Bindings.Dispatch
import EngineBindings.Proofs.Bindings.EnumConstants
import EngineBindings.Proofs.Bindings.Enumerations
import EngineBindings.Proofs.Bindings.FilePaths
import EngineBindings.Proofs.Bindings.Files
import EngineBindings.Proofs.Bindings.Layouts
import EngineBindings.Proofs.Bindings.ModuleTree
import EngineBindings.Proofs.Bindings.Outline
import EngineBindings.Proofs.Bindings.PropertyCalls
import EngineBindings.Proofs.Bindings.Spelling.Assembly
import EngineBindings.Proofs.Bindings.Spelling.Types
import EngineBindings.Proofs.Bindings.Spelling.Units
import EngineBindings.Proofs.Bindings.TypeMap
import EngineBindings.Proofs.Bindings.VectorConstants
import EngineBindings.Proofs.Chain
import EngineBindings.Proofs.Code.Declarations
import EngineBindings.Proofs.Command.Agreement
import EngineBindings.Proofs.Command.Failure
import EngineBindings.Proofs.Command.Listed
import EngineBindings.Proofs.Command.Rebuild
import EngineBindings.Proofs.Command.Run
import EngineBindings.Proofs.Command.SharedLists
import EngineBindings.Proofs.Command.WrittenLists
import EngineBindings.Proofs.Config.Document
import EngineBindings.Proofs.Declaration.Acceptance
import EngineBindings.Proofs.Declaration.Class
import EngineBindings.Proofs.Declaration.Enumeration
import EngineBindings.Proofs.Declaration.Field
import EngineBindings.Proofs.Declaration.Methods
import EngineBindings.Proofs.DeclaredType
import EngineBindings.Proofs.File.Path
import EngineBindings.Proofs.File.Tree
import EngineBindings.Proofs.File.View
import EngineBindings.Proofs.File.Write
import EngineBindings.Proofs.File.Writes
import EngineBindings.Proofs.Host.Arguments
import EngineBindings.Proofs.Host.Conversion
import EngineBindings.Proofs.Host.Kinds
import EngineBindings.Proofs.Host.TypedArray
import EngineBindings.Proofs.Marshal.Members
import EngineBindings.Proofs.Module.Ancestry
import EngineBindings.Proofs.Module.Contents
import EngineBindings.Proofs.Module.DeclarationOrder
import EngineBindings.Proofs.Module.Dependencies
import EngineBindings.Proofs.Module.ListFiles
import EngineBindings.Proofs.Module.NameList
import EngineBindings.Proofs.Module.Ownership
import EngineBindings.Proofs.Module.Partition
import EngineBindings.Proofs.Module.WellFormed
import EngineBindings.Proofs.Object.Exchange
import EngineBindings.Proofs.Object.Table
import EngineBindings.Proofs.Property.Accessors
import EngineBindings.Proofs.Registry.ClassDatabase
import EngineBindings.Proofs.Registry.Extension
import EngineBindings.Proofs.Registry.Inheritance
import EngineBindings.Proofs.Registry.Log
import EngineBindings.Proofs.Registry.SubclassCache
import EngineBindings.Proofs.Schema.Ancestors
import EngineBindings.Proofs.Schema.Inheritance
import EngineBindings.Proofs.Schema.Names
import EngineBindings.Proofs.Sequence
import EngineBindings.Proofs.Startup.Drain
import EngineBindings.Proofs.Startup.EntryPoint
import EngineBindings.Proofs.Startup.FirstDeclared
import EngineBindings.Proofs.Startup.Modules
import EngineBindings.Proofs.Startup.Refusal
import EngineBindings.Proofs.Startup.Resolve
import EngineBindings.Proofs.Text.Identifier
import EngineBindings.Proofs.Text.LetterCase
import EngineBindings.Proofs.Text.Pieces
import EngineBindings.Proofs.Text.Toml.Lines
import EngineBindings.Proofs.Text.Toml.Spelling
import EngineBindings.Proofs.Traverse
import EngineBindings.Proofs.TypeCategory
import EngineBindings.Proofs.Variant.Dictionary
import EngineBindings.Proofs.World.Accounts
import EngineBindings.Proofs.World.Ledger
import EngineBindings.Proofs.World.Proxy
import EngineBindings.Proofs.World.Records
import EngineBindings.Proofs.World.References
import EngineBindings.Proofs.World.Registered
import EngineBindings.Proofs.World.Setter
import EngineBindings.Property.Hint
import EngineBindings.Property.Members
import EngineBindings.Property.Outline
import EngineBindings.Property.Usage
import EngineBindings.Registry.Call
import EngineBindings.Registry.ClassDatabase
import EngineBindings.Registry.Extension
import EngineBindings.Registry.Member
import EngineBindings.Sample.Garage
import EngineBindings.Schema.Basic
import EngineBindings.Schema.Descriptor
import EngineBindings.Schema.Document
import EngineBindings.Startup.Plan
import EngineBindings.Syntax.Expression
import EngineBindings.Syntax.Grammar
import EngineBindings.Syntax.Item
import EngineBindings.Syntax.Params
import EngineBindings.Syntax.Path
import EngineBindings.Syntax.Pattern
import EngineBindings.Syntax.Reader
import EngineBindings.Syntax.Signature
import EngineBindings.Syntax.Text
import EngineBindings.Syntax.Type
import EngineBindings.Text.Blank
import EngineBindings.Text.ClusterTable
import EngineBindings.Text.Clusters
import EngineBindings.Text.Identifier
import EngineBindings.Text.IdentifierTable
import EngineBindings.Text.Json
import EngineBindings.Text.LetterCase
import EngineBindings.Text.LetterCaseTable
import EngineBindings.Text.Pieces
import EngineBindings.Text.Similarity
import EngineBindings.Text.Toml.Basic
import EngineBindings.Text.Toml.Reader
import EngineBindings.Text.Toml.Writer
import EngineBindings.Text.Words
import EngineBindings.TypeCategory
import EngineBindings.Variant.Array
import EngineBindings.Variant.Dictionary
import EngineBindings.Variant.Kind
import EngineBindings.Variant.Operator
import EngineBindings.Variant.Value
import EngineBindings.World.Act
import EngineBindings.World.Basic
import EngineBindings.World.Request
import EngineBindings.World.UserClass
