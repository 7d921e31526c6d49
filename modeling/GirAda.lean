import GirAda.Ada.Descriptor
import GirAda.Ada.Lowering
import GirAda.Ada.Mapping
import GirAda.Ada.Naming
import GirAda.Ada.Package
import GirAda.Ada.PackageSet
import GirAda.Ada.Property
import GirAda.Ada.Render
import GirAda.Ada.Resolve
import GirAda.Ada.Signature
import GirAda.Ada.Subprogram
import GirAda.Ada.TypeTable
import GirAda.Config.Basic
import GirAda.Config.OfText
import GirAda.Config.OfValue
import GirAda.Doc.Clean
import GirAda.Doc.Comment
import GirAda.Doc.Wrap
import GirAda.FileFault
import GirAda.Floating.Binary64
import GirAda.Floating.Shortest
import GirAda.Generator.Class
import GirAda.Generator.Run
import GirAda.Gir.Callable
import GirAda.Gir.Class
import GirAda.Gir.Index
import GirAda.Gir.LoadError
import GirAda.Gir.Repository
import GirAda.Gir.Shape
import GirAda.Json.Cursor
import GirAda.Json.Reader
import GirAda.Json.Token
import GirAda.Json.Value
import GirAda.Main
import GirAda.Override.Registry
import GirAda.Proofs.Index
import GirAda.Proofs.PackageSets
import GirAda.Proofs.Profiles
import GirAda.Proofs.Signatures
import GirAda.Proofs.Calls
import GirAda.Proofs.Wrappers
import GirAda.Proofs.Resolution
import GirAda.Proofs.Wrapping
import GirAda.Proofs.Sections
import GirAda.Proofs.Contribution
import GirAda.Proofs.Accounting
import GirAda.Proofs.Skipping
import GirAda.Proofs.Direction
import GirAda.Proofs.Elements
import GirAda.Proofs.Steps
import GirAda.Proofs.Loading
import GirAda.Proofs.Tree
import GirAda.Proofs.PropertyBindings
import GirAda.Proofs.WithClauses
import GirAda.Proofs.Spellings
import GirAda.Proofs.Initializers
import GirAda.Text.Blank
import GirAda.Text.Bytes
import GirAda.Text.Case
import GirAda.Text.Letter
import GirAda.Text.Lines
import GirAda.Text.Printable
import GirAda.Text.Replace
import GirAda.Workspace
import GirAda.Xml.Attribute
import GirAda.Xml.Element
import GirAda.Xml.Error
import GirAda.Xml.Escape
import GirAda.Xml.Fault
import GirAda.Xml.Name
import GirAda.Xml.Parse
import GirAda.Xml.Scope
import GirAda.Xml.Token
import GirAda.Proofs.Overrides
import GirAda.Proofs.Documentation
import GirAda.Proofs.Paragraphs
import GirAda.Proofs.Hygiene
