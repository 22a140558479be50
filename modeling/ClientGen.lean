import ClientGen.Main
import ClientGen.Proofs.Command.Admission
import ClientGen.Proofs.Command.Independence
import ClientGen.Proofs.Command.Overrides
import ClientGen.Proofs.Command.Repetition
import ClientGen.Proofs.Command.Verdicts
import ClientGen.Proofs.Model.Check
import ClientGen.Proofs.Model.Loading
import ClientGen.Proofs.Model.Paths
import ClientGen.Proofs.Naming.Comments
import ClientGen.Proofs.Naming.NormalForms
import ClientGen.Proofs.Naming.PackageNames
import ClientGen.Proofs.Naming.Packages
import ClientGen.Proofs.Naming.SnakeCase
import ClientGen.Proofs.Target.AdditionalFiles
import ClientGen.Proofs.Target.Catalogs
import ClientGen.Proofs.Target.ClassNames
import ClientGen.Proofs.Target.Dart.Declarations
import ClientGen.Proofs.Target.Dart.Descriptions
import ClientGen.Proofs.Target.EnumValues
import ClientGen.Proofs.Target.Go.Captures
import ClientGen.Proofs.Target.Go.PackageClauses
import ClientGen.Proofs.Target.Header
import ClientGen.Proofs.Target.Manifests
import ClientGen.Proofs.Target.Layouts
import ClientGen.Proofs.Target.Members
import ClientGen.Proofs.Target.Parameters
import ClientGen.Proofs.Target.Places
import ClientGen.Proofs.Target.Python.Documentation
import ClientGen.Proofs.Target.Symbols
import ClientGen.Proofs.Target.WireNames
import ClientGen.Proofs.Template.Literal
