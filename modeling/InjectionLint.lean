import InjectionLint.CommandLine.Run
import InjectionLint.Main
import InjectionLint.Snapshot
import InjectionLint.Proofs.Config.Sources
import InjectionLint.Proofs.Config.Validation
import InjectionLint.Proofs.Expression.Segments
import InjectionLint.Proofs.Expression.Spelling
import InjectionLint.Proofs.Files.Admission
import InjectionLint.Proofs.Files.Descent
import InjectionLint.Proofs.Files.Exclusion
import InjectionLint.Proofs.Files.Parent
import InjectionLint.Proofs.Files.Ways
import InjectionLint.Proofs.Parse.Verdict
import InjectionLint.Proofs.Report.Caret
import InjectionLint.Proofs.Report.Layout
import InjectionLint.Proofs.Report.Padding
import InjectionLint.Proofs.Rule.Alike
import InjectionLint.Proofs.Rule.Argument
import InjectionLint.Proofs.Rule.Comments
import InjectionLint.Proofs.Rule.Confinement
import InjectionLint.Proofs.Rule.Detection
import InjectionLint.Proofs.Rule.InjectionPoint
import InjectionLint.Proofs.Rule.Interpolation
import InjectionLint.Proofs.Rule.Operand
import InjectionLint.Proofs.Rule.Parentheses
import InjectionLint.Proofs.Rule.Reading
import InjectionLint.Proofs.Rule.Renaming
import InjectionLint.Proofs.Rule.Replacement
import InjectionLint.Proofs.Rule.Summation
import InjectionLint.Proofs.Scan.Stream
import InjectionLint.Proofs.Scope.BindingPosition
import InjectionLint.Proofs.Scope.Chain
import InjectionLint.Proofs.Scope.Hoisting
import InjectionLint.Proofs.Scope.Initialiser
import InjectionLint.Proofs.Scope.OwnName
import InjectionLint.Proofs.Scope.Ownership
import InjectionLint.Proofs.Source.LineBreaks
import InjectionLint.Proofs.Text.Boundary
import InjectionLint.Proofs.Text.Cut
import InjectionLint.Proofs.Tree.Address
import InjectionLint.Proofs.Tree.Context
