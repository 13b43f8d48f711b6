import PageCompiler.Component.Loading
import PageCompiler.Main
import PageCompiler.Proofs.Brackets.WellBracketed
import PageCompiler.Proofs.Collection.Idempotence
import PageCompiler.Proofs.Collection.OrderIndependence
import PageCompiler.Proofs.Constants.Writing
import PageCompiler.Proofs.Dangling
import PageCompiler.Proofs.DerivedCycles
import PageCompiler.Proofs.DocumentChecks
import PageCompiler.Proofs.DocumentIndex
import PageCompiler.Proofs.Editor.EditorMode
import PageCompiler.Proofs.Editor.Markers
import PageCompiler.Proofs.Imports.Header
import PageCompiler.Proofs.MemberExpressions
import PageCompiler.Proofs.NestedScopes
import PageCompiler.Proofs.Noninterference
import PageCompiler.Proofs.Precedence
import PageCompiler.Proofs.Relayout
import PageCompiler.Proofs.SharedCells
import PageCompiler.Proofs.Templates.Denotation
import PageCompiler.Service
