import JavaLint.Lint.Describe
import JavaLint.Main
import JavaLint.Proofs.Accounting
import JavaLint.Proofs.Annotations
import JavaLint.Proofs.ConfiguredRules
import JavaLint.Proofs.Independence
import JavaLint.Proofs.LineStarts
import JavaLint.Proofs.Overlays
import JavaLint.Proofs.Safety
import JavaLint.Proofs.Walker
import JavaLint.Proofs.Columns
import JavaLint.Proofs.PositionOrder
import JavaLint.Proofs.Tiling
import JavaLint.Proofs.Apart
import JavaLint.Proofs.RepeatedProperties
import JavaLint.Proofs.AdjacentRepeats
import JavaLint.Proofs.ConfiguredLinter
import JavaLint.Proofs.AnnotatedClauses
import JavaLint.Proofs.Outlines
import JavaLint.Proofs.Points
import JavaLint.Proofs.Collecting
