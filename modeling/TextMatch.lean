import TextMatch.Proofs.CaptureTrees
import TextMatch.Proofs.ContextIndependence
import TextMatch.Proofs.CursorLife
import TextMatch.Proofs.Failures
import TextMatch.Proofs.LiteralFinders
import TextMatch.Proofs.LiteralSets
import TextMatch.Proofs.SolidGhosts
import TextMatch.Proofs.UnrolledRepetitions
import TextMatch.Proofs.WholePairs
import TextMatch.Text.Quoted
import TextMatch.Proofs.RepetitionEnds
import TextMatch.Proofs.RepetitionBounds
import TextMatch.Proofs.PlainRepetitions
import TextMatch.Proofs.Derivations
import TextMatch.Proofs.OptionalLast
import TextMatch.Proofs.ReadingBack
import TextMatch.Proofs.SegmentTiling
import TextMatch.Proofs.CaseVariants
import TextMatch.Proofs.Assertions
import TextMatch.Proofs.CodePointTiling
import TextMatch.Proofs.FoldedTexts
import TextMatch.Proofs.JoinedTexts
import TextMatch.Proofs.ClassExpressions
import TextMatch.Proofs.CombinatorLaws
import TextMatch.Proofs.SpelledLiterals
import TextMatch.Proofs.LooksBehind
import TextMatch.Proofs.CategorySets
import TextMatch.Proofs.Descendants
