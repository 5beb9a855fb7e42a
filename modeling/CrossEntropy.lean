import CrossEntropy.Main
import CrossEntropy.Proofs.LossReference
import CrossEntropy.Proofs.ChainRule
import CrossEntropy.Proofs.Simplex
import CrossEntropy.Proofs.Shift
import CrossEntropy.Proofs.ZeroSum
import CrossEntropy.Proofs.Ignored
import CrossEntropy.Proofs.Weightless
import CrossEntropy.Proofs.Separation
import CrossEntropy.Proofs.Refusal
import CrossEntropy.Proofs.CountedPixels
import CrossEntropy.Proofs.Indexed.Check
import CrossEntropy.Proofs.Check.Passes
import CrossEntropy.Proofs.Check.Comparison
import CrossEntropy.Proofs.Check.Accepted
import CrossEntropy.Proofs.Random.SoftLabels
import CrossEntropy.Proofs.Suite.Generated
import CrossEntropy.Proofs.Suite.Independence
import CrossEntropy.Proofs.Suite.Loosening
import CrossEntropy.Proofs.Replay
import CrossEntropy.Proofs.Check.Gradients
import CrossEntropy.Proofs.LossSums
import CrossEntropy.Proofs.Rearrangement
import CrossEntropy.Proofs.Proportions
import CrossEntropy.Proofs.OneHot
import CrossEntropy.Proofs.Batch
import CrossEntropy.Proofs.Oblivious
import CrossEntropy.Proofs.LossBounds
import CrossEntropy.Proofs.CommandLine
import CrossEntropy.Proofs.Archive.Arrangement
import CrossEntropy.Proofs.Flattening
