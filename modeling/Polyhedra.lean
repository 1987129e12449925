import Polyhedra.DenseMatrix.Elimination
import Polyhedra.Elimination.Indexed
import Polyhedra.Main
import Polyhedra.Proofs.Elimination.Agreement
import Polyhedra.Proofs.Enumeration.Points
import Polyhedra.Proofs.Enumeration.Cancellation
import Polyhedra.Proofs.Enumeration.Crosscheck
import Polyhedra.Proofs.Enumeration.Safety
import Polyhedra.Proofs.Enumeration.Sharding
import Polyhedra.Proofs.Listing.Lossless
import Polyhedra.Proofs.Verification.Exact
import Polyhedra.Proofs.Literal.RoundTrip
import Polyhedra.Proofs.Elimination.Scaled
import Polyhedra.Proofs.Elimination.Solving
import Polyhedra.Proofs.Extended.Finite
import Polyhedra.Proofs.Extended.Order
import Polyhedra.Proofs.Decimal.Finite
import Polyhedra.Proofs.Verification.Confirmation
import Polyhedra.Proofs.Dictionary.Signs
import Polyhedra.Proofs.Elimination.Columns
import Polyhedra.Proofs.Elimination.Triangular
import Polyhedra.Proofs.Partition.Faults
import Polyhedra.Proofs.Partition.Subsets
import Polyhedra.Proofs.Literal.Grammar
import Polyhedra.Proofs.Dictionary.Order
import Polyhedra.Proofs.Elimination.Residues
import Polyhedra.Proofs.Elimination.BackSubstitution
import Polyhedra.Proofs.DenseMatrix.Blocks
