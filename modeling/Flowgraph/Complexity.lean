import Flowgraph.Binary64

/-!
# Complexity

The complexity of a workflow is a weighted sum of four counts. The sum is counted in halves; its
level is decided on the exact sum, its score is the sum as the 64-bit binary format gives it when
the terms are added one after the other.

Main result: `Complexity.score_eq_halves` says that the score is exact below 2⁵³ halves.
-/
namespace Flowgraph

/-- The counts that the complexity of a workflow is made of. -/
structure Complexity where
  nodes : Nat
  connections : Nat
  /-- The number of nodes on the longest chain. -/
  depth : Nat
  /-- The number of nodes whose class does not ship with the engine. -/
  custom : Nat
deriving DecidableEq, Repr

inductive ComplexityLevel
  | simple
  | moderate
  | complex
deriving DecidableEq, Repr

def ComplexityLevel.name : ComplexityLevel → String
  | simple => "simple"
  | moderate => "moderate"
  | complex => "complex"

namespace Complexity

/-- The weighted sum in halves: a node counts one, a connection a half, a step of depth two and a
custom node three. -/
def halves (c : Complexity) : Nat := 2 * c.nodes + c.connections + 4 * c.depth + 6 * c.custom

/-- The level of the weighted sum: moderate from 25 on, complex from 75 on. -/
def level (c : Complexity) : ComplexityLevel :=
  if 150 ≤ c.halves then .complex else if 50 ≤ c.halves then .moderate else .simple

/-- The weighted sum in halves, every term and every partial sum rounded to 53 binary digits. -/
def roundedHalves (c : Complexity) : Nat :=
  let r := Binary64.roundNat
  r (r (r (2 * r c.nodes + r c.connections) + 4 * r c.depth) + r (6 * r c.custom))

def score (c : Complexity) : Binary64 :=
  (Binary64.nearest? false c.roundedHalves 2).getD .zero

/-- The score with one decimal place. -/
def scoreText (c : Complexity) : String :=
  toString (c.roundedHalves / 2) ++ (if c.roundedHalves % 2 = 1 then ".5" else ".0")

theorem score_eq_halves {c : Complexity} (small : c.halves < 2 * Binary64.fractions) :
    c.roundedHalves = c.halves := by
  unfold halves at small
  have r {n : Nat} (bound : n < 2 * Binary64.fractions) : Binary64.roundNat n = n :=
    Binary64.roundNat_of_lt bound
  simp only [roundedHalves, halves]
  rw [r (n := c.nodes) (by omega), r (n := c.connections) (by omega), r (n := c.depth) (by omega),
    r (n := c.custom) (by omega), r (n := 2 * c.nodes + c.connections) (by omega),
    r (n := 2 * c.nodes + c.connections + 4 * c.depth) (by omega), r (n := 6 * c.custom) (by omega),
    r (by omega)]

end Complexity

end Flowgraph
