/-
**Arithmetic on doubles.**

Sums, differences and products are the exact ones, rounded once; integers enter through
`Double.ofInt`, which is infinite where no finite double is near enough.
-/

import BlockData.Double.Rounding

namespace BlockData.Double

/-- The double nearest to an integer. -/
def ofInt (n : Int) : Double :=
  nearest (n < 0) (n.natAbs * unitsPerOne) 1

/-- The sum; opposite infinities have none, and a zero sum is negative only if both terms are. -/
def add : Double → Double → Double
  | .nan, _ => .nan
  | _, .nan => .nan
  | .infinite first, .infinite second => if first = second then .infinite first else .nan
  | .infinite first, .finite _ _ _ => .infinite first
  | .finite _ _ _, .infinite second => .infinite second
  | .finite first firstRank _, .finite second secondRank _ =>
    let total := signed first (magnitudeUnits firstRank) + signed second (magnitudeUnits secondRank)
    nearest (if total = 0 then first && second else total < 0) total.natAbs 1

/-- The difference. -/
def sub (x y : Double) : Double :=
  x.add y.negate

/-- The product; zero times infinity is NaN. -/
def mul : Double → Double → Double
  | .nan, _ => .nan
  | _, .nan => .nan
  | .infinite first, .infinite second => .infinite (first != second)
  | .infinite first, .finite second rank _ =>
    if rank = 0 then .nan else .infinite (first != second)
  | .finite first rank _, .infinite second =>
    if rank = 0 then .nan else .infinite (first != second)
  | .finite first firstRank _, .finite second secondRank _ =>
    nearest (first != second) (magnitudeUnits firstRank * magnitudeUnits secondRank) unitsPerOne

end BlockData.Double
