import Mathlib.Algebra.Group.Defs
import Mathlib.Algebra.Group.Hom.Defs
import Mathlib.Algebra.Group.Int.Defs

/-!
# Integers of 64 bits

`Int64` is Go's `int` on platforms of 64 bits. Its addition wraps around, and is nevertheless
associative and commutative, so that sums do not depend on the order in which they are built. An
integer taken modulo `2 ^ 64` is `Int64.ofInt`, which goes through sums.
-/

namespace KedaHttp.Foundation

instance addCommMonoidInt64 : AddCommMonoid Int64 where
  add_assoc := Int64.add_assoc
  zero_add := Int64.zero_add
  add_zero := Int64.add_zero
  add_comm := Int64.add_comm
  nsmul := nsmulRec

/-- The integers modulo `2 ^ 64`. -/
def wrap64 : Int →+ Int64 where
  toFun := Int64.ofInt
  map_zero' := rfl
  map_add' := Int64.ofInt_add

end KedaHttp.Foundation
