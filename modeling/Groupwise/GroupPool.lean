/-!
# Scratch groups

Lowering a filter borrows groups that hold documents for a while. A group that is given back is the
next to be lent, so that the number of groups grows with the nesting of filters and not with their
number. Groups are counted in words of 32 bits: after the greatest one the count goes on at zero.
-/
namespace Groupwise

structure GroupPool where
  /-- The group to be lent when there is none that was given back. -/
  next : UInt32
  /-- The groups given back, the latest first. -/
  released : List Nat := []
  outstanding : Nat := 0
  highWater : Nat
  deriving Repr, DecidableEq, Inhabited

namespace GroupPool

/-- A pool whose groups start at `first`, which is a word. -/
def startingAt (first : Nat) : GroupPool := { next := .ofNat first, highWater := first - 1 }

def acquire (pool : GroupPool) : Nat × GroupPool :=
  match pool.released with
  | group :: rest => (group, { pool with released := rest, outstanding := pool.outstanding + 1 })
  | [] =>
    (pool.next.toNat,
      { pool with
        next := pool.next + 1
        outstanding := pool.outstanding + 1
        highWater := max pool.highWater pool.next.toNat })

def release (pool : GroupPool) (group : Nat) : GroupPool :=
  { pool with released := group :: pool.released, outstanding := pool.outstanding - 1 }

end GroupPool

end Groupwise
