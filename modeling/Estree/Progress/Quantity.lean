/-!
# Amounts of work

Work is measured in doubles at run time. What progress needs of them is collected in a class, so
that the rules of progress can also be read over exact numbers.
-/

namespace Estree.Progress

/-- Numbers that amounts of work are measured in. -/
class Quantity (α : Type) where
  /-- Nothing. -/
  zero : α
  /-- One unit. -/
  one : α
  /-- The sum. -/
  add : α → α → α
  /-- The product. -/
  mul : α → α → α
  /-- The quotient. -/
  div : α → α → α
  /-- Is this nothing? -/
  isZero : α → Bool
  /-- Is this more than nothing? -/
  isPositive : α → Bool
  /-- Is this more than nothing, and not infinitely much? -/
  isWeight : α → Bool
  /-- The nearest number from zero to one; what is no number stays as it is. -/
  clamp : α → α
  /-- A number of units. -/
  ofNat : Nat → α
  /-- The whole units of an amount. -/
  wholePart : α → Nat

open Quantity

/-- The sum of a list. -/
def total {α : Type} [Quantity α] (xs : List α) : α := xs.foldl add zero

instance : Quantity Float where
  zero := 0
  one := 1
  add := (· + ·)
  mul := (· * ·)
  div := (· / ·)
  isZero x := x == 0
  isPositive x := 0 < x
  isWeight x := x.isFinite && 0 < x
  clamp x := if x < 0 then 0 else if 1 < x then 1 else x
  ofNat := Float.ofNat
  wholePart x := x.toUInt64.toNat

end Estree.Progress
