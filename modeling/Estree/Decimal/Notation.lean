import Estree.Decimal.Shortest

/-!
# How a double is written

A double is written with the fewest digits that read back, in positional notation where that is
short and with an exponent otherwise.
-/

namespace Estree.Decimal

/-- The choices a number format leaves open. -/
structure Format where
  /-- Least decimal exponent written in positional notation. -/
  positionalFrom : Int
  /-- First decimal exponent that is too large for positional notation. -/
  positionalBelow : Int

/-- JSON texts write `0.00001` up to `1000000000000000.0` in positional notation. -/
def Format.json : Format := ⟨-5, 16⟩

/-- Write `0` `n` times. -/
def zeros (n : Nat) : String := String.ofList (List.replicate n '0')

/-- Drop the zeros at the end of a number that is not zero. -/
def Scientific.trim (s : Scientific) : Nat → Scientific
  | 0 => s
  | n + 1 => if s.digits % 10 = 0 then trim ⟨s.digits / 10, s.exponent + 1⟩ n else s

/-- Write a positive decimal: at least one digit stands after the point in positional notation, none
after a single digit in front of an exponent. -/
def Format.render (f : Format) (s : Scientific) : String :=
  let s := s.trim 20
  let digits := Nat.toDigits 10 s.digits
  let count := digits.length
  let e := s.exponent + count - 1
  if f.positionalFrom ≤ e ∧ e < f.positionalBelow then
    if 0 ≤ s.exponent then String.ofList digits ++ zeros s.exponent.toNat ++ ".0"
    else if 0 ≤ e then
      let whole := (e + 1).toNat
      String.ofList (digits.take whole) ++ "." ++ String.ofList (digits.drop whole)
    else "0." ++ zeros (-e - 1).toNat ++ String.ofList digits
  else
    let fraction := if count = 1 then "" else "." ++ String.ofList (digits.drop 1)
    let sign := if e < 0 then "-" else "+"
    String.ofList (digits.take 1) ++ fraction ++ "e" ++ sign ++ toString e.natAbs

/-- The text of a finite double; a negative zero keeps its sign. -/
def Format.renderFloat (f : Format) (x : Float) : String :=
  let bits := x.toBits
  let magnitude := bits &&& 0x7fffffffffffffff
  let sign := if bits = magnitude then "" else "-"
  sign ++ if magnitude = 0 then "0.0" else f.render (Binary.ofBits magnitude).shortest

end Estree.Decimal
