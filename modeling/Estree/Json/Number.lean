import Estree.Json.Value
import Estree.Json.Fault

/-!
# Numbers in JSON texts

A number without fraction and exponent that fits 64 bits stays whole. Any other number becomes a
double in two steps: its digits are collected into a 64-bit significand, digits that no longer fit
being dropped, and the significand is then multiplied or divided by a power of ten. The result is
not always the double nearest to what was written.
-/

namespace Estree.Json

/-- The value of a decimal digit. -/
def digitValue (c : Char) : Nat := c.toNat - '0'.toNat

/-- Append digits to `n` as long as the result is at most `limit`; gives the number and the digits
that were left over. -/
def absorb (limit n : Nat) : List Char → Nat × List Char
  | [] => (n, [])
  | d :: rest =>
    let next := n * 10 + digitValue d
    if limit < next then (n, d :: rest) else absorb limit next rest

/-- The largest significand. -/
def significandLimit : Nat := 1 <<< 64 - 1

/-- The largest exponent that is read. -/
def exponentLimit : Nat := 1 <<< 31 - 1

/-- The double nearest to `10 ^ n`. -/
def powerOfTen (n : Nat) : Float := Float.ofScientific 1 false n

/-- Divide by `10 ^ n`, by `10 ^ 308` at a time. -/
def divideByPowerOfTen (x : Float) (n : Nat) : Float :=
  if n ≤ 308 then x / powerOfTen n
  else if x == 0 then x
  else divideByPowerOfTen (x / powerOfTen 308) (n - 308)
termination_by n

/-- `significand · 10 ^ exponent` as a double; `none` when that is beyond the range of doubles. -/
def scaleSignificand? (significand : Nat) (exponent : Int) : Option Float :=
  let x := (UInt64.ofNat significand).toFloat
  if exponent < 0 then some (divideByPowerOfTen x exponent.natAbs)
  else if exponent ≤ 308 then
    let y := x * powerOfTen exponent.toNat
    if y.isInf then none else some y
  else if x == 0 then some x
  else none

/-- A number as it is written, taken apart. -/
structure NumberParts where
  /-- Is there a minus sign? -/
  negative : Bool
  /-- The digits in front of the point. -/
  whole : List Char
  /-- The digits after the point, if there is one. -/
  fraction : Option (List Char)
  /-- Is the exponent negative, and its digits, if there is one. -/
  exponent : Option (Bool × List Char)

/-- The sign of a number put on a double. -/
def withSign (negative : Bool) (x : Float) : Float := if negative then -x else x

/-- The value of a number, or `none` if it is beyond the range of doubles. The exponent is taken as
already read; `shift` is its value. -/
def NumberParts.value? (p : NumberParts) (shift : Int) : Option Value :=
  let (n, dropped) := absorb significandLimit 0 p.whole
  if dropped.isEmpty && p.fraction.isNone && p.exponent.isNone then
    if !p.negative then some (.int n)
    else if 0 < n && n ≤ 1 <<< 63 then some (.int (-(n : Int)))
    else some (.float (-(UInt64.ofNat n).toFloat))
  else
    let fraction := p.fraction.getD []
    let (significand, ignored) := absorb significandLimit n fraction
    let places := fraction.length - ignored.length
    let exponent := Int.ofNat dropped.length - Int.ofNat places + shift
    (scaleSignificand? significand exponent).map fun x => .float (withSign p.negative x)

/-- Is the significand zero? Then no exponent is too large. -/
def NumberParts.isZero (p : NumberParts) : Bool :=
  let (n, _) := absorb significandLimit 0 p.whole
  (absorb significandLimit n (p.fraction.getD [])).1 = 0

/-- The digits at the front of a text, and what follows them. -/
def spanDigits (cs : List Char) : List Char × List Char :=
  (cs.takeWhile Char.isDigit, cs.dropWhile Char.isDigit)

/-- The exponent at the front of a text, with the number of characters it takes: whether it is
negative and its digits. The letter in front needs a digit after it, behind a sign at most. -/
def readExponent (cs : List Char) : Except Fault (Option (Bool × List Char) × Nat) :=
  match cs with
  | [] => .ok (none, 0)
  | c :: rest =>
    if c = 'e' ∨ c = 'E' then
      let (negative, signWidth, rest) :=
        match rest with
        | '+' :: rest => (false, 1, rest)
        | '-' :: rest => (true, 1, rest)
        | rest => (false, 0, rest)
      match spanDigits rest with
      | ([], []) => .error ⟨.eofValue, 1 + signWidth⟩
      | ([], _ :: _) => .error ⟨.invalidNumber, 2 + signWidth⟩
      | (digits, _) => .ok (some (negative, digits), 1 + signWidth + digits.length)
    else .ok (none, 0)

/-- The fraction at the front of a text, with the number of characters it takes. A point needs a
digit after it. -/
def readFraction (cs : List Char) : Except Fault (Option (List Char) × Nat) :=
  match cs with
  | '.' :: rest =>
    match spanDigits rest with
    | ([], []) => .error ⟨.eofValue, 1⟩
    | ([], _ :: _) => .error ⟨.invalidNumber, 2⟩
    | (digits, _) => .ok (some digits, 1 + digits.length)
  | _ => .ok (none, 0)

/-- Move a fault that was counted from a later place back to the start. -/
def shiftFault {α : Type} (n : Nat) : Except Fault α → Except Fault α
  | .error f => .error ⟨f.reason, n + f.offset⟩
  | .ok a => .ok a

/-- The number at the front of a text that starts with a digit or a minus sign, with the number of
characters it takes. -/
def readNumber (cs : List Char) : Except Fault (Value × Nat) := do
  let (negative, signWidth, cs) :=
    match cs with
    | '-' :: rest => (true, 1, rest)
    | cs => (false, 0, cs)
  let (whole, rest) := spanDigits cs
  match whole, rest with
  | [], [] => throw ⟨.eofValue, signWidth⟩
  | [], _ :: _ => throw ⟨.invalidNumber, signWidth + 1⟩
  | '0' :: _ :: _, _ => throw ⟨.invalidNumber, signWidth + 2⟩
  | _, _ => pure ()
  let width := signWidth + whole.length
  let (fraction, fractionWidth) ← shiftFault width (readFraction rest)
  let rest := rest.drop fractionWidth
  let width := width + fractionWidth
  let (exponent, exponentWidth) ← shiftFault width (readExponent rest)
  let parts : NumberParts := ⟨negative, whole, fraction, exponent⟩
  let fullWidth := width + exponentWidth
  match exponent with
  | some (down, digits) =>
    let (e, unread) := absorb exponentLimit 0 digits
    if unread.isEmpty then
      match parts.value? (if down then -(e : Int) else e) with
      | some v => pure (v, fullWidth)
      | none => throw ⟨.numberOutOfRange, fullWidth⟩
    else if parts.isZero || down then pure (.float (withSign negative 0), fullWidth)
    else throw ⟨.numberOutOfRange, fullWidth - unread.length + 1⟩
  | none =>
    match parts.value? 0 with
    | some v => pure (v, fullWidth)
    | none => throw ⟨.numberOutOfRange, fullWidth⟩

end Estree.Json
