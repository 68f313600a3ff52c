/-!
# Shortest decimal text of binary numbers

Among the decimals that are rounded to a given 64-bit binary number, the one with the fewest digits,
and of these the nearest, stands for the number in messages. If two are equally near, the format
decides (`Tie`).

* `Parts.ofFloat` — sign, significand and binary exponent of a finite number.
* `Parts.shortest` — the decimal, found by trying grids of one to seventeen digits.
* `Decimal.positional`, `Decimal.compact` — two ways to write a decimal, each with at least one digit
  after the point; the second goes over to a power of ten for very large and very small numbers.
-/

namespace PlsqlAudit.Number

/-- The decimal `digits * 10 ^ exponent`. -/
structure Decimal where
  digits : Nat
  exponent : Int
  deriving DecidableEq, Repr

/-- The number `significand * 2 ^ exponent`, or its negative. -/
structure Parts where
  negative : Bool
  significand : Nat
  exponent : Int
  deriving DecidableEq, Repr

/-- Which of two equally near neighbours is taken. -/
inductive Tie where
  /-- The one above. -/
  | up
  /-- The one with an even last digit. -/
  | even
  deriving DecidableEq, Repr

namespace Parts

/-- The leading bit of a significand, which is not stored: `2 ^ 52`. -/
def hiddenBit : Nat := 4503599627370496

/-- The parts of a finite number. -/
def ofFloat (x : Float) : Parts :=
  let bits := x.toBits.toNat
  let field : Nat := bits / hiddenBit % 2048
  let fraction := bits % hiddenBit
  { negative := bits / hiddenBit / 2048 == 1
    significand := if field = 0 then fraction else fraction + hiddenBit
    exponent := if field = 0 then -1074 else (field : Int) - 1075 }

/-- Two numbers `a * 2 ^ e` and `b * 10 ^ k`, brought to whole numbers in the same proportion. -/
def toWhole (a : Nat) (e : Int) (b : Nat) (k : Int) : Nat × Nat :=
  (a * Nat.pow 2 e.toNat * Nat.pow 10 (-k).toNat, b * Nat.pow 10 k.toNat * Nat.pow 2 (-e).toNat)

/-- Whether `b * 10 ^ k` is rounded to the number. Halfway cases go to the even significand, and the
gap below a power of two is half as wide as the one above it. -/
def roundsTo (p : Parts) (b : Nat) (k : Int) : Bool :=
  let narrow := p.significand = hiddenBit ∧ -1074 < p.exponent
  let low := toWhole (4 * p.significand - if narrow then 1 else 2) (p.exponent - 2) b k
  let high := toWhole (4 * p.significand + 2) (p.exponent - 2) b k
  if p.significand % 2 = 0 then low.1 ≤ low.2 && high.2 ≤ high.1
  else low.1 < low.2 && high.2 < high.1

/-- The number on the grid of multiples of `10 ^ k`, rounded down. -/
def floorOn (p : Parts) (k : Int) : Nat :=
  let w := toWhole p.significand p.exponent 1 k
  w.1 / w.2

/-- Whether the multiple of `10 ^ k` below the number is taken rather than the one above it. -/
def takesBelow (p : Parts) (tie : Tie) (k : Int) : Bool :=
  let w := toWhole p.significand p.exponent 1 k
  let rest := 2 * (w.1 % w.2)
  rest < w.2 || (rest = w.2 && tie = .even && w.1 / w.2 % 2 = 0)

/-- The best multiple of `10 ^ k` that is rounded to the number, if there is one. -/
def onGrid? (p : Parts) (tie : Tie) (k : Int) : Option Decimal :=
  let below := p.floorOn k
  match p.roundsTo below k, p.roundsTo (below + 1) k with
  | true, true => some ⟨if p.takesBelow tie k then below else below + 1, k⟩
  | true, false => some ⟨below, k⟩
  | false, true => some ⟨below + 1, k⟩
  | false, false => none

/-- The power of ten of the first digit: the largest `k` for which `10 ^ k` is not above the
number. -/
def magnitude (p : Parts) : Int :=
  let candidates := (List.range 634).map fun (i : Nat) => (309 : Int) - i
  (candidates.find? fun k => 0 < p.floorOn k).getD (-324)

/-- The shortest decimal that is rounded to the number. -/
def shortest (p : Parts) (tie : Tie) : Decimal :=
  if p.significand = 0 then ⟨0, 0⟩
  else
    let top := p.magnitude
    ((List.range 18).findSome? fun (n : Nat) => p.onGrid? tie (top - n)).getD ⟨0, 0⟩

end Parts

namespace Decimal

/-- The decimal without zeros at the end of its digits. -/
def trimmed (d : Decimal) : Decimal :=
  let text := (toString d.digits).toList
  let zeros := (text.reverse.takeWhile (· = '0')).length
  if d.digits = 0 then ⟨0, 0⟩ else ⟨d.digits / Nat.pow 10 zeros, d.exponent + zeros⟩

/-- The decimal written out place by place. -/
def positional (d : Decimal) : String :=
  let d := d.trimmed
  let text := toString d.digits
  let point : Int := text.length + d.exponent
  if 0 ≤ d.exponent then text ++ "".pushn '0' d.exponent.toNat ++ ".0"
  else if 0 < point then
    String.ofList (text.toList.take point.toNat) ++ "." ++ String.ofList (text.toList.drop point.toNat)
  else "0." ++ "".pushn '0' (-point).toNat ++ text

/-- The decimal written out place by place if its point stands from five places before the first
digit to sixteen places behind it, and with a power of ten, which has a sign, otherwise. -/
def compact (d : Decimal) : String :=
  let d := d.trimmed
  let text := toString d.digits
  let point : Int := text.length + d.exponent
  if d.digits = 0 ∨ (-5 < point ∧ point ≤ 16) then d.positional
  else
    let first := String.ofList (text.toList.take 1)
    let rest := String.ofList (text.toList.drop 1)
    let mantissa := if rest.isEmpty then first else first ++ "." ++ rest
    let sign := if point < 1 then "" else "+"
    s!"{mantissa}e{sign}{point - 1}"

end Decimal

/-- The text of a number, where `write` gives that of a positive decimal. -/
def text (tie : Tie) (write : Decimal → String) (x : Float) : String :=
  if x.isNaN then "NaN"
  else
    let p := Parts.ofFloat x
    let sign := if p.negative then "-" else ""
    if x.isInf then s!"{sign}inf" else sign ++ write (p.shortest tie)

end PlsqlAudit.Number
