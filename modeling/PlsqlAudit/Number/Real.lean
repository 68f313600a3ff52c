import PlsqlAudit.Number.Digits

/-!
# Numbers with a point or a power of ten

`parseReal?` reads a decimal such as `-1.5e3` as the nearest 64-bit binary number. Digits may be
missing before or behind the point, but not on both sides. A decimal that is too large for a finite
number is not read.
-/

namespace PlsqlAudit.Number

/-- A decimal without its sign: the digits before and behind the point, and the power of ten. -/
structure Literal where
  whole : List Char
  fraction : List Char
  exponent : Int

/-- Reads a power of ten: an `e`, a sign if there is one, and digits. -/
def readExponent? : List Char → Option Int
  | [] => some 0
  | e :: cs =>
    if e = 'e' || e = 'E' then
      match cs with
      | '-' :: ds => (ofDigits? 10 ds).map fun n => -(n : Int)
      | '+' :: ds => (ofDigits? 10 ds).map fun n => (n : Int)
      | ds => (ofDigits? 10 ds).map fun n => (n : Int)
    else none

/-- Reads a decimal without a sign. -/
def readLiteral? (cs : List Char) : Option Literal :=
  let whole := cs.takeWhile Char.isDigit
  let rest := cs.dropWhile Char.isDigit
  let (fraction, rest) :=
    match rest with
    | '.' :: rest => (rest.takeWhile Char.isDigit, rest.dropWhile Char.isDigit)
    | _ => ([], rest)
  if whole.isEmpty && fraction.isEmpty then none
  else (readExponent? rest).map fun exponent => ⟨whole, fraction, exponent⟩

/-- The nearest 64-bit number, none if the decimal is too large. Powers of ten far outside the range
of such numbers are not computed. -/
def Literal.toFloat? (l : Literal) : Option Float :=
  let digits := (l.whole ++ l.fraction).dropWhile (· = '0')
  let mantissa := (addDigits? 10 0 digits).getD 0
  let exponent := l.exponent - l.fraction.length
  let top := exponent + digits.length
  if mantissa = 0 then some 0
  else if 400 < top then none
  else if top < -400 then some 0
  else
    let x := if exponent < 0 then Float.ofScientific mantissa true (-exponent).toNat
      else Float.ofScientific mantissa false exponent.toNat
    if x.isFinite then some x else none

/-- Reads a decimal with a minus sign or none. -/
def parseReal? : List Char → Option Float
  | '-' :: cs => ((readLiteral? cs).bind Literal.toFloat?).map fun x => -x
  | cs => (readLiteral? cs).bind Literal.toFloat?

end PlsqlAudit.Number
