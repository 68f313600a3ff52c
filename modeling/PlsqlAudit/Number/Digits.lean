/-!
# Whole numbers from digits

* `digitValue?` — the value of a digit, where letters of either case follow nine.
* `ofDigits?` — the number that one or more digits write in a base.
-/

namespace PlsqlAudit.Number

/-- The value of a digit. -/
def digitValue? (c : Char) : Option Nat :=
  if c.isDigit then some (c.toNat - '0'.toNat)
  else if 'a' ≤ c ∧ c ≤ 'z' then some (c.toNat - 'a'.toNat + 10)
  else if 'A' ≤ c ∧ c ≤ 'Z' then some (c.toNat - 'A'.toNat + 10)
  else none

/-- The number that the digits `ds` write in base `base`, behind digits that wrote `n`. -/
def addDigits? (base : Nat) (n : Nat) : List Char → Option Nat
  | [] => some n
  | d :: ds =>
    match digitValue? d with
    | none => none
    | some v => if v < base then addDigits? base (base * n + v) ds else none

/-- The number that one or more digits write in base `base`. -/
def ofDigits? (base : Nat) (ds : List Char) : Option Nat :=
  if ds.isEmpty then none else addDigits? base 0 ds

end PlsqlAudit.Number
