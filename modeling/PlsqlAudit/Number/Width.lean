/-!
# Limits of machine numbers

Numbers in data files have to fit a word. Those that do not are told apart by the width they would
need.
-/

namespace PlsqlAudit.Number

/-- One more than the largest number of 64 bits. -/
def wordLimit : Nat := 18446744073709551616

/-- One more than the largest number of 63 bits and a sign. -/
def signedWordLimit : Nat := 9223372036854775808

/-- One more than the largest number of 128 bits. -/
def doubleWordLimit : Nat := 340282366920938463463374607431768211456

/-- One more than the largest number of 127 bits and a sign. -/
def signedDoubleWordLimit : Nat := 170141183460469231731687303715884105728

end PlsqlAudit.Number
