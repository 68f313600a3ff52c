import PlsqlAudit.Text.Blank

/-!
# Time to fix a finding

The estimated time to fix one finding is a whole number of minutes below `2 ^ 32`. It is written
in days, hours and minutes, where a day has eight working hours: `3d 1h 30min`.

* `Remediation.parse?` — reads words such as `5min`, `1h` or `2d`, in any order and any number, and
  adds them up. No number on the way may reach `2 ^ 32`: neither an amount, nor the minutes of a word,
  nor a sum. Such a text is refused, like any text that is not such words.
* `Remediation.display` — the one written form of a time: each unit at most once, largest first.
-/

namespace PlsqlAudit

/-- The least number of minutes that is too long. -/
def Remediation.limit : Nat := 4294967296

/-- The estimated time to fix one finding. -/
structure Remediation where
  minutes : Nat
  fits : minutes < Remediation.limit
  deriving DecidableEq

namespace Remediation

/-- No time at all. -/
def zero : Remediation := ⟨0, by decide⟩

instance : Inhabited Remediation := ⟨zero⟩

instance : Ord Remediation := ⟨fun a b => compare a.minutes b.minutes⟩

/-- The time of `n` minutes, if that is not too long. -/
def ofMinutes? (n : Nat) : Option Remediation :=
  if h : n < limit then some ⟨n, h⟩ else none

/-- The minutes in an hour. -/
def minutesPerHour : Nat := 60

/-- The minutes in a working day. -/
def minutesPerDay : Nat := 8 * minutesPerHour

/-- The minutes that one unit stands for. -/
def unitMinutes? : List Char → Option Nat
  | ['m', 'i', 'n'] => some 1
  | ['h'] => some minutesPerHour
  | ['d'] => some minutesPerDay
  | _ => none

/-- The number `n`, if it is not too large. -/
def within? (n : Nat) : Option Nat := if n < limit then some n else none

/-- The number that decimal digits write behind digits that wrote `n`. The reader gives up as soon as
it is too large. -/
def readDigits? (n : Nat) : List Char → Option Nat
  | [] => some n
  | d :: ds => (within? (10 * n + (d.toNat - '0'.toNat))).bind (readDigits? · ds)

/-- The minutes of one word: an amount in decimal digits and a unit right behind it. -/
def wordMinutes? (w : List Char) : Option Nat :=
  match w.span Char.isDigit with
  | ([], _) => none
  | (amount, unit) => do
    let n ← readDigits? 0 amount
    let factor ← unitMinutes? unit
    within? (n * factor)

/-- Adds the words to `total`, and gives up as soon as the sum is too long. -/
def addWords? (total : Nat) : List (List Char) → Option Nat
  | [] => some total
  | w :: ws => do
    let m ← wordMinutes? w
    let sum ← within? (total + m)
    addWords? sum ws

/-- The time that `text` writes: one or more words between blanks. -/
def parse? (text : String) : Option Remediation :=
  match Text.words text.toList with
  | [] => none
  | ws => (addWords? 0 ws).bind ofMinutes?

/-- The parts of the written form, largest unit first, without units that count nothing. -/
def parts (r : Remediation) : List String :=
  let days := r.minutes / minutesPerDay
  let hours := r.minutes % minutesPerDay / minutesPerHour
  let minutes := r.minutes % minutesPerHour
  (if days = 0 then [] else [s!"{days}d"]) ++
  (if hours = 0 then [] else [s!"{hours}h"]) ++
  (if minutes = 0 then [] else [s!"{minutes}min"])

/-- The written form; no time at all is `0min`. -/
def display (r : Remediation) : String :=
  match r.parts with
  | [] => "0min"
  | ps => " ".intercalate ps

/-- What is said of a text that writes no time. -/
def refusal (text : String) : String :=
  s!"invalid remediation duration '{text}': expected values such as '5min', '1h' or '1h 30min'"

end Remediation

end PlsqlAudit
