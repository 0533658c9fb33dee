import ModelFleet.Text.Blank
import ModelFleet.Time.Calendar
import ModelFleet.Time.Instant

/-!
# Timestamps in text

Timestamps of the profile RFC 3339.  They are written in universal time with a `Z`, and with three,
six or nine digits of the second where they are needed.  Reading is more liberal: blanks may stand
between the parts, a blank may stand for the `T`, and the zone may be `UTC`, `Z` or an offset whose
minutes follow a colon or blanks.
-/

namespace ModelFleet

/-- A point in time in seconds since 1970 with nanoseconds; a leap second has a thousand million of
them or more. -/
structure Stamp where
  seconds : Int
  nanos : Nat
  deriving DecidableEq

inductive StampError
  | outOfRange
  | impossible
  | invalid
  | tooShort
  | tooLong
  deriving DecidableEq

def StampError.message : StampError → String
  | .outOfRange => "input is out of range"
  | .impossible => "no possible date and time matching input"
  | .invalid => "input contains invalid characters"
  | .tooShort => "premature end of input"
  | .tooLong => "trailing input"

namespace Stamp

def ofInstant (t : Instant) : Stamp :=
  ⟨t.nanos / 1000000000, (t.nanos % 1000000000).toNat⟩

/-! ### Writing -/

def padLeft (width n : Nat) : String :=
  let digits := toString n
  String.ofList (List.replicate (width - digits.length) '0') ++ digits

/-- The year; with a sign unless it has four digits. -/
def yearText (year : Int) : String :=
  if 0 ≤ year ∧ year ≤ 9999 then padLeft 4 year.toNat
  else (if year < 0 then "-" else "+") ++ padLeft 4 year.natAbs

/-- The part of a second: none, three, six or nine digits. -/
def fractionText (nanos : Nat) : String :=
  if nanos = 0 then ""
  else if nanos % 1000000 = 0 then "." ++ padLeft 3 (nanos / 1000000)
  else if nanos % 1000 = 0 then "." ++ padLeft 6 (nanos / 1000)
  else "." ++ padLeft 9 nanos

def toString (s : Stamp) : String :=
  let date := Calendar.Date.ofDays (s.seconds / 86400)
  let time := (s.seconds % 86400).toNat
  let leap := s.nanos / 1000000000
  yearText date.year ++ "-" ++ padLeft 2 date.month ++ "-" ++ padLeft 2 date.day ++ "T"
    ++ padLeft 2 (time / 3600) ++ ":" ++ padLeft 2 (time / 60 % 60) ++ ":"
    ++ padLeft 2 (time % 60 + leap) ++ fractionText (s.nanos % 1000000000) ++ "Z"

/-! ### Reading -/

abbrev Reads (α : Type) := List Char → Except StampError (α × List Char)

/-- A number of at most `width` digits that fits into 63 bits. -/
def readNumber (width : Nat) : Reads Nat := fun cs =>
  match cs with
  | [] => .error .tooShort
  | c :: _ =>
    if !c.isDigit then .error .invalid
    else
      let digits := (cs.take width).takeWhile Char.isDigit
      let n := digits.foldl (fun n c => 10 * n + (c.toNat - 48)) 0
      if 2 ^ 63 ≤ n then .error .outOfRange else .ok (n, cs.drop digits.length)

/-- A number in a range, with blanks in front. -/
def readField (width lo hi : Nat) : Reads Nat := fun cs => do
  let (n, cs) ← readNumber width (cs.dropWhile isBlank)
  if lo ≤ n ∧ n ≤ hi then return (n, cs) else throw .outOfRange

/-- A year: four digits, or as many as follow a sign. -/
def readYear : Reads Int := fun cs => do
  let cs := cs.dropWhile isBlank
  let (year, cs) ← match cs with
    | '-' :: rest => (readNumber rest.length rest).map fun (n, rest) => (-(n : Int), rest)
    | '+' :: rest => (readNumber rest.length rest).map fun (n, rest) => ((n : Int), rest)
    | cs => (readNumber 4 cs).map fun (n, rest) => ((n : Int), rest)
  if -(2 ^ 31) ≤ year ∧ year < 2 ^ 31 then return (year, cs) else throw .outOfRange

def readMark (mark : Char) (cs : List Char) : Except StampError (List Char) :=
  match cs.dropWhile isBlank with
  | [] => .error .tooShort
  | c :: rest => if c = mark then .ok rest else .error .invalid

/-- The part of a second in nanoseconds; digits after the ninth are dropped. -/
def readFraction : Reads Nat := fun cs =>
  match cs with
  | '.' :: rest => do
    let (n, left) ← readNumber 9 rest
    let digits := rest.length - left.length
    return (n * 10 ^ (9 - digits), left.dropWhile Char.isDigit)
  | cs => .ok (0, cs)

/-- Two digits, the first of which is below a bound. -/
def readPair (tens : Nat) : Reads Nat
  | a :: b :: rest =>
    if a.isDigit ∧ b.isDigit then
      if a.toNat - 48 < tens then .ok (10 * (a.toNat - 48) + (b.toNat - 48), rest)
      else .error .outOfRange
    else .error .invalid
  | _ => .error .tooShort

/-- Minutes of an offset: text that is too short for them is refused, as is a lone character of
more than one byte. -/
def readMinutes : Reads Nat := fun cs =>
  match cs with
  | [c] => if 1 < c.utf8Size then .error .invalid else .error .tooShort
  | cs => readPair 6 cs

def readOffset (sign : Int) : Reads Int := fun cs => do
  let (hours, cs) ← readPair 10 cs
  let (minutes, cs) ← readMinutes (cs.dropWhile fun c => c = ':' || isBlank c)
  return (sign * (hours * 3600 + minutes * 60), cs)

def readZone : Reads Int := fun cs =>
  let cs := cs.dropWhile isBlank
  if (cs.take 3).map Char.toUpper = ['U', 'T', 'C'] then .ok (0, cs.drop 3)
  else match cs with
    | [] => .error .tooShort
    | c :: rest =>
      if c = 'Z' ∨ c = 'z' then .ok (0, rest)
      else if c = '+' then readOffset 1 rest
      else if c = '-' ∨ c = '−' then readOffset (-1) rest
      else .error .invalid

def readTimeMark (cs : List Char) : Except StampError (List Char) :=
  match cs with
  | [] => .error .tooShort
  | c :: rest => if c = 't' ∨ c = 'T' ∨ c = ' ' then .ok rest else .error .invalid

def parse (s : String) : Except StampError Stamp := do
  let (year, cs) ← readYear s.toList
  let (month, cs) ← readField 2 1 12 (← readMark '-' cs)
  let (day, cs) ← readField 2 1 31 (← readMark '-' cs)
  let (hour, cs) ← readField 2 0 23 (← readTimeMark cs)
  let (minute, cs) ← readField 2 0 59 (← readMark ':' cs)
  let (second, cs) ← readField 2 0 60 (← readMark ':' cs)
  let (nanos, cs) ← readFraction cs
  let (offset, cs) ← readZone cs
  if !(cs.dropWhile isBlank).isEmpty then throw .tooLong
  let date : Calendar.Date := ⟨year, month, day⟩
  if !date.isValid then throw .outOfRange
  if 86400 ≤ offset.natAbs then throw .outOfRange
  let leap := if second = 60 then 1 else 0
  let seconds := date.toDays * 86400 + hour * 3600 + minute * 60 + (second - leap : Nat) - offset
  if (Calendar.Date.ofDays (seconds / 86400)).isValid then
    return ⟨seconds, nanos + leap * 1000000000⟩
  else throw .impossible

end Stamp

end ModelFleet
