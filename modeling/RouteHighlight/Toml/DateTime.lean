import RouteHighlight.Decimal.Basic
import RouteHighlight.Text.Reader

/-!
# Dates and times of TOML

Dates, times of day, and both together with or without an offset. The written form has a `T`
between date and time and no needless digits of a second.
-/

namespace RouteHighlight.Toml

open Text Text.Reader

structure Date where
  year : Nat
  month : Nat
  day : Nat
  deriving DecidableEq, Repr

structure Time where
  hour : Nat
  minute : Nat
  second : Nat
  nanosecond : Nat
  deriving DecidableEq, Repr

inductive Offset where
  | utc
  | minutes (n : Int)
  deriving DecidableEq, Repr

inductive DateTime where
  | date (date : Date)
  | time (time : Time)
  | both (date : Date) (time : Time) (offset : Option Offset)
  deriving DecidableEq, Repr

def isLeapYear (year : Nat) : Bool := year % 4 == 0 && (year % 100 != 0 || year % 400 == 0)

def daysIn (year month : Nat) : Nat :=
  if month = 2 then if isLeapYear year then 29 else 28
  else if month = 4 ∨ month = 6 ∨ month = 9 ∨ month = 11 then 30
  else 31

structure TimeBounds where
  hour : Nat
  offsetHour : Nat
  offsetMinute : Nat
  offset : Nat

def TimeBounds.strict : TimeBounds := ⟨23, 23, 59, 1439⟩

/-- The bounds where a text stands for a date and time: midnight may end a day, and an offset may
be a whole day, however it is written. -/
def TimeBounds.loose : TimeBounds := ⟨24, 99, 99, 1440⟩

def fixedNumber (digits low high : Nat) : Reader Nat := do
  let n := digitsValue 10 (← exactly isDigit digits)
  if low ≤ n ∧ n ≤ high then return n else failure

def date : Reader Date := do
  let year ← fixedNumber 4 0 9999
  char '-'
  let month ← fixedNumber 2 1 12
  char '-'
  let day ← fixedNumber 2 1 31
  if day ≤ daysIn year month then return ⟨year, month, day⟩ else failure

/-- The nanoseconds of a fraction of a second; digits beyond the ninth are dropped. -/
def nanoseconds (digits : List Char) : Nat :=
  digitsValue 10 ((digits ++ List.replicate 9 '0').take 9)

def time (bounds : TimeBounds) : Reader Time := do
  let hour ← fixedNumber 2 0 bounds.hour
  char ':'
  let minute ← fixedNumber 2 0 59
  char ':'
  let second ← fixedNumber 2 0 60
  let fraction ← maybe (do char '.'; takeWhile1 isDigit)
  return ⟨hour, minute, second, nanoseconds (fraction.getD [])⟩

def offset (bounds : TimeBounds) : Reader Offset := do
  match ← oneOf fun _ => true with
  | 'Z' | 'z' => return .utc
  | '+' => return .minutes (← distance)
  | '-' => return .minutes (-(← distance))
  | _ => failure
where
  distance : Reader Int := do
    let hour ← fixedNumber 2 0 bounds.offsetHour
    char ':'
    let minute ← fixedNumber 2 0 bounds.offsetMinute
    let total := hour * 60 + minute
    if total ≤ bounds.offset then return total else failure

def dateTime (bounds : TimeBounds) : Reader DateTime :=
  (do
    let day ← date
    let clock ← maybe do
      let _ ← oneOf fun c => c == 'T' || c == 't' || c == ' '
      let time ← time bounds
      return (time, ← maybe (offset bounds))
    match clock with
    | some (time, offset) => return .both day time offset
    | none => return .date day) <|>
  (do return .time (← time bounds))

def padded (width n : Nat) : List Char :=
  let digits := Decimal.digitsText n
  List.replicate (width - digits.length) '0' ++ digits

namespace DateTime

def parse? (text : String) : Option DateTime := readAll? (dateTime .loose) text.toList

def dateText (d : Date) : List Char :=
  padded 4 d.year ++ '-' :: padded 2 d.month ++ '-' :: padded 2 d.day

def timeText (t : Time) : List Char :=
  let places := ((padded 9 t.nanosecond).reverse.dropWhile (· == '0')).reverse
  padded 2 t.hour ++ ':' :: padded 2 t.minute ++ ':' :: padded 2 t.second ++
    if places.isEmpty then [] else '.' :: places

def offsetText : Offset → List Char
  | .utc => ['Z']
  | .minutes n =>
    (if n < 0 then '-' else '+') :: padded 2 (n.natAbs / 60) ++ ':' :: padded 2 (n.natAbs % 60)

def text : DateTime → String
  | .date d => String.ofList (dateText d)
  | .time t => String.ofList (timeText t)
  | .both d t offset =>
    String.ofList (dateText d ++ 'T' :: timeText t ++ (offset.map offsetText).getD [])

end DateTime

end RouteHighlight.Toml
