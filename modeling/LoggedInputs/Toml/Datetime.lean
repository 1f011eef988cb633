import LoggedInputs.Toml.Lexer
/-!
# TOML date-times

A bare value that starts with digits followed by `-` or `:` is a date-time: a date
(`1979-05-27`), a time (`07:32`, `07:32:00.999`), or a date and a time joined by `T` or a blank,
perhaps with an offset (`Z`, `+07:00`). Seconds may be left out; a fraction needs seconds.

The text is cut into pieces (runs of digits, and single bytes for everything else) and read
field by field. Each field is first read for its shape; once a date or a time is read whole, the
widths of its fields are checked, then their ranges. The first field out of place, of the wrong
width or out of range names the error, which the whole value then carries.
-/

namespace LoggedInputs.Toml

/-- A piece of a date-time's text. -/
inductive DatePiece where
  /-- A run of digits: its value and how many digits it has. -/
  | digits (value length : Nat)
  | dash
  | colon
  | dot
  | plus
  /-- `T` or `t`, between a date and a time. -/
  | timeMark
  | space
  /-- `Z` or `z`, the zero offset. -/
  | zulu
  /-- Any other byte. -/
  | other
  deriving DecidableEq

/-- The piece a byte that is not a digit forms. -/
def DatePiece.ofByte (b : UInt8) : DatePiece :=
  if b == byte '-' then .dash
  else if b == byte ':' then .colon
  else if b == byte '.' then .dot
  else if b == byte '+' then .plus
  else if b == byte 'T' || b == byte 't' then .timeMark
  else if b == byte ' ' then .space
  else if b == byte 'Z' || b == byte 'z' then .zulu
  else .other

/-- The pieces of a date-time's text: digits run together, every other byte stands alone. -/
def datePieces (bs : List UInt8) : List DatePiece :=
  (bs.foldl step []).reverse
where
  /-- Adds a byte to the pieces so far, latest first. -/
  step (acc : List DatePiece) (b : UInt8) : List DatePiece :=
    if byte '0' ≤ b && b ≤ byte '9' then
      let d := (b - byte '0').toNat
      match acc with
      | .digits v n :: rest => .digits (10 * v + d) (n + 1) :: rest
      | _ => .digits d 1 :: acc
    else DatePiece.ofByte b :: acc

/-- The message of a date-time that does not read: which part is wrong, and what was expected
there. -/
def dateError (what expected : Option String) : String :=
  match what, expected with
  | some w, some e => "invalid " ++ w ++ ", expected " ++ e
  | some w, none => "invalid " ++ w
  | none, some e => "expected " ++ e
  | none, none => "failed to parse datetime"

/-- Reading the pieces of a date-time, failing with a message. -/
abbrev DateScan := StateT (List DatePiece) (Except String)

/-- Fails with the message for a wrong `what` where `expected` should be. -/
def dateFail {α : Type} (what expected : String) : DateScan α :=
  throw (dateError (some what) (some expected))

/-- Takes the next piece, if any. -/
def takePiece : DateScan (Option DatePiece) := do
  match ← get with
  | [] => return none
  | p :: rest =>
    set rest
    return some p

/-- The next piece, if any, left in place. -/
def peekPiece : DateScan (Option DatePiece) := do
  return (← get).head?

/-- A run of digits: its value and length. -/
def takeDigits (what expected : String) : DateScan (Nat × Nat) := do
  match ← takePiece with
  | some (.digits v n) => return (v, n)
  | _ => dateFail what expected

/-- A separator that must come next. -/
def takeSeparator (p : DatePiece) (what expected : String) : DateScan Unit := do
  if (← takePiece) != some p then dateFail what expected

/-- Whether a year is a leap year of the Gregorian calendar. -/
def leapYear (year : Nat) : Bool :=
  year % 4 == 0 && (year % 100 != 0 || year % 400 == 0)

/-- The number of days of a month of a year. -/
def daysInMonth (year month : Nat) : Nat :=
  if month = 2 then (if leapYear year then 29 else 28)
  else if month = 4 || month = 6 || month = 9 || month = 11 then 30
  else 31

/-- The month and day of a date, after its year (with `yearLength` digits) and a dash. -/
def readDate (year yearLength : Nat) : DateScan Unit := do
  let (month, monthLength) ← takeDigits "date" "month"
  takeSeparator .dash "date" "`-` (MM-DD)"
  let (day, dayLength) ← takeDigits "date" "day"
  if yearLength != 4 then dateFail "date" "a four-digit year (YYYY)"
  else if monthLength != 2 then dateFail "date" "a two-digit month (MM)"
  else if dayLength != 2 then dateFail "date" "a two-digit day (DD)"
  else if month < 1 || month > 12 then dateFail "date" "month between 01 and 12"
  else
    let days := daysInMonth year month
    if day < 1 || day > days then
      dateFail "date" ("day between 01 and " ++ toString days)

/-- A time: hours and minutes, then perhaps seconds, then perhaps a fraction of a second. -/
def readTime : DateScan Unit := do
  let (hour, hourLength) ← takeDigits "time" "hour"
  takeSeparator .colon "time" "`:` (HH:MM)"
  let (minute, minuteLength) ← takeDigits "time" "minute"
  let second ←
    if (← peekPiece) == some .colon then do
      let _ ← takePiece
      some <$> takeDigits "time" "second"
    else pure none
  if second.isSome && (← peekPiece) == some .dot then
    let _ ← takePiece
    let _ ← takeDigits "time" "nanosecond"
  let (seconds, secondLength) := second.getD (0, 2)
  if hourLength != 2 then dateFail "time" "a two-digit hour (HH)"
  else if minuteLength != 2 then dateFail "time" "a two-digit minute (MM)"
  else if secondLength != 2 then dateFail "time" "a two-digit second (SS)"
  else if hour > 23 then dateFail "time" "hour between 00 and 23"
  else if minute > 59 then dateFail "time" "minute between 00 and 59"
  else if seconds > 60 then dateFail "time" "second between 00 and 60"

/-- The offset after a date and a time, if any: `Z`, or a sign with hours and minutes. -/
def readOffset : DateScan Unit := do
  match ← takePiece with
  | none | some .zulu => pure ()
  | some .plus | some .dash =>
    let (hours, hoursLength) ← takeDigits "offset" "hour"
    takeSeparator .colon "offset" "`:` (HH:MM)"
    let (minutes, minutesLength) ← takeDigits "offset" "minute"
    if hoursLength != 2 then dateFail "offset" "a two-digit hour (HH)"
    else if minutesLength != 2 then dateFail "offset" "a two-digit minute (MM)"
    else if hours > 23 then dateFail "offset" "hours between 00 and 23"
    else if minutes > 59 then dateFail "offset" "minutes between 00 and 59"
  | some _ => dateFail "offset" "`Z`, +OFFSET, -OFFSET"

/-- A whole date-time: a date with perhaps a time and an offset, or a time alone, and nothing
after it. -/
def readDatetime : DateScan Unit := do
  let all ← get
  let (first, firstLength) ← takeDigits "datetime" "year or hour"
  match ← takePiece with
  | some .dash =>
    readDate first firstLength
    match ← takePiece with
    | none => pure ()
    | some .timeMark | some .space =>
      readTime
      readOffset
    | some _ => dateFail "date-time" "`T` between date and time"
  | some .colon =>
    set all
    readTime
  | _ => dateFail "datetime" "`-` (YYYY-MM) or `:` (HH:MM)"
  if !(← get).isEmpty then throw (dateError (some "datetime") none)

/-- Why the text of a date-time does not read, if it does not. -/
def datetimeError (bs : List UInt8) : Option String :=
  match readDatetime.run (datePieces bs) with
  | .ok _ => none
  | .error e => some e

end LoggedInputs.Toml
