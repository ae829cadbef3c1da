import TwirpTodo.Errors

namespace TwirpTodo.Todo

/-- A `time.Time`: the instant, by `Unix()` and `Nanosecond()`, and the offset
in seconds east of UTC of its location. -/
structure Time where
  unix : Int
  nanosecond : Fin 1000000000
  offset : Int
  deriving DecidableEq, Repr

/-- The zero `time.Time`, January 1 of year 1, 00:00:00 UTC. -/
def zeroTime : Time := ⟨-62135596800, 0, 0⟩

/-- `appendInt(b, x, width)` of Go's `time` package: the decimal digits of `x`
zero-padded to `width`, after a `-` when `x` is negative. -/
def appendInt (x : Int) (width : Nat) : String :=
  let digits := toString x.natAbs
  (if x < 0 then "-" else "") ++ String.mk (List.replicate (width - digits.length) '0') ++ digits

/-- The proleptic Gregorian year, month and day of a count of days since
1970-01-01. -/
def civilFromDays (days : Int) : Int × Int × Int :=
  let z := days + 719468
  let era := z / 146097
  let doe := z - era * 146097
  let yoe := (doe - doe / 1460 + doe / 36524 - doe / 146096) / 365
  let doy := doe - (365 * yoe + yoe / 4 - yoe / 100)
  let mp := (5 * doy + 2) / 153
  let month := if mp < 10 then mp + 3 else mp - 9
  (yoe + era * 400 + (if month ≤ 2 then 1 else 0), month, doy - (153 * mp + 2) / 5 + 1)

/-- `formatNano` for the layout element `.999999999`: nine digits with the
trailing zeros cut, and nothing at all for a whole second. -/
def formatNano (nanosecond : Nat) : String :=
  match ((appendInt nanosecond 9).toList.reverse.dropWhile (· == '0')).reverse with
  | [] => ""
  | digits => "." ++ String.mk digits

/-- The layout elements `2006-01-02`, then `sep`, then `15:04:05.999999999`,
read on the clock of the time's own location. -/
def Time.dateClock (t : Time) (sep : String) : String :=
  let local_ := t.unix + t.offset
  let (year, month, day) := civilFromDays (local_ / 86400)
  let clock := local_ % 86400
  appendInt year 4 ++ "-" ++ appendInt month 2 ++ "-" ++ appendInt day 2 ++ sep ++
    appendInt (clock / 3600) 2 ++ ":" ++ appendInt (clock % 3600 / 60) 2 ++ ":" ++
    appendInt (clock % 60) 2 ++ formatNano t.nanosecond

/-- The layout elements `-07:00` (`colon` is `:`) and `-0700`: the sign of the
offset, then its hours and minutes. -/
def Time.numericZone (t : Time) (colon : String) : String :=
  (if t.offset < 0 then "-" else "+") ++ appendInt (t.offset.natAbs / 3600) 2 ++ colon ++
    appendInt (t.offset.natAbs % 3600 / 60) 2

/-- `t.Format(time.RFC3339Nano)`, the layout `2006-01-02T15:04:05.999999999Z07:00`:
the clock of the time's own location, then `Z` or its offset in hours and minutes. -/
def Time.rfc3339Nano (t : Time) : String :=
  t.dateClock "T" ++ (if t.offset = 0 then "Z" else t.numericZone ":")

/-- `t.String()`, the layout `2006-01-02 15:04:05.999999999 -0700 MST`. The
driver hands out its times in `time.UTC`, or, for a stored offset other than
zero, in a zone without a name, for which `MST` writes the offset again. -/
def Time.string (t : Time) : String :=
  t.dateClock " " ++ " " ++ t.numericZone "" ++ " " ++ (if t.offset = 0 then "UTC" else t.numericZone "")

/-- One character as `strconv.Quote` writes it. Characters past ASCII are
written as they are; Go also escapes those that `unicode.IsPrint` rejects. -/
def quoteChar (c : Char) : String :=
  match c.toNat with
  | 7 => "\\a"
  | 8 => "\\b"
  | 9 => "\\t"
  | 10 => "\\n"
  | 11 => "\\v"
  | 12 => "\\f"
  | 13 => "\\r"
  | 34 => "\\\""
  | 92 => "\\\\"
  | n =>
    if n < 32 ∨ n = 127 then "\\x" ++ (Nat.digitChar (n / 16)).toString ++ (Nat.digitChar (n % 16)).toString
    else c.toString

/-- `strconv.Quote`, which the verb `%q` applies to a string. -/
def goQuote (s : String) : String := "\"" ++ String.join (s.toList.map quoteChar) ++ "\""

/-- A `driver.Value` of the SQLite driver, as it carries this table's arguments
and column contents; `integer` is an `int64`. -/
inductive Value where
  | null
  | integer (n : Int)
  | text (s : String)
  | time (t : Time)
  deriving DecidableEq, Repr

/-- The type `%T` prints for a value in `convertAssign`'s errors. -/
def Value.goType : Value → String
  | .null => "<nil>"
  | .integer _ => "int64"
  | .text _ => "string"
  | .time _ => "time.Time"

/-- `strconv.ParseUint(s, 10, 64)` on the text `s` of a value of Go type `type`
(`none`: `s` is not all digits), with `convertAssign`'s error, which quotes the
text after the type. -/
def parseUint64 (type s : String) : Option Nat → Except String UInt64
  | some n =>
    if n < UInt64.size then .ok (UInt64.ofNat n)
    else .error ("converting driver.Value type " ++ type ++ " (" ++ goQuote s ++
      ") to a uint64: value out of range")
  | none => .error ("converting driver.Value type " ++ type ++ " (" ++ goQuote s ++ ") to a uint64: invalid syntax")

/-- `convertAssign` into a `uint64`: NULL is refused, anything else is parsed
from the text `asString` gives it: an `int64` in decimal, with a sign when
negative, text as it is, and a time by `t.String()`, never digits alone. -/
def scanUint64 : Value → Except String UInt64
  | .null => .error "converting NULL to uint64 is unsupported"
  | .integer n => parseUint64 "int64" (toString n) (if 0 ≤ n then some n.toNat else none)
  | .text s => parseUint64 "string" s s.toNat?
  | .time t => parseUint64 "time.Time" t.string none

example : scanUint64 (.integer (-5)) =
    .error "converting driver.Value type int64 (\"-5\") to a uint64: invalid syntax" := by
  decide

/-- `sql.NullTime.Scan`: NULL leaves it invalid, with the zero time; anything
else goes through `convertAssign` into a `time.Time`, which takes only a time. -/
def scanNullTime : Value → Except String (Option Time)
  | .null => .ok none
  | .time t => .ok (some t)
  | v => .error ("unsupported Scan, storing driver.Value type " ++ v.goType ++ " into type *time.Time")

/-- `sql.NullString.Scan`: NULL leaves it invalid, with `""`; `convertAssign`
into a `string` copies text, prints an `int64` in decimal and formats a time
with `time.RFC3339Nano`. -/
def scanNullString : Value → Except String (Option String)
  | .null => .ok none
  | .text s => .ok (some s)
  | .integer n => .ok (some (toString n))
  | .time t => .ok (some t.rfc3339Nano)

/-- A column of `tasks`. -/
inductive Column where
  | id
  | created
  | title
  | description
  deriving DecidableEq, Repr

def Column.name : Column → String
  | .id => "id"
  | .created => "created"
  | .title => "title"
  | .description => "description"

/-- The scan targets of `ListTasks` and `GetTask`: `id uint64` and the nullable
`created sql.NullTime`, `title` and `description sql.NullString` (`none` when
NULL). -/
structure ScannedRow where
  id : UInt64
  created : Option Time
  title : Option String
  description : Option String
  deriving DecidableEq, Repr

/-- One column of `rows.Scan`: its error names the column by index and name. -/
def scanColumn {α : Type} (columns : List Column) (index : Nat) (convert : Value → Except String α)
    (v : Value) : Except SqlError α :=
  (convert v).mapError fun err =>
    ⟨"sql: Scan error on column index " ++ toString index ++ ", name \"" ++
      ((columns.get? index).map Column.name).getD "" ++ "\": " ++ err⟩

/-- `rows.Scan(&id, &created, &title, &description)` on one row of a result
with columns `columns`: the number of destinations must be the row's, and the
columns are converted in order, the first failure ending the scan. -/
def scan (columns : List Column) : List Value → Except SqlError ScannedRow
  | [id, created, title, description] =>
    return ⟨← scanColumn columns 0 scanUint64 id, ← scanColumn columns 1 scanNullTime created,
      ← scanColumn columns 2 scanNullString title, ← scanColumn columns 3 scanNullString description⟩
  | values => .error ⟨"sql: expected " ++ toString values.length ++ " destination arguments in Scan, not 4"⟩

/-- The `*sql.Rows` of a select: the result's columns, the values of each row
`rows.Next()` yields in turn, and the error iteration stopped with, which only
`rows.Err()` reports (`none`: the rows ran out). -/
structure Rows where
  columns : List Column
  values : List (List Value)
  err : Option SqlError
  deriving DecidableEq, Repr

end TwirpTodo.Todo
