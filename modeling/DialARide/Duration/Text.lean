import DialARide.Decimal.Numeral
import DialARide.Duration.Written

/-!
# Durations as text

In files a duration is an exact amount of time (`SignedDuration.ofText?`). On the command line it
may also be a span of days, or a plain count of seconds (`SignedDuration.ofArgument?`). It is always
written in the designator notation, in hours, minutes and seconds (`SignedDuration.toText`).
-/

namespace DialARide

namespace SignedDuration

/-- Reads an exact amount of time. -/
def ofText? (text : String) : Option SignedDuration :=
  (Components.ofText? text).bind Components.amount?

/-- The duration of a count of seconds, to the nearest nanosecond. -/
def ofSeconds? (seconds : Float) : Option SignedDuration :=
  let limit := Float.ofNat Word.signedBound
  if seconds.isFinite ∧ 0.0 ≤ seconds ∧ seconds ≤ limit then
    let whole := seconds.floor
    let nanoseconds := ((seconds - whole) * 1e9).round.toUInt64.toNat
    let wholeSeconds := min whole.toUInt64.toNat (Word.signedBound - 1)
    ofNanoseconds? ((wholeSeconds * perSecond + nanoseconds : Nat) : Int)
  else none

/-- Reads a duration given as an argument: an exact amount of time, else a span of days, else a
count of seconds. -/
def ofArgument? (text : String) : Option SignedDuration :=
  let written := Components.ofText? text
  written.bind Components.amount?
    <|> written.bind Components.daily?
    <|> (Decimal.numeral? text).bind ofSeconds?

/-- A part of a duration with its letter, left out when it is zero. -/
def part (count : Nat) (letter : String) : String :=
  if count = 0 then "" else toString count ++ letter

/-- Digits of a fraction in billionths, without trailing zeros. -/
def fractionDigits (billionths : Nat) : String :=
  let digits := (toString (perSecond + billionths)).toList.drop 1
  String.ofList (digits.reverse.dropWhile (· = '0')).reverse

/-- Writes a duration. -/
def toText (d : SignedDuration) : String :=
  let total := d.nanoseconds.natAbs
  let seconds := total / perSecond
  let billionths := total % perSecond
  let sign := if d.nanoseconds < 0 then "-" else ""
  let rest := seconds % 60
  let secondsText :=
    if billionths ≠ 0 then toString rest ++ "." ++ fractionDigits billionths ++ "S"
    else if total = 0 then "0S"
    else part rest "S"
  sign ++ "PT" ++ part (seconds / 3600) "H" ++ part (seconds / 60 % 60) "M" ++ secondsText

end SignedDuration

end DialARide
