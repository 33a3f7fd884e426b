import DialARide.Decimal.Digit
import DialARide.Duration.Components

/-!
# How durations are written

Two notations are read. The designator notation writes `P`, counts of days and larger units, then
`T` and counts of hours, minutes and seconds, each count followed by the letter of its unit
(`PT1H30M`). The everyday notation writes counts with the names of their units (`1 hour, 30 min`),
and hours, minutes and seconds also with colons (`01:30:00`); it may end in `ago`. A sign may stand
first in both.
-/

namespace DialARide

namespace Components

/-! ## 1. Parts of both notations -/

/-- Takes a count from the front of a text, if digits are there. A count fits 64 bits; after 21
digits it ends. -/
def takeCount (text : List Char) : Option (Option Nat × List Char) :=
  let digits := (text.takeWhile Char.isDigit).take 21
  let count := Decimal.ofDigits digits
  if digits.isEmpty then some (none, text)
  else if count < Word.bound then some (some count, text.drop digits.length)
  else none

/-- Takes a fraction from the front of a text, if a point or comma is there: one to nine digits,
as billionths. -/
def takeFraction : List Char → Option (Option Nat × List Char)
  | [] => some (none, [])
  | mark :: text =>
    if mark = '.' ∨ mark = ',' then
      let digits := (text.takeWhile Char.isDigit).take 9
      if digits.isEmpty then none
      else
        let billionths := Decimal.ofDigits digits * Nat.pow 10 (9 - digits.length)
        some (some billionths, text.drop digits.length)
    else some (none, mark :: text)

/-- A count that is there shortens the text. -/
theorem length_of_takeCount {text rest : List Char} {count : Nat}
    (h : takeCount text = some (some count, rest)) : rest.length < text.length := by
  unfold takeCount at h
  simp only at h
  split at h
  · simp at h
  · rename_i hne
    split at h
    · simp only [Option.some.injEq, Prod.mk.injEq] at h
      obtain ⟨-, rfl⟩ := h
      cases text with
      | nil => simp at hne
      | cons c text =>
        have digits : 0 < (((c :: text).takeWhile Char.isDigit).take 21).length :=
          List.length_pos_iff.2 (by simpa using hne)
        rw [List.length_drop, List.length_cons]
        omega
    · simp at h

/-- Taking a fraction never lengthens the text. -/
theorem length_of_takeFraction {text rest : List Char} {fraction : Option Nat}
    (h : takeFraction text = some (fraction, rest)) : rest.length ≤ text.length := by
  unfold takeFraction at h
  split at h
  · simp only [Option.some.injEq, Prod.mk.injEq] at h
    simp [← h.2]
  · split at h
    · simp only at h
      split at h
      · simp at h
      · simp only [Option.some.injEq, Prod.mk.injEq] at h
        simp only [← h.2, List.length_drop, List.length_cons]
        omega
    · simp only [Option.some.injEq, Prod.mk.injEq] at h
      simp [← h.2]

/-- Takes a sign from the front of a text; the result says whether it was there and negative. -/
def takeSign : List Char → Option Bool × List Char
  | '+' :: rest => (some false, rest)
  | '-' :: rest => (some true, rest)
  | text => (none, text)

/-- Gives the smallest unit a fraction, if there is one. -/
def withFractionIfAny (c : Components) : Option Nat → Option Components
  | none => some c
  | some billionths => c.withFraction? billionths

/-! ## 2. The designator notation -/

/-- The unit of a letter among the counts of days and larger units. -/
def dateUnit? (c : Char) : Option TimeUnit :=
  match c.toUpper with
  | 'Y' => some .year
  | 'M' => some .month
  | 'W' => some .week
  | 'D' => some .day
  | _ => none

/-- The unit of a letter among the counts of hours and smaller units. -/
def timeUnit? (c : Char) : Option TimeUnit :=
  match c.toUpper with
  | 'H' => some .hour
  | 'M' => some .minute
  | 'S' => some .second
  | _ => none

/-- Takes a fraction where fractions are allowed. -/
def takeFractionIf (allowed : Bool) (text : List Char) : Option (Option Nat × List Char) :=
  if allowed then takeFraction text else some (none, text)

/-- Nor does it where fractions may not be allowed. -/
theorem length_of_takeFractionIf {allowed : Bool} {text rest : List Char} {fraction : Option Nat}
    (h : takeFractionIf allowed text = some (fraction, rest)) : rest.length ≤ text.length := by
  unfold takeFractionIf at h
  split at h
  · exact length_of_takeFraction h
  · simp only [Option.some.injEq, Prod.mk.injEq] at h
    simp [← h.2]

/-- Takes counts with their letters. Where `fractions` are allowed, one ends the list. -/
def designated (unit? : Char → Option TimeUnit) (fractions : Bool) (c : Components)
    (text : List Char) : Option (Components × List Char) :=
  match _hc : takeCount text with
  | none => none
  | some (none, _) => some (c, text)
  | some (some count, rest) =>
    match _hf : takeFractionIf fractions rest with
    | some (fraction, letter :: after) =>
      match (unit? letter).bind (c.add? · count), fraction with
      | none, _ => none
      | some c, some billionths => (c.withFraction? billionths).map (·, after)
      | some c, none => designated unit? fractions c after
    | _ => none
termination_by text.length
decreasing_by
  have := length_of_takeCount ‹_›
  have := length_of_takeFractionIf ‹_›
  simp only [List.length_cons] at this
  omega

/-- Reads a duration in the designator notation. At least one count is written, and one after a
`T`. -/
def ofDesignators? (text : List Char) : Option Components := do
  let (negative, text) := takeSign text
  let text ← match text with
    | 'P' :: rest => some rest
    | 'p' :: rest => some rest
    | _ => none
  let (dates, text) ← designated dateUnit? false .empty text
  let (all, text) ← match text with
    | mark :: rest =>
      if mark = 'T' ∨ mark = 't' then do
        let (all, text) ← designated timeUnit? true dates rest
        if all.counts.length = dates.counts.length then none else some (all, text)
      else some (dates, text)
    | [] => some (dates, text)
  if all.counts.isEmpty ∨ !text.isEmpty then none
  else return { all with negative := negative.getD false }

/-! ## 3. The everyday notation -/

/-- The names of a unit. The third sign of microseconds is the micro sign `µ`. -/
def unitNames : TimeUnit → List String
  | .year => ["years", "year", "yrs", "yr", "y"]
  | .month => ["months", "month", "mos", "mo"]
  | .week => ["weeks", "week", "wks", "wk", "w"]
  | .day => ["days", "day", "d"]
  | .hour => ["hours", "hour", "hrs", "hr", "h"]
  | .minute => ["minutes", "minute", "mins", "min", "m"]
  | .second => ["seconds", "second", "secs", "sec", "s"]
  | .millisecond => ["milliseconds", "millisecond", "millis", "milli", "msecs", "msec", "ms"]
  | .microsecond =>
    ["microseconds", "microsecond", "micros", "micro", "usecs", "usec", "us",
      "\xb5secs", "\xb5sec", "\xb5s"]
  | .nanosecond => ["nanoseconds", "nanosecond", "nanos", "nano", "nsecs", "nsec", "ns"]

/-- All units, the largest first. -/
def units : List TimeUnit :=
  [.year, .month, .week, .day, .hour, .minute, .second, .millisecond, .microsecond, .nanosecond]

/-- Every name with its unit. -/
def namedUnits : List (List Char × TimeUnit) :=
  units.flatMap fun unit => (unitNames unit).map fun name => (name.toList, unit)

/-- Takes the longest name of a unit that stands at the front of a text. -/
def takeUnit? (text : List Char) : Option (TimeUnit × List Char) :=
  let fitting := namedUnits.filter fun (name, _) => name.isPrefixOf text
  let longest := fitting.foldl
    (fun (best : Option (List Char × TimeUnit)) (next : List Char × TimeUnit) =>
      match best with
      | none => some next
      | some b => if b.1.length < next.1.length then some next else some b) none
  longest.map fun (name, unit) => (unit, text.drop name.length)

/-- Characters that may separate counts, names and the final `ago`. -/
def isSpace (c : Char) : Bool :=
  c = ' ' || c = '\t' || c = '\n' || c = '\r' || c = '\x0c'

/-- Takes a comma, which a space has to follow; the result says whether it was there. -/
def takeComma : List Char → Option (Bool × List Char)
  | ',' :: c :: rest => if isSpace c then some (true, rest) else none
  | [','] => none
  | text => some (false, text)

/-- Taking a unit never lengthens the text. -/
theorem length_of_takeUnit? {text rest : List Char} {unit : TimeUnit}
    (h : takeUnit? text = some (unit, rest)) : rest.length ≤ text.length := by
  simp only [takeUnit?, Option.map_eq_some_iff, Prod.exists, Prod.mk.injEq] at h
  obtain ⟨_, _, _, _, rfl⟩ := h
  simp

/-- Taking a comma never lengthens the text. -/
theorem length_of_takeComma {text rest : List Char} {comma : Bool}
    (h : takeComma text = some (comma, rest)) : rest.length ≤ text.length := by
  unfold takeComma at h
  split at h
  · split at h
    · simp only [Option.some.injEq, Prod.mk.injEq] at h
      simp only [← h.2, List.length_cons]
      omega
    · simp at h
  · simp at h
  · simp only [Option.some.injEq, Prod.mk.injEq] at h
    simp [← h.2]

/-- Takes minutes and seconds after a count of hours and its colon. -/
def takeClock (c : Components) (hours : Nat) (text : List Char) :
    Option (Components × List Char) := do
  let (minutes, text) ← takeCount text
  let text ← match text with
    | ':' :: rest => some rest
    | _ => none
  let (seconds, text) ← takeCount text
  let (fraction, text) ← takeFraction text
  let c ← c.add? .hour hours
  let c ← c.add? .minute (← minutes)
  let c ← c.add? .second (← seconds)
  return (← c.withFractionIfAny fraction, text)

/-- Takes what follows a count: perhaps a fraction, the name of a unit and perhaps a comma. The
result says whether the comma was there. -/
def takeAmount (c : Components) (count : Nat) (text : List Char) :
    Option (Components × Bool × List Char) := do
  let (fraction, text) ← takeFraction text
  let (unit, text) ← takeUnit? (text.dropWhile isSpace)
  let (comma, text) ← takeComma text
  let c ← c.add? unit count
  return (← c.withFractionIfAny fraction, comma, text)

/-- Taking what follows a count never lengthens the text. -/
theorem length_of_takeAmount {c d : Components} {count : Nat} {text rest : List Char}
    {comma : Bool} (h : takeAmount c count text = some (d, comma, rest)) :
    rest.length ≤ text.length := by
  simp only [takeAmount, Option.bind_eq_bind, Option.bind_eq_some_iff, Option.pure_def,
    Option.some.injEq, Prod.mk.injEq, Prod.exists] at h
  obtain ⟨_, t₁, h₁, _, t₂, h₂, _, t₃, h₃, _, _, _, _, _, _, rfl⟩ := h
  have := length_of_takeFraction h₁
  have := length_of_takeUnit? h₂
  have := length_of_takeComma h₃
  have : (t₁.dropWhile isSpace).length ≤ t₁.length := (List.dropWhile_suffix isSpace).length_le
  omega

/-- Takes the rest of an everyday duration whose next count has been taken. A clock time and a
fraction both end it. After a comma another count has to follow. -/
def everyday (c : Components) (count : Nat) (text : List Char) : Option (Components × List Char) :=
  match text with
  | ':' :: rest => takeClock c count rest
  | text =>
    match _ha : takeAmount c count text with
    | none => none
    | some (c, comma, after) =>
      let ended := if comma then none else some (c, after)
      if c.fraction.isSome then ended
      else match _hc : takeCount (after.dropWhile isSpace) with
        | none => none
        | some (none, _) => ended
        | some (some next, rest) => everyday c next rest
termination_by text.length
decreasing_by
  have := length_of_takeAmount ‹_›
  have := length_of_takeCount ‹_›
  have : (after.dropWhile isSpace).length ≤ after.length :=
    (List.dropWhile_suffix isSpace).length_le
  omega

/-- Reads the end of an everyday duration: nothing, spaces, or `ago` after a space, which makes it
negative and forbids a sign in front. -/
def direction? (sign : Option Bool) (text : List Char) : Option Bool :=
  match text with
  | [] => some (sign.getD false)
  | c :: _ =>
    if isSpace c then
      match text.dropWhile isSpace with
      | [] => some (sign.getD false)
      | rest => if rest = "ago".toList ∧ sign.isNone then some true else none
    else none

/-- Reads a duration in the everyday notation. -/
def ofEveryday? (text : List Char) : Option Components := do
  let (sign, text) := takeSign text
  let (count, text) ← takeCount text
  let (c, text) ← everyday .empty (← count) text
  return { c with negative := ← direction? sign text }

/-! ## 4. Either notation -/

/-- Reads a duration. The designator notation is told by its `P`, which may have a sign before
it. -/
def ofText? (text : String) : Option Components :=
  match (takeSign text.toList).2 with
  | 'P' :: _ => ofDesignators? text.toList
  | 'p' :: _ => ofDesignators? text.toList
  | _ => ofEveryday? text.toList

end Components

end DialARide
