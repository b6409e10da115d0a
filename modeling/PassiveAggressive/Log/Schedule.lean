import PassiveAggressive.Number.Numeral
import PassiveAggressive.Text.Split

/-!
# Schedules of a log

When a log file is full, and how long a full one is kept, is said in a few words.  A
file is full at a size (`500 MB`), after a time (`1 day`), at a turn of the calendar
(`weekly`), or at a time of day, perhaps of a certain weekday (`monday at 12:00`).  It
is kept for a time.

A text that cannot be any of these is refused as a whole.  One that looks like a size
or a time and has a part without a meaning is refused because of that part.
-/

namespace PassiveAggressive
namespace Log

/-- Why a schedule is refused. -/
inductive ScheduleFault where
  | unknownRotation (text : String)
  | unknownRetention (text : String)
  | badSize (number : String)
  | badDuration (number : String)
  | unknownUnit (name : String)
  /-- The days of a time that is too long. -/
  | tooLong (days : Int)
  | endless
  | badDay (text : String)
  | badTime (text : String)
  deriving DecidableEq, Repr

/-! ## Sizes and times -/

/-- A character of a number. -/
def isNumberChar (c : Char) : Bool := "eE+-.".toList.contains c || Text.isDecimal c

/-- A character between two parts of a time. -/
def isSeparator (c : Char) : Bool := Text.isBlank c || c = ','

/-- A letter of ASCII. -/
def isLetter (c : Char) : Bool := c.isAlpha

/-- The text in lower case is one of the words. -/
def isWord (words : List String) (cs : List Char) : Bool :=
  words.contains (String.ofList (cs.map Char.toLower))

/-- The number of a size; nothing if the text is no size.  A size is a number, perhaps with a
letter for its magnitude, and a unit. -/
def sizeNumber? (cs : List Char) : Option (List Char) :=
  let number := cs.takeWhile isNumberChar
  let unit := (cs.drop number.length).dropWhile Text.isBlank
  let unit :=
    match unit with
    | c :: r => if "kmgtpezyKMGTPEZY".toList.contains c then r else c :: r
    | [] => []
  let unit :=
    match unit with
    | c :: r => if c = 'i' || c = 'I' then r else c :: r
    | [] => []
  if !number.isEmpty && isWord ["b"] unit then some number else none

/-- The units of time, by their names, in seconds. -/
def units : List (List String × Float) :=
  let seconds (n : Int) : Float := Number.ofInt n
  [(["y", "year", "years"], seconds 31536000), (["month", "months"], seconds 2628000),
    (["w", "week", "weeks"], seconds 604800), (["d", "day", "days"], seconds 86400),
    (["h", "hour", "hours"], seconds 3600),
    (["min", "mins", "minute", "minutes"], seconds 60),
    (["s", "sec", "secs", "second", "seconds"], seconds 1),
    (["ms", "millisecond", "milliseconds"], Number.ofDecimal false 1 (-3)),
    (["us", "microsecond", "microseconds"], Number.ofDecimal false 1 (-6))]

/-- Where a reader of times is: a time is a row of numbers, each with a unit. -/
inductive Spot where
  | start
  | number
  | gap
  | unit
  | after
  deriving DecidableEq, Repr

/-- Where a reader can be after a character; the letter `e` is part of numbers and of units. -/
def Spot.next (s : Spot) (c : Char) : List Spot :=
  let onTo (holds : Bool) (t : Spot) : List Spot := if holds then [t] else []
  match s with
  | start => onTo (isNumberChar c) number
  | number => onTo (isNumberChar c) number ++ onTo (Text.isBlank c) gap ++ onTo (isLetter c) unit
  | gap => onTo (Text.isBlank c) gap ++ onTo (isLetter c) unit
  | unit => onTo (isLetter c) unit ++ onTo (isSeparator c) after ++ onTo (isNumberChar c) number
  | after => onTo (isSeparator c) after ++ onTo (isNumberChar c) number

/-- Whether a text is a row of numbers with units. -/
def looksDuration (cs : List Char) : Bool :=
  let spots := cs.foldl (fun spots c => (spots.flatMap fun s => s.next c).eraseDups) [Spot.start]
  spots.contains .unit || spots.contains .after

/-- The last place in a number, not the first, where a letter begins a unit. -/
def lastLetter? (number : List Char) : Option Nat :=
  (List.range number.length).reverse.find? fun i => 0 < i && (number[i]?.map isLetter).getD false

/-- The number and the unit at the front, and what follows them.  A number takes what it can. -/
def part? (cs : List Char) : Option (List Char × List Char × List Char) :=
  let number := cs.takeWhile isNumberChar
  let rest := cs.drop number.length
  let unit := (rest.dropWhile Text.isBlank).takeWhile isLetter
  if number.isEmpty then none
  else if !unit.isEmpty then
    some (number, unit, ((rest.dropWhile Text.isBlank).drop unit.length).dropWhile isSeparator)
  else
    (lastLetter? number).map fun i =>
      let unit := (cs.drop i).takeWhile isLetter
      (cs.take i, unit, (cs.drop (i + unit.length)).dropWhile isSeparator)

/-- The numbers and units in a text.  Every round takes at least one character. -/
def parts : Nat → List Char → List (List Char × List Char)
  | 0, _ => []
  | _, [] => []
  | fuel + 1, c :: cs =>
    match part? (c :: cs) with
    | some (number, unit, rest) => (number, unit) :: parts fuel rest
    | none => parts fuel cs

/-- The seconds of a part of a time. -/
def partSeconds (p : List Char × List Char) : Except ScheduleFault Float :=
  match Number.float? (String.ofList p.1) with
  | none => .error (.badDuration (String.ofList p.1))
  | some n =>
    match units.find? fun u => isWord u.1 p.2 with
    | none => .error (.unknownUnit (String.ofList p.2))
    | some u => .ok (n * u.2)

/-- The sum of the parts of a time. -/
def sumSeconds (sum : Float) : List (List Char × List Char) → Except ScheduleFault Float
  | [] => .ok sum
  | p :: ps => do
    let s ← partSeconds p
    sumSeconds (sum + s) ps

/-- The most days that a time can have. -/
def mostDays : Int := 999999999

/-- A time is not too long. -/
def checkSeconds (seconds : Float) : Except ScheduleFault Unit :=
  match Number.floor? seconds with
  | none => .error .endless
  | some n =>
    let days := Int.fdiv n 86400
    if days.natAbs ≤ mostDays.natAbs then .ok () else .error (.tooLong days)

/-- Whether a text is a time. -/
def checkDuration (cs : List Char) : Except ScheduleFault Bool :=
  let cs := Text.stripChars cs
  if looksDuration cs then do
    let seconds ← sumSeconds (Number.zero false) (parts cs.length cs)
    checkSeconds seconds
    .ok true
  else .ok false

/-- Whether a text is a size. -/
def checkSize (cs : List Char) : Except ScheduleFault Bool :=
  match sizeNumber? (Text.stripChars cs) with
  | none => .ok false
  | some number =>
    if (Number.float? (String.ofList number)).isSome then .ok true
    else .error (.badSize (String.ofList number))

/-! ## The calendar -/

/-- The turns of the calendar. -/
def frequencies : List String := ["hourly", "daily", "weekly", "monthly", "yearly"]

/-- The days of a week. -/
def weekdays : List String :=
  ["monday", "tuesday", "wednesday", "thursday", "friday", "saturday", "sunday"]

/-- What a text says about a part of a daytime: nothing, something that makes sense, or not. -/
inductive Sense where
  | silent
  | sensible
  | senseless
  deriving DecidableEq, Repr

/-- The day that a text names: a weekday, or `w` and a number below seven. -/
def daySense (cs : List Char) : Sense :=
  let cs := (Text.stripChars cs).map Char.toLower
  if isWord weekdays cs then .sensible
  else
    match cs with
    | 'w' :: digits =>
      if Text.isAllDigits (String.ofList digits) then
        match Number.natural (String.ofList digits) with
        | .ok n => if n < 7 then .sensible else .senseless
        | .error _ => .senseless
      else .silent
    | _ => .silent

/-- One or two digits that stand for a number in a range. -/
def isUnitOfTime (least most : Nat) (cs : List Char) : Bool :=
  let n := Text.valueOfDigits (cs.filterMap Text.decimalValue?)
  (cs.length = 1 || cs.length = 2) && cs.all Text.isDecimal && least ≤ n && n ≤ most

/-- Seconds, perhaps with up to six digits of a fraction. -/
def isSeconds (cs : List Char) : Bool :=
  match Text.cutAt? '.' cs with
  | none => isUnitOfTime 0 59 cs
  | some (whole, fraction) =>
    isUnitOfTime 0 59 whole && !fraction.isEmpty && fraction.length ≤ 6 &&
      fraction.all Text.isDecimal

/-- A time of day.  On a clock of twelve hours, minutes come with seconds only. -/
def isClockTime (halfDay : Bool) (cs : List Char) : Bool :=
  let isHour := if halfDay then isUnitOfTime 1 12 else isUnitOfTime 0 23
  match Text.splitOn ':' [] cs with
  | [h] => isHour h
  | [h, m] => !halfDay && isHour h && isUnitOfTime 0 59 m
  | [h, m, s] => isHour h && isUnitOfTime 0 59 m && isSeconds s
  | _ => false

/-- A character of a time of day. -/
def isClockChar (c : Char) : Bool := Text.isDecimal c || c = '.' || c = ':'

/-- The time of day that a text names. -/
def timeSense (cs : List Char) : Sense :=
  let cs := Text.stripChars cs
  let clock := cs.takeWhile isClockChar
  let rest := cs.drop clock.length
  let half := rest.dropWhile Text.isBlank
  let sense (holds : Bool) : Sense := if holds then .sensible else .senseless
  if clock.isEmpty then .silent
  else if half.isEmpty then sense (isClockTime false clock)
  else if isWord ["am", "pm"] half then
    sense (rest.length ≠ half.length && isClockTime true clock)
  else .silent

/-- The text before the word `at` between blanks and the text after it, within one line each. -/
def aroundAt? (before : List Char) : List Char → Option (List Char × List Char)
  | [] => none
  | c :: cs =>
    let here :=
      if Text.isBlank c then
        match cs.dropWhile Text.isBlank with
        | a :: t :: b :: r =>
          let after := r.dropWhile Text.isBlank
          if isWord ["at"] [a, t] && Text.isBlank b && !after.contains '\n' then
            some (before.reverse, after)
          else none
        | _ => none
      else none
    match here with
    | some parts => some parts
    | none => if c = '\n' then none else aroundAt? (c :: before) cs

/-- Whether a text names a day, a time of day, or both. -/
def checkDaytime (cs : List Char) : Except ScheduleFault Bool :=
  let cs := Text.stripChars cs
  match aroundAt? [] cs with
  | some (day, time) =>
    if daySense day ≠ .sensible then .error (.badDay (String.ofList day))
    else if timeSense time ≠ .sensible then .error (.badTime (String.ofList time))
    else .ok true
  | none =>
    if daySense cs = .senseless then .error (.badDay (String.ofList cs))
    else if timeSense cs = .senseless then .error (.badTime (String.ofList cs))
    else .ok (daySense cs = .sensible || timeSense cs = .sensible)

/-! ## Rotation and retention -/

/-- A text says when a log file is full. -/
def checkRotation (s : String) : Except ScheduleFault Unit := do
  let cs := s.toList
  if ← checkSize cs then return
  if ← checkDuration cs then return
  if isWord frequencies (Text.stripChars cs) then return
  if ← checkDaytime cs then return
  .error (.unknownRotation s)

/-- A text says how long a full log file is kept. -/
def checkRetention (s : String) : Except ScheduleFault Unit := do
  if ← checkDuration s.toList then return
  .error (.unknownRetention s)

end Log
end PassiveAggressive
