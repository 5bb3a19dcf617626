import HtmlTemplate.Decimal.Binary64
import HtmlTemplate.Decimal.Numeral
import HtmlTemplate.Dictionary

/-!
# TOML values

The values of the configuration language TOML, and how its dates and times are written.
-/

namespace HtmlTemplate.Toml

/-- A day of the calendar. -/
structure Date where
  year : Nat
  month : Nat
  day : Nat
deriving DecidableEq, Repr

/-- A time of day. -/
structure Time where
  hour : Nat
  minute : Nat
  second : Nat
  nanosecond : Nat
deriving DecidableEq, Repr

/-- The distance of a time from universal time. -/
inductive Offset where
  | universal
  | fromUniversal (minutes : Int)
deriving DecidableEq, Repr

/-- A date, a time of day, or both, possibly with the distance from universal time. -/
structure Moment where
  date : Option Date := none
  time : Option Time := none
  offset : Option Offset := none
deriving DecidableEq, Repr

open Decimal (paddedNatural)

/-- A date as it is written. -/
def Date.written (date : Date) : Text :=
  paddedNatural 4 date.year ++ '-' :: paddedNatural 2 date.month ++
    '-' :: paddedNatural 2 date.day

/-- A time as it is written, with as many places of the second as it needs. -/
def Time.written (time : Time) : Text :=
  let places :=
    if time.nanosecond = 0 then []
    else '.' :: Text.dropEndWhile (· = '0') (paddedNatural 9 time.nanosecond)
  paddedNatural 2 time.hour ++ ':' :: paddedNatural 2 time.minute ++
    ':' :: paddedNatural 2 time.second ++ places

/-- A distance from universal time as it is written. -/
def Offset.written : Offset → Text
  | .universal => ['Z']
  | .fromUniversal minutes =>
    let sign := if minutes < 0 then '-' else '+'
    sign :: paddedNatural 2 (minutes.natAbs / 60) ++ ':' :: paddedNatural 2 (minutes.natAbs % 60)

/-- A date and time as it is written. -/
def Moment.written (moment : Moment) : Text :=
  let date := (moment.date.map Date.written).getD []
  let between := if moment.date.isSome && moment.time.isSome then ['T'] else []
  let time := (moment.time.map Time.written).getD []
  date ++ between ++ time ++ (moment.offset.map Offset.written).getD []

/-- A value. The entries of a table are in the order of their keys. -/
inductive Value where
  | text (value : Text)
  | integer (value : Int)
  | float (value : Decimal.Binary64)
  | boolean (value : Bool)
  | moment (value : Moment)
  | array (items : List Value)
  | table (entries : List (Text × Value))
deriving Inhabited

/-- A table: values under keys, in the order of the keys. -/
abbrev Table := Dictionary Value

end HtmlTemplate.Toml
