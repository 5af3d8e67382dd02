import FilterQuery.DatePattern.Basic

/-!
# Names in dates

The English names of months, weekdays and halves of the day, as date
patterns write them.
-/

namespace FilterQuery

/-- The months, in order. -/
def monthNames : List String :=
  ["January", "February", "March", "April", "May", "June", "July", "August", "September",
    "October", "November", "December"]

/-- The weekdays, from Monday. -/
def weekdayNames : List String :=
  ["Monday", "Tuesday", "Wednesday", "Thursday", "Friday", "Saturday", "Sunday"]

/-- The halves of the day. -/
def halfDayNames (capitals : Bool) : List (List Char) :=
  if capitals then ["AM".toList, "PM".toList] else ["am".toList, "pm".toList]

/-- Names in a style: a short name is the first three letters of the full
one. -/
def NameStyle.names (style : NameStyle) (full : List String) : List (List Char) :=
  full.map fun name =>
    match style with
    | .short => name.toList.take 3
    | .full => name.toList

end FilterQuery
