import BuildMonitor.Decimal.Layout

/-!
# Sizes for people

A size in bytes is shown in the largest unit that leaves at least one, with two decimals. The size
is first taken to the nearest binary64 value, which is then divided by 1024 from one unit to the
next; the decimals are rounded once, a half going to the even neighbour.

The unit is chosen by the size before the decimals are rounded, so a size just below a unit may be
shown as `1024.00` of the smaller one.

Main definitions: `inUnit`, `sizeText`.
-/

namespace BuildMonitor.Artifact

open BuildMonitor.Decimal

/-- A value with two decimals and a unit. -/
def withUnit (value : Binary64) (unit : String) : String := s!"{hundredthsText value} {unit}"

/-- Shows a value in the first of some units that leaves less than 1024, else in the largest. -/
def inUnit (value : Binary64) : List String → String
  | [] => withUnit value "TB"
  | unit :: larger =>
    if value.isBelow 1024 then withUnit value unit else inUnit (value.overNatural 1024) larger

/-- The text of a size; a size that is not known is shown as such. -/
def sizeText : Option Nat → String
  | none => "N/A"
  | some size => inUnit (.ofInt size) ["B", "KB", "MB", "GB"]

end BuildMonitor.Artifact
