import StoreBench.Decimal.Shortest

/-!
Contract: the text of a double.

Owns:
- `Layout`, the decisions of one printed form, and `Layout.render`;
- the forms used by messages, configuration files, descriptions and JSON reports;
- `fixed`, a given number of decimal places.
-/

namespace StoreBench.Decimal

/-- The decisions of one printed form. -/
structure Layout where
  /-- Where a tie between two shortest decimals goes. -/
  tie : Tie
  /-- Whether a whole number is followed by a point and a zero. -/
  pointAfterWhole : Bool
  /-- The least and the greatest exponent of the leading digit that are written without an
  exponent; `none` if an exponent is never written. -/
  positional : Option (Int × Int)
  /-- Whether a positive exponent has a sign. -/
  plusOnExponent : Bool
  notANumber : String
  infinity : String

/-- Messages: no exponent, and whole numbers stand alone. -/
def Layout.plain : Layout where
  tie := .up
  pointAfterWhole := false
  positional := none
  plusOnExponent := false
  notANumber := "NaN"
  infinity := "inf"

/-- Configuration files: no exponent, and every number has a point. -/
def Layout.configuration : Layout where
  tie := .up
  pointAfterWhole := true
  positional := none
  plusOnExponent := false
  notANumber := "nan"
  infinity := "inf"

/-- Descriptions: every number has a point or an exponent. -/
def Layout.description : Layout where
  tie := .up
  pointAfterWhole := true
  positional := some (-4, 15)
  plusOnExponent := false
  notANumber := "NaN"
  infinity := "inf"

/-- JSON reports: every number has a point or an exponent, and what is not finite has no
number. -/
def Layout.json : Layout where
  tie := .toEven
  pointAfterWhole := true
  positional := some (-5, 15)
  plusOnExponent := true
  notANumber := "null"
  infinity := "null"

/-- `digits · 10 ^ exponent` written out without an exponent. -/
def positionalText (pointAfterWhole : Bool) (decimal : Scientific) : String :=
  let digits := toString decimal.digits
  if 0 ≤ decimal.exponent then
    let whole := digits.pushn '0' decimal.exponent.toNat
    if pointAfterWhole then whole ++ ".0" else whole
  else
    let places := (-decimal.exponent).toNat
    let padded := List.leftpad (places + 1) '0' digits.toList
    let split := padded.length - places
    String.ofList (padded.take split ++ '.' :: padded.drop split)

/-- `digits · 10 ^ exponent` written as one digit, further digits and an exponent. -/
def scientificText (plusOnExponent : Bool) (decimal : Scientific) : String :=
  let digits := (toString decimal.digits).toList
  let lead := decimal.exponent + (digits.length - 1 : Nat)
  let mantissa := match digits with
    | first :: [] => [first]
    | first :: rest => first :: '.' :: rest
    | [] => []
  let sign := if lead < 0 then "e-" else if plusOnExponent then "e+" else "e"
  String.ofList mantissa ++ sign ++ toString lead.natAbs

/-- The text of a positive decimal. -/
def Layout.renderDecimal (layout : Layout) (decimal : Scientific) : String :=
  let lead := decimal.exponent + ((toString decimal.digits).length - 1 : Nat)
  match layout.positional with
  | some (least, greatest) =>
    if least ≤ lead ∧ lead ≤ greatest then positionalText layout.pointAfterWhole decimal
    else scientificText layout.plusOnExponent decimal
  | none => positionalText layout.pointAfterWhole decimal

/-- A minus sign where one is due. -/
def signText (negative : Bool) : String := if negative then "-" else ""

def Layout.render (layout : Layout) : Binary64 → String
  | .notANumber => layout.notANumber
  | .infinite negative =>
    if layout.infinity = layout.notANumber then layout.infinity
    else signText negative ++ layout.infinity
  | .finite negative 0 _ =>
    signText negative ++ if layout.pointAfterWhole then "0.0" else "0"
  | .finite negative significand exponent =>
    signText negative ++ layout.renderDecimal (shortest layout.tie significand exponent)

def Layout.text (layout : Layout) (value : Float) : String :=
  layout.render (Binary64.ofFloat value)

/-- The digits of `significand · 2 ^ exponent` to `places` decimal places, as an integer
number of units of the last place; ties go to the even unit. -/
def unitsAt (places significand : Nat) (exponent : Int) : Nat :=
  roundDiv .toEven (significand * powerOf 2 exponent * powerOf 10 places) (powerOf 2 (-exponent))

/-- A number of units of the last of `places` decimal places, written with a point. -/
def unitsText (places units : Nat) : String :=
  match places with
  | 0 => toString units
  | _ => positionalText false ⟨units, -(places : Int)⟩

/-- The text of a quantity with exactly `places` decimal places. -/
def renderFixed (places : Nat) : Binary64 → String
  | .notANumber => "NaN"
  | .infinite negative => signText negative ++ "inf"
  | .finite negative significand exponent =>
    signText negative ++ unitsText places (unitsAt places significand exponent)

def fixed (places : Nat) (value : Float) : String :=
  renderFixed places (Binary64.ofFloat value)

end StoreBench.Decimal
