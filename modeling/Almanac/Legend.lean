import Almanac.Record
import Almanac.Style
import Almanac.Text.Hex

/-! # Legends

A legend gives occurrences colored stripes by the type of their record or by the terms it
refers to.  White stands for no stripe.
-/
namespace Almanac

/-- What the stripes of a legend depend on. -/
inductive LegendMode where
  | none | type | taxonomy
  deriving DecidableEq, Repr

/-- The colors and labels of a legend. -/
structure Legend where
  mode : LegendMode := .none
  typeColors : Dictionary := ∅
  typeLabels : Dictionary := ∅
  taxonomyColors : Dictionary := ∅
  deriving DecidableEq, Repr

/-- The color that stands for no stripe. -/
def blankColor : String := "#ffffff"

/-- Whether a text is a color: a number sign and three or six hexadecimal digits. -/
def isHexColor (s : String) : Bool :=
  match s.toList with
  | '#' :: digits =>
    (digits.length == 3 || digits.length == 6) &&
      digits.all fun c => (Text.hexValue? c).isSome
  | _ => false

namespace Legend

variable (l : Legend)

/-- The first text in place of a color that is none, if there is one. -/
def fault? : Option SettingsError :=
  ((l.typeColors.values ++ l.taxonomyColors.values).find? fun c => !isHexColor c).map .badColor

/-- The stripe of a color, unless the color stands for none. -/
def stripe? (color : Option String) (label : String) : Option Stripe :=
  match color with
  | some c => if c = blankColor then none else some ⟨label, c⟩
  | none => none

/-- The stripes a legend gives to the occurrences of a record. -/
def stripes (r : Record) : List Stripe :=
  match l.mode with
  | .none => []
  | .type =>
    let kind := r.legendType
    (stripe? (l.typeColors.get? kind) ((l.typeLabels.get? kind).getD kind)).toList
  | .taxonomy => r.terms.filterMap fun t => stripe? (l.taxonomyColors.get? t.id) t.label

/-- An occurrence with the stripes of its record added. -/
def apply (r : Record) (o : Occurrence) : Occurrence :=
  { o with stripes := o.stripes ++ l.stripes r }

end Legend
end Almanac
