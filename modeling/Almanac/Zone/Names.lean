import Almanac.Zone.Africa
import Almanac.Zone.America
import Almanac.Zone.Asia
import Almanac.Zone.Europe
import Almanac.Zone.Pacific

/-! # Listed zones

The zones whose clock changes are listed here.  The library works with any look-up of
zones; the program uses this one.  A name is matched letter for letter, so `utc` names no
zone, and a second name of a zone is kept as it was given.
-/
namespace Almanac

namespace Zone

/-- The clocks five hours behind universal time; the sign in the name counts westward. -/
def gmtPlus5 : Zone :=
  ⟨"Etc/GMT+5", -18000, []⟩

/-- All listed zones. -/
def all : List Zone :=
  [utc, newYork, berlin, kolkata, kathmandu, lordHowe, saoPaulo, kiritimati, pagoPago,
    london, sydney, stJohns, tokyo, havana, beirut, apia, troll, gmtPlus5, usEastern,
    est5edt, dublin, casablanca, cairo, kwajalein]

end Zone

/-- The listed zone of a name. -/
def Zones.listed : Zones := fun name =>
  Zone.all.find? fun z => z.name == name

end Almanac
