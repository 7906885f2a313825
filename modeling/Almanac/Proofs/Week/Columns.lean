import Almanac.Grid.Week
import Almanac.Proofs.Appearances
import Almanac.Proofs.Civil.WeekRow

/-! # The columns of a week row

The items of a column that want a band are `Layout.banded`.  A band of an item ends on
`Layout.bandEnd`, a date that depends on the days of the item only, so the fragments of one
occurrence agree on the column behind the band, `Layout.reach`.
-/
namespace Almanac

/-- A week row that begins on a weekday has seven columns. -/
theorem Date.weekColumn_lt {firstDay : Nat} (h : firstDay ≤ 6) (d : Date) :
    d.weekColumn firstDay < daysPerWeek := by
  rw [weekColumn, signedWeekColumn_eq h, daysPerWeek, UInt64.size]
  omega

/-- So a band can be measured from every column of it. -/
theorem columnFits_weekColumn {firstDay : Nat} (h : firstDay ≤ 6) (d : Date) :
    columnFits (d.weekColumn firstDay) = true := by
  have hcolumn := d.weekColumn_lt h
  rw [daysPerWeek] at hcolumn
  rw [columnFits, UInt64.size, decide_eq_true_iff]
  omega

/-- The layout of what a collector makes of records. -/
def Collector.layout (c : Collector) (style : Style) (range : Range) (viewId : String)
    (rendered : List Int) (records : List Record) : Layout where
  style := style
  range := range
  agenda := (c.collect range rendered records).1
  viewId := viewId

namespace Layout

variable (l : Layout) (start : Date) (focal : Option Nat)

/-- The items of a column that want a band. -/
def banded (column : Nat) : List Occurrence :=
  if l.inView focal (start.addDays column) then
    (l.agenda.on (start.addDays column)).filter fun o => o.wantsBand l.style.multiDayTheme
  else []

/-- The last date of the row on which a band of an item is. -/
def bandEnd (o : Occurrence) : Date :=
  min (min o.lastDay (start.addDays 6)) l.range.lastDate

/-- The column behind a band of an item. -/
def reach (o : Occurrence) : Nat :=
  (start.daysUntil (l.bandEnd start o)).toNat + 1

variable {l start focal}

theorem mem_banded {column : Nat} {o : Occurrence} :
    o ∈ l.banded start focal column ↔
      l.inView focal (start.addDays column) ∧ o ∈ l.agenda.on (start.addDays column) ∧
        o.wantsBand l.style.multiDayTheme := by
  unfold banded
  split
  · rename_i h
    rw [List.mem_filter]
    exact ⟨fun ho => ⟨h, ho⟩, fun ho => ho.2⟩
  · rename_i h
    exact ⟨fun ho => absurd ho List.not_mem_nil, fun ho => absurd ho.1 h⟩

/-- Without a theme for them, no item wants a band. -/
theorem multiDayTheme_of_mem_banded {column : Nat} {o : Occurrence}
    (ho : o ∈ l.banded start focal column) : l.style.multiDayTheme = true := by
  obtain ⟨-, -, hwants⟩ := mem_banded.mp ho
  exact (Bool.and_eq_true_iff.mp hwants).1

section
variable (hcoherent : l.agenda.Coherent l.range) {column column' : Nat} {o o' : Occurrence}
include hcoherent

theorem nodup_slotKey_banded (column : Nat) :
    ((l.banded start focal column).map Occurrence.slotKey).Nodup := by
  unfold banded
  split
  · exact (hcoherent.distinct _).sublist (List.filter_sublist.map _)
  · exact List.nodup_nil

/-- A band of an item of a column covers that column and ends in the row. -/
theorem addDays_le_bandEnd (hcolumn : column < daysPerWeek)
    (ho : o ∈ l.banded start focal column) : start.addDays column ≤ l.bandEnd start o := by
  obtain ⟨-, hon, -⟩ := mem_banded.mp ho
  obtain ⟨⟨-, hlast⟩, ⟨-, hrange⟩, -⟩ := hcoherent.onCoveredDay hon
  have hrow : start.addDays column ≤ start.addDays 6 := by
    rw [daysPerWeek] at hcolumn
    rw [Date.le_def, Date.dayNumber_addDays, Date.dayNumber_addDays]
    omega
  exact le_min (le_min hlast hrow) hrange

theorem lt_reach (hcolumn : column < daysPerWeek) (ho : o ∈ l.banded start focal column) :
    column < l.reach start o := by
  have hend := addDays_le_bandEnd hcoherent hcolumn ho
  rw [Date.le_def, Date.dayNumber_addDays] at hend
  rw [reach, Date.daysUntil]
  omega

/-- The packer's count of columns is the distance to the column behind the band. -/
theorem colspanFor_eq (hcolumn : column < daysPerWeek) (ho : o ∈ l.banded start focal column) :
    colspanFor (start.addDays column) column o.lastDay l.range.lastDate =
      l.reach start o - column := by
  have hend := addDays_le_bandEnd hcoherent hcolumn ho
  rw [daysPerWeek] at hcolumn
  rw [Date.le_def, Date.dayNumber_addDays] at hend
  rw [bandEnd, Date.dayNumber_min, Date.dayNumber_min, Date.dayNumber_addDays] at hend
  simp only [colspanFor, reach, bandEnd, Date.daysUntil, Date.dayNumber_min,
    Date.dayNumber_addDays, daysPerWeek]
  omega

/-- Fragments of one occurrence agree on where its band ends. -/
theorem reach_eq_of_slotKey_eq (ho : o ∈ l.banded start focal column)
    (ho' : o' ∈ l.banded start focal column') (hkey : o.slotKey = o'.slotKey) :
    l.reach start o = l.reach start o' := by
  have hlast := (hcoherent.sameDays (mem_banded.mp ho).2.1 (mem_banded.mp ho').2.1 hkey).2
  rw [reach, bandEnd, hlast]
  rfl

/-- A later fragment of an occurrence is not on its first day. -/
theorem firstDay_ne_of_slotKey_eq (ho : o ∈ l.banded start focal column)
    (ho' : o' ∈ l.banded start focal column') (hkey : o.slotKey = o'.slotKey)
    (hlt : column < column') : o'.firstDay ≠ start.addDays column' := by
  have hfirst := (hcoherent.sameDays (mem_banded.mp ho).2.1 (mem_banded.mp ho').2.1 hkey).1
  have hle := (hcoherent.onCoveredDay (mem_banded.mp ho).2.1).1.1
  rw [← hfirst]
  intro heq
  rw [heq, Date.le_def, Date.dayNumber_addDays, Date.dayNumber_addDays] at hle
  omega

end

/-- A band ends in the row. -/
theorem reach_le (o : Occurrence) : l.reach start o ≤ daysPerWeek := by
  simp only [reach, bandEnd, Date.daysUntil, Date.dayNumber_min, Date.dayNumber_addDays,
    daysPerWeek]
  omega

/-! ## Two calendars -/

/-- A collector that repeats what has a rule every week for three weeks. -/
def threeWeeks : Collector where
  zones := .listed
  expander o _ _ := .ok <| (List.range 3).map fun n : Nat =>
    (o.start.addSeconds (604800 * n), o.finish.addSeconds (604800 * n))

/-- Six days of April 2025 from the third on, and two days from the fourth on that are
repeated every week. -/
def aprilRecords : List Record :=
  [{ entityId := 9, values := [{ value := some "1743670800", endValue := some "1744131600" }] },
    { entityId := 10
      values := [{
        value := some "1743757200"
        endValue := some "1743847200"
        rule := some "FREQ=WEEKLY;COUNT=3" }] }]

/-- The calendar of April 2025. -/
def aprilLayout : Layout :=
  threeWeeks.layout {} Occurrence.april "calendar" [] aprilRecords

/-- The last seven dates of the calendar, from a Tuesday on. -/
def lastWeek : Range where
  start := ⟨8210266272000, 0⟩
  finish := ⟨8210266876799, 0⟩
  granularity := .week
  zone := .utc
  today := ⟨20193⟩
  firstDay := 2

/-- The last three days of the calendar. -/
def lastWeekRecords : List Record :=
  [{ entityId := 1
     values := [{ value := some "8210266700000", endValue := some "8210266876799" }] }]

/-- The calendar of the last seven dates. -/
def lastWeekLayout : Layout :=
  threeWeeks.layout { firstDay := 2 } lastWeek "calendar" [] lastWeekRecords

end Layout
end Almanac
