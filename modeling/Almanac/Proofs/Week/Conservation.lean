import Almanac.Proofs.Buckets
import Almanac.Proofs.Week.Built
import Mathlib.Data.List.Forall2

/-! # No item is lost or shown twice

A column of a week shows the items of its day: each as one cell of a band, as one item of
a bucket or as one of the identifiers behind the link to the rest, and beside blanks it
holds nothing else (`ShowsOnce`).  The band cells are those of the items that want a band,
because these are in different rows (`Built.filter_isEntry_perm`); the other items are kept
by grouping and truncating.  `showsOnce_packWeeks` says this of every week of a calendar.
-/
namespace Almanac

namespace BandCell

/-- Whether a cell shows an item: as the beginning of its band, with the flags of the
band, or as a day under it. -/
def Shows : BandCell → Occurrence → Prop
  | entry shown _, o => ∃ continuation continues,
      shown = { o with continuation := continuation, continues := continues }
  | covered shown, o => shown = o
  | blank _, _ => False

/-- The key of the item that a cell shows. -/
def key? : BandCell → Option String
  | entry o _ => some o.slotKey
  | covered o => some o.slotKey
  | blank _ => none

end BandCell

/-- **Each item of a day once**: in a band cell, in a bucket or hidden. -/
def ShowsOnce (items : List Occurrence) (cells : List BandCell) (single : SingleDayColumn) :
    Prop :=
  ∃ banded listed hidden : List Occurrence,
    (banded ++ listed ++ hidden).Perm items ∧
      List.Forall₂ BandCell.Shows (cells.filter BandCell.isEntry) banded ∧
      single.buckets.flatMap TimeBucket.items = listed ∧
      single.hiddenIds = hidden.map Occurrence.dateId

namespace Layout

variable {l : Layout} {start : Date} {focal : Option Nat} {row : String → Nat}
  {slots : SlotRows} {w : WeekBuckets} {column : Nat} {o : Occurrence}

theorem shows_cellOf (column : Nat) (o : Occurrence) :
    (l.cellOf start focal column o).Shows o := by
  unfold cellOf
  split
  · rfl
  · exact ⟨_, _, rfl⟩

theorem key?_cellOf (column : Nat) (o : Occurrence) :
    (l.cellOf start focal column o).key? = some o.slotKey := by
  unfold cellOf
  split <;> rfl

/-- The cells of different items differ. -/
theorem slotKey_eq_of_cellOf_eq {o o' : Occurrence}
    (h : l.cellOf start focal column o = l.cellOf start focal column o') :
    o.slotKey = o'.slotKey := by
  have hkey := congrArg BandCell.key? h
  rw [key?_cellOf, key?_cellOf] at hkey
  exact Option.some.inj hkey

/-- The cells that are no blanks are those of the items, each once. -/
theorem Built.filter_isEntry_perm (hcoherent : l.agenda.Coherent l.range)
    (hb : l.Built start focal row slots w) (hcolumn : column < daysPerWeek) :
    ((w.cells column).filter BandCell.isEntry).Perm
      ((l.banded start focal column).map (l.cellOf start focal column)) := by
  refine (List.perm_ext_iff_of_nodup ?_ ?_).mpr fun cell => ?_
  · refine List.pairwise_filter.mpr (List.pairwise_iff_getElem.mpr ?_)
    intro i j hi hj hij hentry hentry' hsame
    -- A cell is in the row of its key, so equal cells are in one row.
    obtain ⟨o, -, hrow, hcell⟩ :=
      hb.exists_of_isEntry hcolumn (List.getElem?_eq_getElem hi) hentry
    obtain ⟨o', -, hrow', hcell'⟩ :=
      hb.exists_of_isEntry hcolumn (List.getElem?_eq_getElem hj) hentry'
    have hkey := slotKey_eq_of_cellOf_eq (hcell.trans (hsame.trans hcell'.symm))
    rw [← hrow, ← hrow', hkey] at hij
    exact absurd hij (lt_irrefl _)
  · refine List.pairwise_map.mpr ((List.pairwise_map.mp
      (nodup_slotKey_banded hcoherent column)).imp fun hne hcell => ?_)
    exact hne (slotKey_eq_of_cellOf_eq hcell)
  · rw [List.mem_filter, List.mem_map]
    constructor
    · rintro ⟨hmem, hentry⟩
      obtain ⟨r, hr⟩ := List.mem_iff_getElem?.mp hmem
      obtain ⟨o, ho, -, hcell⟩ := hb.exists_of_isEntry hcolumn hr hentry
      exact ⟨o, ho, hcell⟩
    · rintro ⟨o, ho, rfl⟩
      exact ⟨List.mem_of_getElem? (hb.getElem?_cells hcolumn ho), isEntry_cellOf column o⟩

/-- **A column of a built week shows each item of its day once.** -/
theorem showsOnce_buildWeek (hcoherent : l.agenda.Coherent l.range) {packer : WeekPacker}
    (hfirst : start.weekday.fromSunday = packer.firstDay) (hcolumn : column < daysPerWeek)
    (hview : l.inView focal (start.addDays column)) :
    ShowsOnce (l.agenda.on (start.addDays column))
      ((l.buildWeek packer start focal).1.cells column)
      ((l.buildWeek packer start focal).1.single column) := by
  obtain ⟨row, hb⟩ : ∃ row, l.Built start focal row _ (l.buildWeek packer start focal).1 :=
    built_buildWeek hcoherent hfirst
  have hshows : List.Forall₂ BandCell.Shows
      ((l.banded start focal column).map (l.cellOf start focal column))
      (l.banded start focal column) :=
    List.forall₂_map_left_iff.mpr (List.forall₂_same.mpr fun o _ => shows_cellOf column o)
  obtain ⟨banded, hcells, hbanded⟩ :=
    List.perm_comp_forall₂ (hb.filter_isEntry_perm hcoherent hcolumn) hshows
  obtain ⟨hidden, hids, hlisted⟩ := l.exists_singleDayColumn (start.addDays column)
    (l.singles (start.addDays column))
  have hsingle : (l.buildWeek packer start focal).1.single column =
      l.singleDayColumn (start.addDays column) (l.singles (start.addDays column)) := by
    rw [hb.single column hcolumn, singleColumn, if_pos hview]
  have hall : l.banded start focal column = (l.agenda.on (start.addDays column)).filter
      fun o => o.wantsBand l.style.multiDayTheme := if_pos hview
  refine ⟨banded, _, hidden, ?_, hcells, rfl, hsingle ▸ hids⟩
  rw [hsingle, List.append_assoc]
  refine (hbanded.append hlisted).trans ?_
  rw [hall]
  exact List.filter_append_perm _ _

/-! ## The weeks of a calendar -/

/-- The month in focus: that of a month, none of a week. -/
def focus (l : Layout) : Option Nat :=
  match l.range.granularity with
  | .month => some l.range.focalMonth.2
  | _ => none

theorem fromSunday_of_mem_weekStartsFrom {start last d : Date}
    (h : d ∈ weekStartsFrom start last) : d.weekday.fromSunday = start.weekday.fromSunday := by
  obtain ⟨n, -, rfl⟩ := List.mem_map.mp (List.mem_filter.mp h).1
  exact start.fromSunday_addDays_weeks n

theorem fromSunday_of_mem_monthWeekStarts (hfirst : l.style.firstDay ≤ 6) {y : Int} {m : Nat}
    {d : Date} (h : d ∈ l.monthWeekStarts y m) : d.weekday.fromSunday = l.style.firstDay := by
  unfold monthWeekStarts at h
  split at h
  · rw [fromSunday_of_mem_weekStartsFrom h, Date.fromSunday_weekStart hfirst]
  · exact absurd h List.not_mem_nil

/-- Every week of a calendar is built from the start of a row of the month in focus, or of the
row of the first date. -/
theorem exists_of_mem_packWeeks {packerFirstDay : Nat} (hw : w ∈ l.packWeeks packerFirstDay) :
    ∃ start : Date,
      (start ∈ l.monthWeekStarts l.range.focalMonth.1 l.range.focalMonth.2 ∨
        start = l.range.firstDate.weekStart l.style.firstDay) ∧
      (l.buildWeek { firstDay := packerFirstDay } start l.focus).1 = w := by
  unfold packWeeks at hw
  dsimp only at hw
  split at hw
  · rename_i hmonth
    split at hw
    · exact absurd hw List.not_mem_nil
    · obtain ⟨start, hstart, rfl⟩ := List.mem_map.mp hw
      exact ⟨start, .inl hstart, by rw [focus, hmonth]⟩
  · rename_i hweek
    obtain rfl := List.mem_singleton.mp hw
    exact ⟨_, .inr rfl, by rw [focus, hweek]⟩
  · exact absurd hw List.not_mem_nil

/-- The start of every week of a calendar is the first day of the week. -/
theorem mem_packWeeks (hfirst : l.style.firstDay ≤ 6) {packerFirstDay : Nat}
    (hw : w ∈ l.packWeeks packerFirstDay) :
    ∃ start : Date, start.weekday.fromSunday = l.style.firstDay ∧
      (l.buildWeek { firstDay := packerFirstDay } start l.focus).1 = w := by
  obtain ⟨start, hstart, hweek⟩ := exists_of_mem_packWeeks hw
  refine ⟨start, ?_, hweek⟩
  rcases hstart with hmonth | rfl
  · exact fromSunday_of_mem_monthWeekStarts hfirst hmonth
  · exact Date.fromSunday_weekStart hfirst _

/-- **No item is lost or shown twice.**  In every week of a calendar, a column of a day in
view shows each item that was collected for that day once, and the items of a day have
different keys. -/
theorem showsOnce_packWeeks (c : Collector) (style : Style) (range : Range) (viewId : String)
    (rendered : List Int) (records : List Record) (hfirst : style.firstDay ≤ 6)
    (hspaced : c.Spaced range records) :
    ∀ w ∈ (c.layout style range viewId rendered records).packWeeks style.firstDay,
      ∀ column < daysPerWeek,
        (c.layout style range viewId rendered records).inView
            (c.layout style range viewId rendered records).focus (w.date column) →
          ShowsOnce ((c.collect range rendered records).1.on (w.date column))
              (w.cells column) (w.single column) ∧
            (((c.collect range rendered records).1.on (w.date column)).map
              Occurrence.slotKey).Nodup := by
  intro w hw column hcolumn hview
  obtain ⟨start, hstart, rfl⟩ := mem_packWeeks hfirst hw
  have hcoherent : (c.collect range rendered records).1.Coherent range :=
    c.coherent_collect hspaced
  refine ⟨?_, hcoherent.distinct _⟩
  exact showsOnce_buildWeek (l := c.layout style range viewId rendered records) hcoherent
    hstart hcolumn hview

theorem showsOnce_packWeeks_april :
    (aprilLayout.style.firstDay ≤ 6 ∧ threeWeeks.Spaced Occurrence.april aprilRecords) ∧
      ∀ w ∈ aprilLayout.packWeeks 0, ∀ column < daysPerWeek,
        aprilLayout.inView aprilLayout.focus (w.date column) →
          ShowsOnce (aprilLayout.agenda.on (w.date column)) (w.cells column) (w.single column) ∧
            ((aprilLayout.agenda.on (w.date column)).map Occurrence.slotKey).Nodup :=
  ⟨by decide +kernel,
    showsOnce_packWeeks threeWeeks {} Occurrence.april "calendar" [] aprilRecords (by decide)
      (by decide +kernel)⟩

end Layout
end Almanac
