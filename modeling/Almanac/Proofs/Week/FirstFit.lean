import Almanac.Proofs.Civil.Month
import Almanac.Proofs.Week.Built
import Mathlib.Data.List.Perm.Subperm

/-! # First fit wastes no row

The bands of a week need as many rows as there are items that want a band on its busiest
day, and first fit takes no more: where a band begins, the rows above it are covered, and
every band that covers a day has an item on it (`Built.exists_banded_of_holder`).  The one
exception is the last date of the calendar, which no listing of days reaches: a band may
cover it, but it has no items.

So the number of band rows is the greatest number of such items on one day
(`totalRows_buildWeek`), and the slot rows agree with the columns of cells exactly if no
band reaches that date (`Layout.BandsListed`).
-/
namespace Almanac

namespace Layout

variable (l : Layout) (start : Date) (focal : Option Nat)

/-- Whether the month in focus, if there is one, is the range. -/
def Focuses : Prop :=
  focal = none ∨ ∃ y m, l.range.IsMonth y m ∧ focal = some m

/-- Whether no band of a week reaches the last date of the calendar. -/
def BandsListed : Prop :=
  ∀ column < daysPerWeek, ∀ o ∈ l.banded start focal column, l.bandEnd start o < Date.last

/-- The greatest number of items that want a band on one day of a week. -/
def busiest : Nat :=
  ((List.range daysPerWeek).map fun column => (l.banded start focal column).length).foldl max 0

variable {l start focal} {row : String → Nat} {slots : SlotRows} {w : WeekBuckets}
  {column : Nat} {o : Occurrence}

/-- In the range, what follows a day in view is in view. -/
theorem inView_of_le (hfocal : l.Focuses focal) {d e : Date} (hd : l.inView focal d)
    (hde : d ≤ e) (he : e ≤ l.range.lastDate) : l.inView focal e := by
  simp only [inView, Range.contains, Bool.and_eq_true, decide_eq_true_eq] at hd ⊢
  have hfirst := hd.1.1.trans hde
  refine ⟨⟨hfirst, he⟩, ?_⟩
  rcases hfocal with rfl | ⟨y, m, hmonth, rfl⟩
  · rfl
  · rw [Option.all_some, hmonth.month_eq hfirst he]
    exact beq_self_eq_true m

theorem lt_last_of_mem_banded (hcoherent : l.agenda.Coherent l.range)
    (ho : o ∈ l.banded start focal column) : start.addDays column < Date.last :=
  (hcoherent.onCoveredDay (mem_banded.mp ho).2.1).2.2

/-- The columns a band covers have dates up to its end. -/
theorem addDays_le_bandEnd_of_lt_reach {y : Nat} (hstart : start ≤ l.bandEnd start o)
    (hy : y < l.reach start o) : start.addDays y ≤ l.bandEnd start o := by
  rw [reach, Date.daysUntil] at hy
  rw [Date.le_def] at hstart ⊢
  rw [Date.dayNumber_addDays]
  omega

theorem start_le_bandEnd (hcoherent : l.agenda.Coherent l.range) (hcolumn : column < daysPerWeek)
    (ho : o ∈ l.banded start focal column) : start ≤ l.bandEnd start o := by
  refine le_trans ?_ (addDays_le_bandEnd hcoherent hcolumn ho)
  rw [Date.le_def, Date.dayNumber_addDays]
  omega

/-- A band has an item on every listed day it covers. -/
theorem exists_banded_of_lt_reach (hcoherent : l.agenda.Coherent l.range)
    (hfocal : l.Focuses focal) (hcolumn : column < daysPerWeek)
    (ho : o ∈ l.banded start focal column) {y : Nat} (hle : column ≤ y)
    (hy : y < l.reach start o) (hlast : start.addDays y < Date.last) :
    ∃ o' ∈ l.banded start focal y, o'.slotKey = o.slotKey := by
  rcases hle.eq_or_lt with rfl | hlt
  · exact ⟨o, ho, rfl⟩
  · have hend := addDays_le_bandEnd_of_lt_reach (start_le_bandEnd hcoherent hcolumn ho) hy
    have hrange : start.addDays y ≤ l.range.lastDate := hend.trans (min_le_right _ _)
    have hcovered : start.addDays y ≤ o.lastDay :=
      hend.trans ((min_le_left _ _).trans (min_le_left _ _))
    have hdays : start.addDays column < start.addDays y := by
      rw [Date.lt_def, Date.dayNumber_addDays, Date.dayNumber_addDays]
      omega
    obtain ⟨hview, hon, hwants⟩ := mem_banded.mp ho
    obtain ⟨o', hon', hkey, hwants'⟩ :=
      hcoherent.goesOn hon hwants hdays hcovered hrange hlast
    exact ⟨o', mem_banded.mpr ⟨inView_of_le hfocal hview hdays.le hrange, hon', hwants'⟩, hkey⟩

section
variable (hcoherent : l.agenda.Coherent l.range) (hfocal : l.Focuses focal)
  (hb : l.Built start focal row slots w)
include hcoherent hfocal hb

/-- A slot that is held on a listed day has an item of its key there. -/
theorem Built.exists_banded_of_holder {r y : Nat} {k : String}
    (hheld : slots.holder? r y = some k) (hlast : start.addDays y < Date.last) :
    row k = r ∧ ∃ o ∈ l.banded start focal y, o.slotKey = k := by
  obtain ⟨hrow, x, o, hbegun, rfl, hxy, hy⟩ := hb.packed.holder.mp hheld
  obtain ⟨hx, ho⟩ := begun_nil_iff.mp hbegun
  exact ⟨hrow, exists_banded_of_lt_reach hcoherent hfocal hx ho hxy hy hlast⟩

/-! ## The number of rows -/

omit hfocal in
/-- The rows of the items of a column are different. -/
theorem nodup_rows (hcolumn : column < daysPerWeek) :
    ((l.banded start focal column).map fun o => row o.slotKey).Nodup := by
  refine List.pairwise_map.mpr ((List.pairwise_map.mp
    (nodup_slotKey_banded hcoherent column)).imp_of_mem fun ho ho' hne hrow => ?_)
  exact hne (hb.packed.slotKey_eq_of_row_eq hcoherent hcolumn
    (begun_nil_iff.mpr ⟨hcolumn, ho⟩) (begun_nil_iff.mpr ⟨hcolumn, ho'⟩) hrow)

/-- **No band is in a lower row than it must be**: where it begins, all rows above it are
taken by other items of that day. -/
theorem row_lt_busiest (hcolumn : column < daysPerWeek)
    (ho : o ∈ l.banded start focal column) : row o.slotKey < l.busiest start focal := by
  obtain ⟨x, o₀, hbegun, hkey, habove⟩ :=
    hb.packed.blocked (begun_nil_iff.mpr ⟨hcolumn, ho⟩)
  obtain ⟨hx, ho₀⟩ := begun_nil_iff.mp hbegun
  -- On the day the band begins, every row up to its own has an item.
  have hrows : ∀ r ≤ row o.slotKey,
      r ∈ (l.banded start focal x).map fun o => row o.slotKey := by
    intro r hr
    rcases hr.eq_or_lt with rfl | hr
    · exact List.mem_map.mpr ⟨o₀, ho₀, by rw [hkey]⟩
    · obtain ⟨x', o', hbegun', hrow, hle, hcovers⟩ := habove r hr
      obtain ⟨hx', ho'⟩ := begun_nil_iff.mp hbegun'
      obtain ⟨o'', ho'', hkey''⟩ := exists_banded_of_lt_reach hcoherent hfocal hx' ho' hle
        hcovers (lt_last_of_mem_banded hcoherent ho₀)
      exact List.mem_map.mpr ⟨o'', ho'', by rw [hkey'', hrow]⟩
  have hlength : row o.slotKey + 1 ≤ (l.banded start focal x).length := by
    have hsub := List.subperm_of_subset List.nodup_range
      (fun r hr => hrows r (Nat.le_of_lt_succ (List.mem_range.mp hr)))
    simpa using hsub.length_le
  refine Nat.lt_of_succ_le (hlength.trans (le_foldl_max_of_mem ?_ 0))
  exact List.mem_map.mpr ⟨x, List.mem_range.mpr hx, rfl⟩

omit hfocal in
/-- The items of a day that want a band fit in the rows of its column. -/
theorem length_banded_le (hcolumn : column < daysPerWeek) :
    (l.banded start focal column).length ≤ (w.cells column).length := by
  have hrows : (l.banded start focal column).map (fun o => row o.slotKey) ⊆
      List.range (w.cells column).length := by
    intro r hr
    obtain ⟨o, ho, rfl⟩ := List.mem_map.mp hr
    exact List.mem_range.mpr (hb.row_lt_length hcolumn ho)
  have hsub := List.subperm_of_subset (nodup_rows hcoherent hb hcolumn) hrows
  simpa using hsub.length_le

/-- No column has more band rows than there are items on the busiest day. -/
theorem length_cells_le_busiest (hcolumn : column < daysPerWeek) :
    (w.cells column).length ≤ l.busiest start focal := by
  by_contra hlong
  obtain ⟨o, ho, hle⟩ := hb.exists_of_lt_length hcolumn (Nat.lt_of_not_le hlong)
  exact absurd (row_lt_busiest hcoherent hfocal hb hcolumn ho) (Nat.not_lt.mpr hle)

omit hfocal in
/-- The items of the busiest day have room in the band rows. -/
theorem busiest_lt_totalRows : l.busiest start focal < w.totalRows := by
  have hpos : 0 < w.totalRows := by
    rw [hb.totalRows]
    exact Nat.succ_pos _
  have hle : l.busiest start focal ≤ w.totalRows - 1 := by
    refine foldl_max_le (fun n hn => ?_) (Nat.zero_le _)
    obtain ⟨column, hcolumn, rfl⟩ := List.mem_map.mp hn
    have hcolumn := List.mem_range.mp hcolumn
    have hfits := hb.length_cells_lt hcolumn
    have hload := length_banded_le hcoherent hb hcolumn
    omega
  omega

/-- **First fit is optimal**: there are as many band rows as items that want a band on the
busiest day. -/
theorem totalRows_eq : w.totalRows = l.busiest start focal + 1 := by
  refine le_antisymm ?_ (Nat.succ_le_of_lt (busiest_lt_totalRows hcoherent hb))
  rw [hb.totalRows]
  refine Nat.succ_le_succ ?_
  split
  · refine foldl_max_le (fun n hn => ?_) (Nat.zero_le _)
    obtain ⟨column, hcell⟩ := List.mem_iff_getElem?.mp hn
    rw [List.getElem?_map, Option.map_eq_some_iff] at hcell
    obtain ⟨cells, hcells, rfl⟩ := hcell
    have hcolumn : column < daysPerWeek :=
      hb.length ▸ (List.getElem?_eq_some_iff.mp hcells).1
    have hwcells : w.cells column = cells := by rw [WeekBuckets.cells, hcells, Option.getD_some]
    rw [← hwcells]
    exact length_cells_le_busiest hcoherent hfocal hb hcolumn
  · exact Nat.zero_le _

/-! ## The slots and the cells -/

/-- Where no band reaches the last date of the calendar, a slot that is held has an item of
its key on its day. -/
theorem exists_banded_of_bandsListed (hlisted : l.BandsListed start focal) {r y : Nat}
    {k : String} (hheld : slots.holder? r y = some k) :
    row k = r ∧ ∃ o ∈ l.banded start focal y, o.slotKey = k := by
  obtain ⟨-, x, o, hbegun, -, -, hy⟩ := hb.packed.holder.mp hheld
  obtain ⟨hx, ho⟩ := begun_nil_iff.mp hbegun
  have hend := addDays_le_bandEnd_of_lt_reach (start_le_bandEnd hcoherent hx ho) hy
  exact hb.exists_banded_of_holder hcoherent hfocal hheld (hend.trans_lt (hlisted x hx o ho))

omit hfocal in
/-- A band that reaches the last date of the calendar holds a slot of a column that has no
items. -/
theorem exists_holder_of_not_bandsListed (hlisted : ¬l.BandsListed start focal) :
    ∃ y < daysPerWeek, l.banded start focal y = [] ∧
      ∃ o x, x < daysPerWeek ∧ o ∈ l.banded start focal x ∧
        slots.holder? (row o.slotKey) y = some o.slotKey := by
  simp only [BandsListed, not_forall, not_lt] at hlisted
  obtain ⟨x, hx, o, ho, hend⟩ := hlisted
  have hbefore := lt_last_of_mem_banded hcoherent ho
  rw [Date.le_def] at hend
  rw [Date.lt_def, Date.dayNumber_addDays] at hbefore
  -- The column of the last date, and the band of `o` covers it.
  obtain ⟨y, hy⟩ : ∃ y : Nat, start.dayNumber + y = Date.last.dayNumber :=
    ⟨(Date.last.dayNumber - start.dayNumber).toNat, by omega⟩
  have hreach : y < l.reach start o := by
    rw [reach, Date.daysUntil]
    omega
  refine ⟨y, hreach.trans_le (reach_le o), ?_, o, x, hx, ho, ?_⟩
  · refine List.eq_nil_iff_forall_not_mem.mpr fun o' ho' => ?_
    have hlast := lt_last_of_mem_banded hcoherent ho'
    rw [Date.lt_def, Date.dayNumber_addDays] at hlast
    omega
  · exact hb.packed.holder.mpr ⟨rfl, x, o, begun_nil_iff.mpr ⟨hx, ho⟩, rfl, by omega, hreach⟩

end

/-- **Slots and cells agree**: a slot is held exactly if there is a band cell in its place,
and every blank is a free slot. -/
structure SlotsAgree (slots : SlotRows) (w : WeekBuckets) : Prop where
  held : ∀ column < daysPerWeek, ∀ r : Nat, slots.isFree r column = false ↔
    ∃ cell, (w.cells column)[r]? = some cell ∧ cell.isEntry = true
  blank : ∀ column < daysPerWeek, ∀ (r : Nat) (available : Bool),
    (w.cells column)[r]? = some (.blank available) → available = true

section
variable (hcoherent : l.agenda.Coherent l.range) (hfocal : l.Focuses focal)
  (hb : l.Built start focal row slots w)
include hcoherent hb

/-- A band that reaches the last date of the calendar holds a slot without a cell. -/
theorem bandsListed_of_slotsAgree (hagree : SlotsAgree slots w) :
    l.BandsListed start focal := by
  by_contra hlisted
  obtain ⟨y, hy, hnone, o, -, -, -, hheld⟩ :=
    exists_holder_of_not_bandsListed hcoherent hb hlisted
  obtain ⟨cell, hcell, hentry⟩ :=
    (hagree.held y hy _).mp (SlotRows.isFree_eq_false_iff.mpr ⟨_, hheld⟩)
  obtain ⟨o', ho', -⟩ := hb.exists_of_isEntry hy hcell hentry
  exact absurd ho' (hnone ▸ List.not_mem_nil)

include hfocal in
theorem slotsAgree_of_bandsListed (hlisted : l.BandsListed start focal) :
    SlotsAgree slots w := by
  have hcover {column r : Nat} (hfree : slots.isFree r column = false) :
      ∃ o ∈ l.banded start focal column, row o.slotKey = r := by
    obtain ⟨k, hheld⟩ := SlotRows.isFree_eq_false_iff.mp hfree
    obtain ⟨hrow, o, ho, rfl⟩ := exists_banded_of_bandsListed hcoherent hfocal hb hlisted hheld
    exact ⟨o, ho, hrow⟩
  refine ⟨fun column hcolumn r => ⟨fun hfree => ?_, ?_⟩, fun column hcolumn r available h => ?_⟩
  · obtain ⟨o, ho, rfl⟩ := hcover hfree
    exact ⟨_, hb.getElem?_cells hcolumn ho, isEntry_cellOf column o⟩
  · rintro ⟨cell, hcell, hentry⟩
    obtain ⟨o, ho, rfl, -⟩ := hb.exists_of_isEntry hcolumn hcell hentry
    exact SlotRows.isFree_eq_false_iff.mpr ⟨_, hb.holder?_of_banded hcolumn hcoherent ho⟩
  · rcases hb.exists_of_getElem? hcolumn h with ⟨o, -, -, hcell⟩ | ⟨hcell, hnone⟩
    · -- The cell of an item is no blank.
      have hentry : (l.cellOf start focal column o).isEntry = true := isEntry_cellOf column o
      rw [hcell] at hentry
      exact Bool.noConfusion hentry
    · obtain rfl := BandCell.blank.inj hcell
      by_contra hfree
      obtain ⟨o, ho, hrow⟩ := hcover (Bool.eq_false_iff.mpr hfree)
      exact hnone o ho hrow

end

/-- **First fit wastes no row.**  A week that is laid out has as many band rows as there are
items that want a band on its busiest day, and its slots agree with its cells exactly if no
band reaches the last date of the calendar. -/
theorem totalRows_buildWeek (c : Collector) (style : Style) (range : Range) (viewId : String)
    (rendered : List Int) (records : List Record) (packer : WeekPacker) (start : Date)
    (focal : Option Nat) (hspaced : c.Spaced range records)
    (hstart : start.weekday.fromSunday = style.firstDay)
    (hpacker : packer.firstDay = style.firstDay)
    (hfocal : (c.layout style range viewId rendered records).Focuses focal) :
    ((c.layout style range viewId rendered records).buildWeek packer start focal).1.totalRows - 1 =
        (c.layout style range viewId rendered records).busiest start focal ∧
      (SlotsAgree
          ((c.layout style range viewId rendered records).buildWeek packer start focal).2.slots
          ((c.layout style range viewId rendered records).buildWeek packer start focal).1 ↔
        (c.layout style range viewId rendered records).BandsListed start focal) := by
  obtain ⟨hcoherent, row, hb⟩ :=
    built_layout hspaced style viewId rendered packer (hstart.trans hpacker.symm) focal
  refine ⟨?_, bandsListed_of_slotsAgree hcoherent hb,
    slotsAgree_of_bandsListed hcoherent hfocal hb⟩
  rw [totalRows_eq hcoherent hfocal hb, Nat.add_sub_cancel]

/-- The week from March 30, 2025 on. -/
theorem totalRows_buildWeek_april :
    (threeWeeks.Spaced Occurrence.april aprilRecords ∧
        (⟨20177⟩ : Date).weekday.fromSunday = 0 ∧ Occurrence.april.IsMonth 2025 4) ∧
      (aprilLayout.buildWeek { firstDay := 0 } ⟨20177⟩ (some 4)).1.totalRows - 1 =
          aprilLayout.busiest ⟨20177⟩ (some 4) ∧
        (SlotsAgree (aprilLayout.buildWeek { firstDay := 0 } ⟨20177⟩ (some 4)).2.slots
            (aprilLayout.buildWeek { firstDay := 0 } ⟨20177⟩ (some 4)).1 ↔
          aprilLayout.BandsListed ⟨20177⟩ (some 4)) :=
  have hspaced : threeWeeks.Spaced Occurrence.april aprilRecords := by decide +kernel
  have hmonth : Occurrence.april.IsMonth 2025 4 := ⟨by decide, by decide, by decide⟩
  ⟨⟨hspaced, by decide, hmonth⟩,
    totalRows_buildWeek threeWeeks {} Occurrence.april "calendar" [] aprilRecords
      { firstDay := 0 } ⟨20177⟩ (some 4) hspaced (by decide) rfl (.inr ⟨2025, 4, hmonth, rfl⟩)⟩

/-- In the last week of the calendar a band reaches the last date. -/
theorem not_bandsListed_lastWeek : ¬lastWeekLayout.BandsListed lastWeek.firstDate none := by
  intro hlisted
  have hband : ∃ a ∈ threeWeeks.collected lastWeek [] lastWeekRecords,
      lastWeek.firstDate.addDays (4 : Nat) ∈ a.interval.shownDays lastWeek ∧
        (threeWeeks.fragmentOf lastWeek a (lastWeek.firstDate.addDays (4 : Nat))).wantsBand
          true ∧
        ¬lastWeekLayout.bandEnd lastWeek.firstDate (threeWeeks.fragmentOf lastWeek a
          (lastWeek.firstDate.addDays (4 : Nat))) < Date.last := by
    decide +kernel
  obtain ⟨a, ha, hshown, hwants, hend⟩ := hband
  refine hend (hlisted 4 (by decide) _ (mem_banded.mpr ⟨by decide, ?_, hwants⟩))
  exact Collector.mem_collect_on.mpr ⟨a, ha, hshown, rfl⟩

/-- In the last week of the calendar a band holds a slot of the last date, where no cell
is. -/
theorem not_slotsAgree_lastWeek :
    threeWeeks.Spaced lastWeek lastWeekRecords ∧
      lastWeek.firstDate.weekday.fromSunday = lastWeekLayout.style.firstDay ∧
      ¬SlotsAgree (lastWeekLayout.buildWeek { firstDay := 2 } lastWeek.firstDate none).2.slots
        (lastWeekLayout.buildWeek { firstDay := 2 } lastWeek.firstDate none).1 := by
  have hspaced : threeWeeks.Spaced lastWeek lastWeekRecords := by decide +kernel
  have hstart : lastWeek.firstDate.weekday.fromSunday = 2 := by decide
  refine ⟨hspaced, hstart, fun hagree => ?_⟩
  obtain ⟨hcoherent, row, hb⟩ :=
    built_layout hspaced { firstDay := 2 } "calendar" [] { firstDay := 2 } hstart none
  exact not_bandsListed_lastWeek (bandsListed_of_slotsAgree hcoherent hb hagree)

end Layout
end Almanac
