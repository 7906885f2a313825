import Almanac.Proofs.Week.Packing

/-! # The week that is built

`Layout.Built` gathers what `Layout.buildWeek` makes of a week, with the slot rows it
leaves: the packing invariant behind the last column, and for every column its bands and
its single-day items (`built_buildWeek`).  A column of bands is read through its places:
the cell of an item is at the row of its key (`Built.getElem?_cells`), every band cell is
the cell of an item (`Built.exists_of_isEntry`), a blank says whether its slot is free,
and the last place is the cell of an item (`Built.exists_of_lt_length`).
-/
namespace Almanac

namespace WeekBuckets

/-- The bands of a column. -/
def cells (w : WeekBuckets) (column : Nat) : List BandCell :=
  (w.multiDay[column]?).getD []

/-- The single-day items of a column. -/
def single (w : WeekBuckets) (column : Nat) : SingleDayColumn :=
  (w.singleDay[column]?).getD {}

end WeekBuckets

namespace Layout

/-- **A week that is laid out.** -/
structure Built (l : Layout) (start : Date) (focal : Option Nat) (row : String → Nat)
    (slots : SlotRows) (w : WeekBuckets) : Prop where
  packed : l.Packed start focal daysPerWeek [] row slots
  start_eq : w.start = start
  length : w.multiDay.length = daysPerWeek
  cells : ∀ column < daysPerWeek, ∃ bands,
    l.Filled start focal column (l.banded start focal column) row bands ∧
      w.cells column = closeBands slots column bands
  single : ∀ column < daysPerWeek, w.single column = l.singleColumn start focal column
  totalRows : w.totalRows =
    (if l.style.multiDayTheme then (w.multiDay.map List.length).foldl max 0 else 0) + 1

variable {l : Layout} {start : Date} {focal : Option Nat} {row : String → Nat}
  {slots : SlotRows} {w : WeekBuckets} {column : Nat} {o : Occurrence}

theorem packed_empty (row : String → Nat) : l.Packed start focal 0 [] row {} where
  wide := SlotRows.wide_empty
  holder := by
    intro r y k
    rw [SlotRows.holder?_empty]
    constructor
    · intro h
      cases h
    · rintro ⟨-, x, o, h, -⟩
      exact absurd (begun_nil_iff.mp h).1 (Nat.not_lt_zero x)
  blocked := fun h => absurd (begun_nil_iff.mp h).1 (Nat.not_lt_zero _)

/-- **The layout of a week.** -/
theorem built_buildWeek (hcoherent : l.agenda.Coherent l.range) {packer : WeekPacker}
    (hfirst : start.weekday.fromSunday = packer.firstDay) :
    ∃ row, l.Built start focal row (l.buildWeek packer start focal).2.slots
      (l.buildWeek packer start focal).1 := by
  have hfirst' : start.weekday.fromSunday = packer.startWeek.firstDay := hfirst
  have hempty : l.Packed start focal 0 [] (fun _ => 0) packer.startWeek.slots :=
    packed_empty fun _ => 0
  obtain ⟨row, columns, packer', hfill, hlength, hcolumns, hpacked, -⟩ :=
    packed_fillColumns hcoherent (Nat.zero_add daysPerWeek) hfirst' hempty
  have hdates : weekDates start =
      (List.range' 0 daysPerWeek).map fun x : Nat => start.addDays x := by
    rw [weekDates, List.range_eq_range']
  rw [← hdates] at hfill
  simp only [Nat.zero_add] at hcolumns
  refine ⟨row, ?_⟩
  rw [buildWeek, hfill]
  dsimp only
  refine ⟨hpacked, rfl, ?_, ?_, ?_, rfl⟩
  · rw [List.length_mapIdx, hlength]
  · intro column hcolumn
    obtain ⟨bands, hget, hfilled⟩ := hcolumns column hcolumn
    refine ⟨bands, hfilled, ?_⟩
    rw [WeekBuckets.cells, List.getElem?_mapIdx, hget]
    rfl
  · intro column hcolumn
    obtain ⟨bands, hget, -⟩ := hcolumns column hcolumn
    rw [WeekBuckets.single, List.getElem?_map, hget]
    rfl

/-- A week of what a collector makes of records, with its agenda. -/
theorem built_layout {c : Collector} {range : Range} {records : List Record}
    (hspaced : c.Spaced range records) (style : Style) (viewId : String) (rendered : List Int)
    (packer : WeekPacker) (hfirst : start.weekday.fromSunday = packer.firstDay)
    (focal : Option Nat) :
    (c.collect range rendered records).1.Coherent range ∧
      ∃ row, (c.layout style range viewId rendered records).Built start focal row
        ((c.layout style range viewId rendered records).buildWeek packer start focal).2.slots
        ((c.layout style range viewId rendered records).buildWeek packer start focal).1 :=
  have hcoherent : (c.collect range rendered records).1.Coherent range :=
    c.coherent_collect hspaced
  ⟨hcoherent, built_buildWeek hcoherent hfirst⟩

/-! ## The places of a column -/

theorem getElem?_closeBands (slots : SlotRows) (column : Nat) (bands : List (Option BandCell))
    (r : Nat) :
    (closeBands slots column bands)[r]? =
      bands[r]?.map fun cell => cell.getD (.blank (slots.isFree r column)) := by
  rw [closeBands, List.getElem?_mapIdx]

theorem length_closeBands (slots : SlotRows) (column : Nat) (bands : List (Option BandCell)) :
    (closeBands slots column bands).length = bands.length :=
  List.length_mapIdx

theorem isEntry_cellOf (column : Nat) (o : Occurrence) :
    (l.cellOf start focal column o).isEntry = true := by
  unfold cellOf
  split <;> rfl

section
variable (hb : l.Built start focal row slots w) (hcolumn : column < daysPerWeek)
include hb hcolumn

/-- The cell of an item is in the row of its key. -/
theorem Built.getElem?_cells (ho : o ∈ l.banded start focal column) :
    (w.cells column)[row o.slotKey]? = some (l.cellOf start focal column o) := by
  obtain ⟨bands, hfilled, hcells⟩ := hb.cells column hcolumn
  rw [hcells, getElem?_closeBands, hfilled.cell.mpr ⟨o, ho, rfl, rfl⟩]
  rfl

/-- A cell of a column is the cell of an item, or a blank in a row without one. -/
theorem Built.exists_of_getElem? {r : Nat} {cell : BandCell}
    (hcell : (w.cells column)[r]? = some cell) :
    (∃ o ∈ l.banded start focal column, row o.slotKey = r ∧
        l.cellOf start focal column o = cell) ∨
      cell = .blank (slots.isFree r column) ∧
        ∀ o ∈ l.banded start focal column, row o.slotKey ≠ r := by
  obtain ⟨bands, hfilled, hcells⟩ := hb.cells column hcolumn
  rw [hcells, getElem?_closeBands, Option.map_eq_some_iff] at hcell
  obtain ⟨band, hband, rfl⟩ := hcell
  cases band with
  | some cell => exact .inl (hfilled.cell.mp hband)
  | none =>
    refine .inr ⟨rfl, fun o ho hrow => ?_⟩
    have hplace := hfilled.cell.mpr ⟨o, ho, hrow, rfl⟩
    rw [hband] at hplace
    cases hplace

theorem Built.exists_of_isEntry {r : Nat} {cell : BandCell}
    (hcell : (w.cells column)[r]? = some cell) (hentry : cell.isEntry = true) :
    ∃ o ∈ l.banded start focal column, row o.slotKey = r ∧
      l.cellOf start focal column o = cell := by
  rcases hb.exists_of_getElem? hcolumn hcell with h | ⟨rfl, -⟩
  · exact h
  · cases hentry

/-- Below every place of a column is the cell of an item. -/
theorem Built.exists_of_lt_length {r : Nat} (hr : r < (w.cells column).length) :
    ∃ o ∈ l.banded start focal column, r ≤ row o.slotKey := by
  obtain ⟨bands, hfilled, hcells⟩ := hb.cells column hcolumn
  rw [hcells, length_closeBands] at hr
  obtain ⟨r', cell, hle, hplace⟩ := hfilled.tight r hr
  obtain ⟨o, ho, hrow, -⟩ := hfilled.cell.mp hplace
  exact ⟨o, ho, hrow ▸ hle⟩

theorem Built.row_lt_length (ho : o ∈ l.banded start focal column) :
    row o.slotKey < (w.cells column).length :=
  (List.getElem?_eq_some_iff.mp (hb.getElem?_cells hcolumn ho)).1

/-- An item holds the slot of its row in its column. -/
theorem Built.holder?_of_banded (hcoherent : l.agenda.Coherent l.range)
    (ho : o ∈ l.banded start focal column) :
    slots.holder? (row o.slotKey) column = some o.slotKey :=
  hb.packed.holder?_of_begun hcoherent hcolumn (begun_nil_iff.mpr ⟨hcolumn, ho⟩)

end

/-! ## The number of rows -/

theorem le_foldl_max_of_mem {n : Nat} {ns : List Nat} (h : n ∈ ns) (m : Nat) :
    n ≤ ns.foldl max m := by
  have hstart (ns : List Nat) (m : Nat) : m ≤ ns.foldl max m := by
    induction ns generalizing m with
    | nil => exact le_rfl
    | cons k ns ih => exact (le_max_left m k).trans (ih _)
  induction ns generalizing m with
  | nil => exact absurd h List.not_mem_nil
  | cons k ns ih =>
    rcases List.mem_cons.mp h with rfl | h
    · exact (le_max_right m n).trans (hstart ns _)
    · exact ih h _

theorem foldl_max_le {k : Nat} {ns : List Nat} (h : ∀ n ∈ ns, n ≤ k) {m : Nat} (hm : m ≤ k) :
    ns.foldl max m ≤ k := by
  induction ns generalizing m with
  | nil => exact hm
  | cons n ns ih =>
    exact ih (fun n' hn' => h n' (List.mem_cons_of_mem _ hn'))
      (max_le hm (h n List.mem_cons_self))

/-- The bands of every column fit in the band rows. -/
theorem Built.length_cells_lt (hb : l.Built start focal row slots w)
    (hcolumn : column < daysPerWeek) : (w.cells column).length < w.totalRows := by
  rw [hb.totalRows]
  split
  · have hmem : (w.cells column).length ∈ w.multiDay.map List.length := by
      rw [WeekBuckets.cells, List.getElem?_eq_getElem (hb.length ▸ hcolumn)]
      exact List.mem_map_of_mem (List.getElem_mem _)
    exact Nat.lt_succ_of_le (le_foldl_max_of_mem hmem 0)
  · rename_i htheme
    -- Without a theme no item wants a band.
    by_contra hlong
    obtain ⟨o, ho, -⟩ := hb.exists_of_lt_length hcolumn
      (Nat.lt_of_lt_of_le Nat.zero_lt_one (Nat.le_of_not_lt hlong))
    exact htheme (multiDayTheme_of_mem_banded ho)

end Layout
end Almanac
