import Almanac.Grid.Block
import Almanac.Proofs.Week.Conservation
import Almanac.Proofs.Week.FirstFit
import Mathlib.Data.List.ProdSigma

/-! # The cells of a week tile its block

A week block is a table of seven columns and as many rows as there are bands on the
busiest day, with one more for the single-day items.  A slot of the table is covered by
the cells whose spans hold it (`WeekBlock.covers`), and the block is tiled if every slot
is covered once (`WeekBlock.Tiled`).

In a column, the rows from the number of its bands on belong to its single-day cell.  A
row above belongs to the band that holds the slot, if it is held, and every held slot has
just one such band: it begins in the first column of its key (`Built.exists_entry`).  So the
block is tiled if the slots agree with the cells, and only then.
-/
namespace Almanac

namespace WeekBlock

variable (b : WeekBlock)

/-- The cells below the date boxes, each with the index of its row. -/
def body : List (Nat × Cell) :=
  (b.rows.drop 1).zipIdx.flatMap fun (r, index) => r.cells.map fun cell => (index, cell)

/-- Whether a cell covers a slot.  Its column is that of its date. -/
def covers (row column : Nat) (place : Nat × Cell) : Bool :=
  !place.2.isCovered && (place.1 ≤ row && row < place.1 + place.2.rowspan) &&
    place.2.date.any fun d =>
      d ≤ b.start.addDays column && b.start.addDays column < d.addDays place.2.colspan

/-- **Every slot of the table is covered by exactly one cell.** -/
def Tiled : Prop :=
  ∀ row < b.totalRows, ∀ column < daysPerWeek, b.body.countP (b.covers row column) = 1

/-- **The frame of a week block.**  `items` are the items of a date. -/
structure Framed (items : Date → List Occurrence) : Prop where
  rowCount : b.rows.length = b.totalRows + 1
  /-- A cell with the number of the week is in the row of date boxes and spans all rows. -/
  weekNumber : ∀ r ∈ b.rows, ∀ cell ∈ r.cells, ∀ number link,
    cell.content = .weekNumber number link → b.rows.head? = some r ∧ cell.rowspan = b.rows.length
  /-- No span reaches past the seventh column or the last row. -/
  inside : ∀ place ∈ b.body, place.1 + place.2.rowspan ≤ b.totalRows ∧
    ∃ column < daysPerWeek, place.2.date = some (b.start.addDays column) ∧
      column + place.2.colspan ≤ daysPerWeek
  /-- A covered day lies under a band of its key that begins further left in its row. -/
  covered : ∀ place ∈ b.body, ∀ id, place.2.content = .covered id →
    ∃ d, place.2.date = some d ∧ ∃ o ∈ items d, o.dateId = id ∧
      ∃ left ∈ b.body, left.1 = place.1 ∧
        ∃ band, left.2.content = .event band ∧ band.slotKey = o.slotKey ∧
          ∃ first, left.2.date = some first ∧ first < d ∧ d < first.addDays left.2.colspan

end WeekBlock

namespace Layout

variable {l : Layout} {start : Date} {focal : Option Nat} {row : String → Nat}
  {slots : SlotRows} {w : WeekBuckets} {column : Nat} {o : Occurrence}

/-! ## Bands in the cells of a week -/

theorem cellOf_eq_entry {band : Occurrence} {colspan : Nat}
    (h : l.cellOf start focal column o = .entry band colspan) :
    band.slotKey = o.slotKey ∧ colspan = l.reach start o - column ∧
      ¬l.isOngoing start focal column o := by
  unfold cellOf at h
  split at h
  · cases h
  · rename_i hnew
    obtain ⟨rfl, rfl⟩ := BandCell.entry.inj h
    exact ⟨rfl, rfl, hnew⟩

theorem cellOf_eq_covered {o' : Occurrence} (h : l.cellOf start focal column o = .covered o') :
    o' = o ∧ l.isOngoing start focal column o := by
  unfold cellOf at h
  split at h
  · rename_i hongoing
    exact ⟨(BandCell.covered.inj h).symm, hongoing⟩
  · cases h

section
variable (hcoherent : l.agenda.Coherent l.range) (hb : l.Built start focal row slots w)
include hcoherent hb

/-- A band holds the slots it covers. -/
theorem Built.holder?_of_entry (hcolumn : column < daysPerWeek) {i y colspan : Nat}
    {band : Occurrence} (h : (w.cells column)[i]? = some (.entry band colspan))
    (hle : column ≤ y) (hy : y < column + colspan) :
    slots.holder? i y = some band.slotKey := by
  obtain ⟨o, ho, rfl, hcell⟩ := hb.exists_of_isEntry hcolumn h rfl
  obtain ⟨hkey, rfl, -⟩ := cellOf_eq_entry hcell
  have hreach := lt_reach hcoherent hcolumn ho
  exact hb.packed.holder.mpr ⟨by rw [hkey], column, o, begun_nil_iff.mpr ⟨hcolumn, ho⟩, hkey.symm,
    hle, by omega⟩

omit hcoherent in
/-- A key has one band in a week. -/
theorem Built.column_eq_of_entry {x x' i i' n n' : Nat} {band band' : Occurrence}
    (hx : x < daysPerWeek) (hx' : x' < daysPerWeek)
    (h : (w.cells x)[i]? = some (.entry band n)) (h' : (w.cells x')[i']? = some (.entry band' n'))
    (hkey : band.slotKey = band'.slotKey) : x = x' := by
  obtain ⟨o, ho, -, hcell⟩ := hb.exists_of_isEntry hx h rfl
  obtain ⟨o', ho', -, hcell'⟩ := hb.exists_of_isEntry hx' h' rfl
  obtain ⟨hband, -, hnew⟩ := cellOf_eq_entry hcell
  obtain ⟨hband', -, hnew'⟩ := cellOf_eq_entry hcell'
  have hsame : o.slotKey = o'.slotKey := hband.symm.trans (hkey.trans hband')
  -- The later one of two would be ongoing.
  rcases Nat.lt_trichotomy x x' with hlt | heq | hlt
  · exact absurd (isOngoing_iff.mpr ⟨x, hlt, o, ho, hsame⟩) hnew'
  · exact heq
  · exact absurd (isOngoing_iff.mpr ⟨x', hlt, o', ho', hsame.symm⟩) hnew

/-- A slot that is held is covered by a band of its key. -/
theorem Built.exists_entry {i y : Nat} {k : String} (h : slots.holder? i y = some k) :
    ∃ x ≤ y, x < daysPerWeek ∧ ∃ band colspan,
      (w.cells x)[i]? = some (.entry band colspan) ∧ band.slotKey = k ∧ y < x + colspan := by
  obtain ⟨hrow, x, o, hbegun, hkey, hxy, hy⟩ := hb.packed.holder.mp h
  obtain ⟨hx, ho⟩ := begun_nil_iff.mp hbegun
  -- The band begins in the first column of the key.
  obtain ⟨x', hle, o', ho', hkey', hnew⟩ := exists_not_isOngoing ho
  have hcell := hb.getElem?_cells (hle.trans_lt hx) ho'
  rw [hkey'.trans hkey, hrow, cellOf, if_neg hnew] at hcell
  have hreach := reach_eq_of_slotKey_eq hcoherent ho' ho hkey'
  exact ⟨x', hle.trans hxy, hle.trans_lt hx, _, _, hcell, hkey'.trans hkey, by omega⟩

/-- A covered day has a band of its key to its left. -/
theorem Built.exists_entry_of_covered (hcolumn : column < daysPerWeek) {i : Nat}
    (h : (w.cells column)[i]? = some (.covered o)) :
    o ∈ l.banded start focal column ∧ ∃ x < column, ∃ band colspan,
      (w.cells x)[i]? = some (.entry band colspan) ∧ band.slotKey = o.slotKey ∧
        column < x + colspan := by
  obtain ⟨o', ho, rfl, hcell⟩ := hb.exists_of_isEntry hcolumn h rfl
  obtain ⟨rfl, -⟩ := cellOf_eq_covered hcell
  have hheld := hb.holder?_of_banded hcolumn hcoherent ho
  obtain ⟨x, hle, -, band, colspan, hentry, hkey, hcovers⟩ := hb.exists_entry hcoherent hheld
  refine ⟨ho, x, lt_of_le_of_ne hle ?_, band, colspan, hentry, hkey, hcovers⟩
  rintro rfl
  rw [h] at hentry
  cases hentry

end

/-! ## The cells of a block -/

/-- The cell that begins in a row and a column below the date boxes. -/
def cellAt (l : Layout) (focal : Option Nat) (w : WeekBuckets) (i column : Nat) : Option Cell :=
  l.bodyCell? w focal i (w.date column, w.cells column, w.single column)

/-- A single-day cell has the items of its day, or nothing. -/
theorem content_singleDayCell (single : SingleDayColumn) (d : Date) (rowspan i : Nat) :
    (l.singleDayCell single d rowspan i focal).content =
      if single.inRange then .singleDay single.buckets single.more else .emptyDay := rfl

/-- The cells of a block by row and column. -/
theorem body_weekBlock (w : WeekBuckets) :
    (l.weekBlock w focal).body =
      (List.range w.totalRows ×ˢ List.range daysPerWeek).filterMap fun p =>
        (l.cellAt focal w p.1 p.2).map (Prod.mk p.1) := by
  have hrows : (l.weekBlock w focal).rows.drop 1 =
      (List.range w.totalRows).map (l.bodyRow w focal) := rfl
  have hindexed : ((List.range w.totalRows).map (l.bodyRow w focal)).zipIdx =
      (List.range w.totalRows).map fun i => (l.bodyRow w focal i, i) := by
    refine List.ext_getElem (by simp) fun i hi hi' => ?_
    simp
  have hplaces : List.range w.totalRows ×ˢ List.range daysPerWeek =
      (List.range w.totalRows).flatMap fun i => (List.range daysPerWeek).map (Prod.mk i) := rfl
  rw [WeekBlock.body, hrows, hindexed, List.flatMap_map, hplaces, List.filterMap_flatMap]
  refine List.flatMap_congr fun i _ => ?_
  dsimp only [bodyRow]
  rw [weekColumns, List.filterMap_map, List.filterMap_map, List.map_filterMap]
  rfl

theorem mem_body {place : Nat × Cell} :
    place ∈ (l.weekBlock w focal).body ↔
      place.1 < w.totalRows ∧ ∃ column < daysPerWeek,
        l.cellAt focal w place.1 column = some place.2 := by
  rw [body_weekBlock, List.mem_filterMap]
  constructor
  · rintro ⟨⟨i, column⟩, hmem, hcell⟩
    obtain ⟨hi, hcolumn⟩ := List.mem_product.mp hmem
    obtain ⟨cell, hat, rfl⟩ := Option.map_eq_some_iff.mp hcell
    exact ⟨List.mem_range.mp hi, column, List.mem_range.mp hcolumn, hat⟩
  · rintro ⟨hi, column, hcolumn, hcell⟩
    refine ⟨(place.1, column), List.mem_product.mpr
      ⟨List.mem_range.mpr hi, List.mem_range.mpr hcolumn⟩, ?_⟩
    rw [hcell]
    rfl

section
variable (hb : l.Built start focal row slots w) (hcolumn : column < daysPerWeek)
include hb hcolumn

theorem bandCount_cells : l.bandCount (w.cells column) = (w.cells column).length := by
  unfold bandCount
  split
  · rfl
  · rename_i htheme
    by_contra hne
    obtain ⟨o, ho, -⟩ := hb.exists_of_lt_length hcolumn (Nat.pos_of_ne_zero (Ne.symm hne))
    exact htheme (multiDayTheme_of_mem_banded ho)

/-- **The cell at a place**: that of a band row, or the single-day cell below the bands. -/
theorem cellAt_eq (i : Nat) :
    l.cellAt focal w i column =
      if i < (w.cells column).length then
        (w.cells column)[i]?.map fun cell =>
          l.bandCell cell (start.addDays column) i (w.single column).inRange focal
      else if i = (w.cells column).length then
        some (l.singleDayCell (w.single column) (start.addDays column)
          (w.totalRows - i) i focal)
      else none := by
  have hdate : w.date column = start.addDays column := by rw [WeekBuckets.date, hb.start_eq]
  unfold cellAt bodyCell?
  dsimp only
  rw [bandCount_cells hb hcolumn, hdate]
  refine if_congr Iff.rfl rfl ?_
  by_cases hi : i = (w.cells column).length
  · rw [if_pos hi, if_pos hi, hi]
  · rw [if_neg hi, if_neg hi]

omit hcolumn in
/-- A cell that is not covered covers the rows and columns of its spans. -/
theorem covers_iff {cell : Cell} (hshown : cell.isCovered = false)
    (hdate : cell.date = some (start.addDays column)) {i r y : Nat} :
    (l.weekBlock w focal).covers r y (i, cell) = true ↔
      (i ≤ r ∧ r < i + cell.rowspan) ∧ column ≤ y ∧ y < column + cell.colspan := by
  have hstart : (l.weekBlock w focal).start = start := hb.start_eq
  simp only [WeekBlock.covers, hshown, hdate, hstart, Option.any_some, Bool.not_false,
    Bool.true_and, Bool.and_eq_true, decide_eq_true_eq]
  simp only [Date.le_def, Date.lt_def, Date.dayNumber_addDays]
  omega

/-- Which slots the cell at a place covers. -/
theorem covers_cellAt_iff {i r y : Nat} (hr : r < w.totalRows) :
    (∃ cell, l.cellAt focal w i column = some cell ∧
        (l.weekBlock w focal).covers r y (i, cell) = true) ↔
      (∃ band colspan, (w.cells column)[i]? = some (.entry band colspan) ∧
          i = r ∧ column ≤ y ∧ y < column + colspan) ∨
        (∃ available, (w.cells column)[i]? = some (.blank available) ∧ i = r ∧ column = y) ∨
        i = (w.cells column).length ∧ i ≤ r ∧ column = y := by
  rw [cellAt_eq hb hcolumn]
  -- Above the single-day cell there are band cells, below it nothing.
  rcases Nat.lt_trichotomy i (w.cells column).length with hi | hi | hi
  · rw [if_pos hi, List.getElem?_eq_getElem hi]
    simp only [Option.map_some, Option.some.injEq, exists_eq_left']
    cases (w.cells column)[i] with
    | entry band colspan =>
      rw [covers_iff hb rfl rfl]
      simp only [BandCell.entry.injEq, reduceCtorEq, bandCell, Cell.styled, Cell.on, Cell.span]
      grind
    | covered o =>
      have hhidden (d : Date) (n : Nat) (inView : Bool) :
          (l.bandCell (.covered o) d n inView focal).isCovered = true := rfl
      simp only [WeekBlock.covers, hhidden, reduceCtorEq]
      grind
    | blank available =>
      rw [covers_iff hb rfl rfl]
      simp only [BandCell.blank.injEq, reduceCtorEq, bandCell, Cell.styled, Cell.on, Cell.new]
      grind
  · rw [if_neg (by omega), if_pos hi, List.getElem?_eq_none hi.ge]
    have hshown (d : Date) (n k : Nat) :
        (l.singleDayCell (w.single column) d n k focal).isCovered = false := by
      rw [Cell.isCovered, content_singleDayCell]
      cases (w.single column).inRange <;> rfl
    simp only [Option.some.injEq, exists_eq_left']
    rw [covers_iff hb (hshown _ _ _) rfl]
    simp only [reduceCtorEq, singleDayCell, Cell.styled, Cell.on, Cell.span, Cell.header]
    grind
  · rw [if_neg (by omega), if_neg (by omega), List.getElem?_eq_none hi.le]
    simp only [reduceCtorEq]
    grind

end

/-! ## Tiling -/

/-- A list without repetitions has one element of a kind if there is just one. -/
theorem countP_filterMap_eq_one_iff {α β : Type} {xs : List α} (hxs : xs.Nodup) (f : α → Option β)
    (p : β → Bool) :
    (xs.filterMap f).countP p = 1 ↔ ∃! a, a ∈ xs ∧ ∃ b, f a = some b ∧ p b = true := by
  have hiff (a : α) : (Option.map p (f a)).getD false = true ↔ ∃ b, f a = some b ∧ p b = true := by
    cases f a <;> simp
  rw [List.countP_filterMap, List.countP_eq_length_filter, List.length_eq_one_iff]
  constructor
  · rintro ⟨a, ha⟩
    have hmem (b : α) : b ∈ xs ∧ (∃ c, f b = some c ∧ p c = true) ↔ b = a := by
      rw [← hiff]
      have hfilter : b ∈ xs.filter (fun a => ((f a).map p).getD false) ↔
          b ∈ xs ∧ ((f b).map p).getD false = true := List.mem_filter
      rw [ha, List.mem_singleton] at hfilter
      exact hfilter.symm
    exact ⟨a, (hmem a).mpr rfl, fun b hb => (hmem b).mp hb⟩
  · rintro ⟨a, ha, hunique⟩
    refine ⟨a, List.perm_singleton.mp ((List.perm_ext_iff_of_nodup (hxs.filter _)
      (List.pairwise_singleton _ a)).mpr fun b => ?_)⟩
    rw [List.mem_filter, hiff, List.mem_singleton]
    exact ⟨fun hb => hunique b hb, fun hb => hb ▸ ha⟩

/-- Whether the cell of a row and a column covers a slot. -/
def CoversSlot (w : WeekBuckets) (r y i column : Nat) : Prop :=
  (∃ band colspan, (w.cells column)[i]? = some (.entry band colspan) ∧
      i = r ∧ column ≤ y ∧ y < column + colspan) ∨
    (∃ available, (w.cells column)[i]? = some (.blank available) ∧ i = r ∧ column = y) ∨
    i = (w.cells column).length ∧ i ≤ r ∧ column = y

theorem tiled_iff (hb : l.Built start focal row slots w) :
    (l.weekBlock w focal).Tiled ↔
      ∀ r < w.totalRows, ∀ y < daysPerWeek,
        ∃! p : Nat × Nat, (p.1 < w.totalRows ∧ p.2 < daysPerWeek) ∧ CoversSlot w r y p.1 p.2 := by
  refine forall_congr' fun r => imp_congr_right fun hr => forall_congr' fun y =>
    imp_congr_right fun _ => ?_
  have hplaces : (List.range w.totalRows ×ˢ List.range daysPerWeek).Nodup :=
    List.nodup_range.product List.nodup_range
  rw [body_weekBlock, countP_filterMap_eq_one_iff hplaces]
  refine existsUnique_congr fun p => ?_
  obtain ⟨i, x⟩ := p
  rw [List.mem_product, List.mem_range, List.mem_range]
  refine and_congr_right fun hp => ?_
  rw [CoversSlot, ← covers_cellAt_iff hb hp.2 hr]
  constructor
  · rintro ⟨place, hat, hcovers⟩
    obtain ⟨cell, hcell, rfl⟩ := Option.map_eq_some_iff.mp hat
    exact ⟨cell, hcell, hcovers⟩
  · rintro ⟨cell, hcell, hcovers⟩
    exact ⟨_, by rw [hcell, Option.map_some], hcovers⟩

section
variable (hcoherent : l.agenda.Coherent l.range) (hfocal : l.Focuses focal)
  (hb : l.Built start focal row slots w)
include hcoherent hb

/-- A slot that a band covers is held. -/
theorem not_covers_of_holder?_eq_none {i y : Nat} (hfree : slots.holder? i y = none)
    (hcolumn : column < daysPerWeek) {band : Occurrence} {colspan : Nat}
    (hentry : (w.cells column)[i]? = some (.entry band colspan)) (hle : column ≤ y) :
    ¬y < column + colspan := by
  intro hy
  have hheld := hb.holder?_of_entry hcoherent hcolumn hentry hle hy
  rw [hfree] at hheld
  cases hheld

include hfocal in
/-- A slot that is held is covered by its band only, if its column has the item of it. -/
theorem existsUnique_coversSlot_of_held (hlisted : l.BandsListed start focal) {r y : Nat}
    {k : String} (hr : r < w.totalRows) (hy : y < daysPerWeek)
    (hheld : slots.holder? r y = some k) :
    ∃! p : Nat × Nat, (p.1 < w.totalRows ∧ p.2 < daysPerWeek) ∧ CoversSlot w r y p.1 p.2 := by
  obtain ⟨x, hxy, hx, band, colspan, hentry, rfl, hcovers⟩ := hb.exists_entry hcoherent hheld
  obtain ⟨hrow, o, ho, hkey⟩ := exists_banded_of_bandsListed hcoherent hfocal hb hlisted hheld
  have hcell := hb.getElem?_cells hy ho
  rw [hkey, hrow] at hcell
  refine ⟨(r, x), ⟨⟨hr, hx⟩, .inl ⟨band, colspan, hentry, rfl, hxy, hcovers⟩⟩, ?_⟩
  rintro ⟨i, x'⟩ ⟨⟨-, hx'⟩, hother⟩
  dsimp only at hx' hother
  rcases hother with ⟨band', colspan', hentry', rfl, hxy', hcovers'⟩ |
    ⟨available, hblank, rfl, rfl⟩ | ⟨hlength, hle, rfl⟩
  · have hheld' := hb.holder?_of_entry hcoherent hx' hentry' hxy' hcovers'
    rw [hheld] at hheld'
    rw [hb.column_eq_of_entry hx' hx hentry' hentry (Option.some.inj hheld').symm]
  · -- The cell of an item is no blank.
    have hshown : (l.cellOf start focal x' o).isEntry = true := isEntry_cellOf x' o
    rw [hcell] at hblank
    rw [Option.some.inj hblank] at hshown
    exact Bool.noConfusion hshown
  · have hlt := (List.getElem?_eq_some_iff.mp hcell).1
    omega

/-- A free slot among the rows of the bands is covered by its blank only. -/
theorem existsUnique_coversSlot_of_free {r y : Nat} (hr : r < w.totalRows)
    (hy : y < daysPerWeek) (hfree : slots.holder? r y = none)
    (hlt : r < (w.cells y).length) :
    ∃! p : Nat × Nat, (p.1 < w.totalRows ∧ p.2 < daysPerWeek) ∧ CoversSlot w r y p.1 p.2 := by
  have hcell := List.getElem?_eq_getElem hlt
  rcases hb.exists_of_getElem? hy hcell with ⟨o, ho, rfl, -⟩ | ⟨hblank, -⟩
  · rw [hb.holder?_of_banded hy hcoherent ho] at hfree
    cases hfree
  · rw [hblank] at hcell
    refine ⟨(r, y), ⟨⟨hr, hy⟩, .inr (.inl ⟨_, hcell, rfl, rfl⟩)⟩, ?_⟩
    rintro ⟨i, x'⟩ ⟨⟨-, hx'⟩, hother⟩
    dsimp only at hx' hother
    rcases hother with ⟨band', colspan', hentry', rfl, hxy', hcovers'⟩ | ⟨-, -, rfl, rfl⟩ |
      ⟨hlength, hle, rfl⟩
    · exact absurd hcovers'
        (not_covers_of_holder?_eq_none hcoherent hb hfree hx' hentry' hxy')
    · rfl
    · omega

/-- A free slot below the rows of the bands is covered by the single-day cell only. -/
theorem existsUnique_coversSlot_below {r y : Nat} (hy : y < daysPerWeek)
    (hfree : slots.holder? r y = none) (hle : (w.cells y).length ≤ r) :
    ∃! p : Nat × Nat, (p.1 < w.totalRows ∧ p.2 < daysPerWeek) ∧ CoversSlot w r y p.1 p.2 := by
  refine ⟨((w.cells y).length, y),
    ⟨⟨hb.length_cells_lt hy, hy⟩, .inr (.inr ⟨rfl, hle, rfl⟩)⟩, ?_⟩
  rintro ⟨i, x'⟩ ⟨⟨-, hx'⟩, hother⟩
  dsimp only at hx' hother
  rcases hother with ⟨band', colspan', hentry', rfl, hxy', hcovers'⟩ | ⟨_, hblank, rfl, rfl⟩ |
    ⟨hlength, -, rfl⟩
  · exact absurd hcovers'
      (not_covers_of_holder?_eq_none hcoherent hb hfree hx' hentry' hxy')
  · exact absurd (List.getElem?_eq_some_iff.mp hblank).1 (Nat.not_lt.mpr hle)
  · exact Prod.ext hlength rfl

include hfocal in
/-- **A slot is covered once** where no band reaches the last date of the calendar. -/
theorem existsUnique_coversSlot (hlisted : l.BandsListed start focal) {r y : Nat}
    (hr : r < w.totalRows) (hy : y < daysPerWeek) :
    ∃! p : Nat × Nat, (p.1 < w.totalRows ∧ p.2 < daysPerWeek) ∧ CoversSlot w r y p.1 p.2 := by
  cases hslot : slots.holder? r y with
  | some k => exact existsUnique_coversSlot_of_held hcoherent hfocal hb hlisted hr hy hslot
  | none =>
    by_cases hlt : r < (w.cells y).length
    · exact existsUnique_coversSlot_of_free hcoherent hb hr hy hslot hlt
    · exact existsUnique_coversSlot_below hcoherent hb hy hslot (Nat.le_of_not_lt hlt)

/-- A band that reaches the last date of the calendar shares a slot with the single-day cell
of that date. -/
theorem bandsListed_of_tiled (htiled : (l.weekBlock w focal).Tiled) :
    l.BandsListed start focal := by
  by_contra hlisted
  obtain ⟨y, hy, hnone, o, x, hx, ho, hheld⟩ :=
    exists_holder_of_not_bandsListed hcoherent hb hlisted
  -- The column of the last date has no band cells, so its single-day cell starts on top.
  have hempty : (w.cells y).length = 0 := by
    by_contra hpos
    obtain ⟨o', ho', -⟩ := hb.exists_of_lt_length hy (Nat.pos_of_ne_zero hpos)
    exact absurd ho' (hnone ▸ List.not_mem_nil)
  have hr : row o.slotKey < w.totalRows :=
    (hb.row_lt_length hx ho).trans (hb.length_cells_lt hx)
  obtain ⟨x', hle, hx', band, colspan, hentry, -, hcovers⟩ := hb.exists_entry hcoherent hheld
  obtain ⟨p, -, hunique⟩ := (tiled_iff hb).mp htiled _ hr y hy
  have hband := hunique (row o.slotKey, x')
    ⟨⟨hr, hx'⟩, .inl ⟨band, colspan, hentry, rfl, hle, hcovers⟩⟩
  have hsingle := hunique (0, y) ⟨⟨(Nat.zero_le _).trans_lt hr, hy⟩,
    .inr (.inr ⟨hempty.symm, Nat.zero_le _, rfl⟩)⟩
  obtain ⟨-, rfl⟩ := Prod.mk.inj (hband.trans hsingle.symm)
  have hlt := (List.getElem?_eq_some_iff.mp hentry).1
  omega

end

/-! ## The frame -/

section
variable (hb : l.Built start focal row slots w)
include hb

/-- A cell of the body is that of a band row, or a single-day cell. -/
theorem exists_of_mem_body {i : Nat} {cell : Cell} (h : (i, cell) ∈ (l.weekBlock w focal).body) :
    ∃ column < daysPerWeek,
      (∃ band, (w.cells column)[i]? = some band ∧
        l.bandCell band (start.addDays column) i (w.single column).inRange focal = cell) ∨
      i = (w.cells column).length ∧
        l.singleDayCell (w.single column) (start.addDays column) (w.totalRows - i) i focal =
          cell := by
  obtain ⟨-, column, hcolumn, hat⟩ := mem_body.mp h
  rw [cellAt_eq hb hcolumn] at hat
  refine ⟨column, hcolumn, ?_⟩
  split at hat
  · exact .inl (Option.map_eq_some_iff.mp hat)
  · split at hat
    · rename_i hlength
      exact .inr ⟨hlength, Option.some.inj hat⟩
    · cases hat

theorem mem_body_of_getElem? (hcolumn : column < daysPerWeek) {i : Nat} {band : BandCell}
    (h : (w.cells column)[i]? = some band) :
    (i, l.bandCell band (start.addDays column) i (w.single column).inRange focal) ∈
      (l.weekBlock w focal).body := by
  have hlength := (List.getElem?_eq_some_iff.mp h).1
  refine mem_body.mpr ⟨hlength.trans (hb.length_cells_lt hcolumn), column, hcolumn, ?_⟩
  rw [cellAt_eq hb hcolumn, if_pos hlength, h, Option.map_some]

omit hb in
theorem date_bandCell (band : BandCell) (d : Date) (i : Nat) (inView : Bool) :
    (l.bandCell band d i inView focal).date = some d := by
  cases band <;> rfl

omit hb in
theorem rowspan_bandCell (band : BandCell) (d : Date) (i : Nat) (inView : Bool) :
    (l.bandCell band d i inView focal).rowspan = 1 := by
  cases band <;> rfl

/-- A band cell ends in the row. -/
theorem column_add_colspan_le (hcoherent : l.agenda.Coherent l.range)
    (hcolumn : column < daysPerWeek) {i : Nat} {band : BandCell}
    (h : (w.cells column)[i]? = some band) (inView : Bool) :
    column + (l.bandCell band (start.addDays column) i inView focal).colspan ≤ daysPerWeek := by
  cases band with
  | entry shown colspan =>
    obtain ⟨o, ho, -, hcell⟩ := hb.exists_of_isEntry hcolumn h rfl
    obtain ⟨-, rfl, -⟩ := cellOf_eq_entry hcell
    have hreach := lt_reach hcoherent hcolumn ho
    have hend : l.reach start o ≤ daysPerWeek := reach_le o
    simp only [bandCell, Cell.styled, Cell.on, Cell.span]
    omega
  | covered o =>
    simp only [bandCell, Cell.on, Cell.span]
    omega
  | blank available =>
    simp only [bandCell, Cell.styled, Cell.on, Cell.new]
    omega

omit hb in
/-- Only the row of date boxes has a cell with the number of the week. -/
theorem eq_weekNumberCell {r : Row} (hr : r ∈ (l.weekBlock w focal).rows) {cell : Cell}
    (hcell : cell ∈ r.cells) {number : Nat} {link : Option String}
    (hcontent : cell.content = .weekNumber number link) :
    r = l.dateBoxRow w focal ∧ cell = l.weekNumberCell w.start (w.totalRows + 1) := by
  rcases List.mem_cons.mp hr with rfl | hr
  · refine ⟨rfl, ?_⟩
    rcases List.mem_append.mp hcell with hcell | hcell
    · split at hcell
      · exact List.mem_singleton.mp hcell
      · exact absurd hcell List.not_mem_nil
    · obtain ⟨column, -, rfl⟩ := List.mem_map.mp hcell
      cases hcontent
  · obtain ⟨i, -, rfl⟩ := List.mem_map.mp hr
    obtain ⟨⟨d, bands, single⟩, -, hat⟩ := List.mem_filterMap.mp hcell
    unfold bodyCell? at hat
    dsimp only at hat
    split at hat
    · obtain ⟨band, -, rfl⟩ := Option.map_eq_some_iff.mp hat
      cases band <;> cases hcontent
    · split at hat
      · obtain rfl := Option.some.inj hat
        rw [content_singleDayCell] at hcontent
        split at hcontent <;> cases hcontent
      · cases hat

/-- **The frame of a week that is laid out.** -/
theorem framed_weekBlock (hcoherent : l.agenda.Coherent l.range) :
    (l.weekBlock w focal).Framed l.agenda.on where
  rowCount := by simp [weekBlock]
  weekNumber := by
    intro r hr cell hcell number link hcontent
    obtain ⟨rfl, rfl⟩ := eq_weekNumberCell hr hcell hcontent
    refine ⟨rfl, ?_⟩
    simp [weekBlock, weekNumberCell, Cell.styled, Cell.on, Cell.span]
  inside := by
    rintro ⟨i, cell⟩ hplace
    have hstart : (l.weekBlock w focal).start = start := hb.start_eq
    have hrows : (l.weekBlock w focal).totalRows = w.totalRows := rfl
    rw [hstart, hrows]
    obtain ⟨column, hcolumn, ⟨band, hband, rfl⟩ | ⟨rfl, rfl⟩⟩ := exists_of_mem_body hb hplace
    · have hlength := (List.getElem?_eq_some_iff.mp hband).1.trans (hb.length_cells_lt hcolumn)
      refine ⟨?_, column, hcolumn, date_bandCell _ _ _ _,
        column_add_colspan_le hb hcoherent hcolumn hband _⟩
      rw [rowspan_bandCell]
      exact hlength
    · have hlength := hb.length_cells_lt hcolumn
      refine ⟨?_, column, hcolumn, rfl, hcolumn⟩
      exact (Nat.add_sub_cancel' hlength.le).le
  covered := by
    rintro ⟨i, cell⟩ hplace id hcontent
    obtain ⟨column, hcolumn, ⟨band, hband, rfl⟩ | ⟨rfl, rfl⟩⟩ := exists_of_mem_body hb hplace
    · cases band with
      | entry shown colspan => cases hcontent
      | blank available => cases hcontent
      | covered o =>
        obtain ⟨ho, x, hlt, left, colspan, hentry, hkey, hcovers⟩ :=
          hb.exists_entry_of_covered hcoherent hcolumn hband
        refine ⟨_, rfl, o, (mem_banded.mp ho).2.1, CellContent.covered.inj hcontent, _,
          mem_body_of_getElem? hb (hlt.trans hcolumn) hentry, rfl, left, rfl, hkey, _, rfl, ?_, ?_⟩
        · rw [Date.lt_def, Date.dayNumber_addDays, Date.dayNumber_addDays]
          omega
        · simp only [bandCell, Cell.styled, Cell.on, Cell.span, Date.lt_def,
            Date.dayNumber_addDays]
          omega
    · rw [content_singleDayCell] at hcontent
      split at hcontent <;> cases hcontent

end

/-- **A week block is a rectangle.**  Its frame holds for every week, and its slots are each
covered by exactly one cell if and only if no band of the week reaches the last date of the
calendar. -/
theorem tiled_weekBlock (c : Collector) (style : Style) (range : Range) (viewId : String)
    (rendered : List Int) (records : List Record) (packer : WeekPacker) (start : Date)
    (focal : Option Nat) (hspaced : c.Spaced range records)
    (hstart : start.weekday.fromSunday = style.firstDay)
    (hpacker : packer.firstDay = style.firstDay)
    (hfocal : (c.layout style range viewId rendered records).Focuses focal) :
    ((c.layout style range viewId rendered records).weekBlock
        ((c.layout style range viewId rendered records).buildWeek packer start focal).1
        focal).Framed (c.collect range rendered records).1.on ∧
      (((c.layout style range viewId rendered records).weekBlock
          ((c.layout style range viewId rendered records).buildWeek packer start focal).1
          focal).Tiled ↔
        (c.layout style range viewId rendered records).BandsListed start focal) := by
  obtain ⟨hcoherent, row, hb⟩ :=
    built_layout hspaced style viewId rendered packer (hstart.trans hpacker.symm) focal
  refine ⟨framed_weekBlock hb hcoherent, bandsListed_of_tiled hcoherent hb, fun hlisted => ?_⟩
  exact (tiled_iff hb).mpr fun r hr y hy =>
    existsUnique_coversSlot hcoherent hfocal hb hlisted hr hy

/-- The week from March 30, 2025 on. -/
theorem tiled_weekBlock_april :
    (threeWeeks.Spaced Occurrence.april aprilRecords ∧
        (⟨20177⟩ : Date).weekday.fromSunday = 0 ∧ Occurrence.april.IsMonth 2025 4) ∧
      (aprilLayout.weekBlock (aprilLayout.buildWeek { firstDay := 0 } ⟨20177⟩ (some 4)).1
          (some 4)).Framed aprilLayout.agenda.on ∧
        ((aprilLayout.weekBlock (aprilLayout.buildWeek { firstDay := 0 } ⟨20177⟩ (some 4)).1
            (some 4)).Tiled ↔
          aprilLayout.BandsListed ⟨20177⟩ (some 4)) :=
  have hspaced : threeWeeks.Spaced Occurrence.april aprilRecords := by decide +kernel
  have hmonth : Occurrence.april.IsMonth 2025 4 := ⟨by decide, by decide, by decide⟩
  ⟨⟨hspaced, by decide, hmonth⟩,
    tiled_weekBlock threeWeeks {} Occurrence.april "calendar" [] aprilRecords
      { firstDay := 0 } ⟨20177⟩ (some 4) hspaced (by decide) rfl (.inr ⟨2025, 4, hmonth, rfl⟩)⟩

/-- In the last week of the calendar the band and the single-day cell of the last date cover
one slot. -/
theorem not_tiled_lastWeek :
    threeWeeks.Spaced lastWeek lastWeekRecords ∧
      lastWeek.firstDate.weekday.fromSunday = lastWeekLayout.style.firstDay ∧
      ¬(lastWeekLayout.weekBlock
        (lastWeekLayout.buildWeek { firstDay := 2 } lastWeek.firstDate none).1 none).Tiled := by
  have hspaced : threeWeeks.Spaced lastWeek lastWeekRecords := by decide +kernel
  have hstart : lastWeek.firstDate.weekday.fromSunday = 2 := by decide
  refine ⟨hspaced, hstart, fun htiled => ?_⟩
  obtain ⟨hcoherent, row, hb⟩ :=
    built_layout hspaced { firstDay := 2 } "calendar" [] { firstDay := 2 } hstart none
  exact not_bandsListed_lastWeek (bandsListed_of_tiled hcoherent hb htiled)

end Layout
end Almanac
