import Almanac.Proofs.Week.DayCells

/-! # Date boxes

A full week shows each date in view in one date box (`Layout.cellsOn_weekBlock`).  Whether the
day has items the box reads off the columns of the week: there is a band on the day exactly if
an item wants one (`Layout.countP_isEntry_pos_iff`), and the other items are counted after the
column is cut.

A box is without an entry exactly if the day has no items, as in the calendar of small days; the
link to hidden items counts as an entry.  But a box is selected only if an item is left to see
(`Layout.BoxOf`, `Layout.boxOf_assemble`): where a day shows a link in place of all its items, its
box is neither without an entry nor selected (`Layout.not_selected_hidden`).
-/
namespace Almanac

/-- The day cells of a week that show a date. -/
def WeekBlock.cellsOn (b : WeekBlock) (d : Date) : List Cell :=
  b.rows.flatMap fun r => r.cells.filter fun c => c.shownDate? = some d

namespace SingleDayColumn

/-- The number of visible items is that of the items in the buckets. -/
theorem itemCount_eq (c : SingleDayColumn) :
    c.itemCount = (c.buckets.flatMap TimeBucket.items).length := by
  rw [itemCount, List.length_flatMap, List.sum_eq_foldr]

end SingleDayColumn

namespace Layout

variable {l : Layout} {start : Date} {focal : Option Nat} {column : Nat}

/-! ## Bands -/

/-- Whether a column that is filled has a band. -/
def HasBand (bands : List (Option BandCell)) : Prop :=
  ∃ (r : Nat) (cell : BandCell), bands[r]? = some (some cell) ∧ cell.isEntry = true

/-- One more item gives a column a band if it wants one. -/
theorem hasBand_fillItem (d visibleLast : Date) (f : ColumnFill) (o : Occurrence) :
    HasBand (l.fillItem d visibleLast f o).bands ↔
      HasBand f.bands ∨ o.wantsBand l.style.multiDayTheme = true := by
  unfold fillItem
  split
  · rename_i hwants
    refine iff_of_true ⟨_, _, getElem?_setBand_eq_some.mpr ((if_pos rfl).mpr rfl), ?_⟩
      (.inr hwants)
    split <;> rfl
  · rename_i hwants
    exact (or_iff_left hwants).symm

theorem hasBand_foldl (d visibleLast : Date) (items : List Occurrence) (f : ColumnFill) :
    HasBand (items.foldl (l.fillItem d visibleLast) f).bands ↔
      HasBand f.bands ∨ ∃ o ∈ items, o.wantsBand l.style.multiDayTheme = true := by
  induction items generalizing f with
  | nil => simp
  | cons o items ih =>
    rw [List.foldl_cons, ih, hasBand_fillItem, or_assoc, List.exists_mem_cons_iff]

/-- A column is filled by the packer that the columns to the left leave. -/
theorem getElem?_fillColumns (focal : Option Nat) (packer : WeekPacker) {dates : List Date}
    {n : Nat} {d : Date} (h : dates[n]? = some d) :
    ∃ packer', (l.fillColumns focal packer dates).1[n]? =
      some (l.fillColumn focal packer' d).1 := by
  induction dates generalizing packer n with
  | nil => cases h
  | cons first dates ih =>
    cases n with
    | zero =>
      obtain rfl := Option.some.inj h
      exact ⟨packer, rfl⟩
    | succ n => exact ih _ h

/-- **A day has a band** exactly if one of its items wants one. -/
theorem countP_isEntry_pos_iff (packer : WeekPacker) (hcolumn : column < daysPerWeek)
    (hview : l.inView focal (start.addDays column) = true) :
    0 < ((l.buildWeek packer start focal).1.cells column).countP BandCell.isEntry ↔
      ∃ o ∈ l.agenda.on (start.addDays column), o.wantsBand l.style.multiDayTheme = true := by
  have hdate : (weekDates start)[column]? = some (start.addDays column) := by
    rw [weekDates, List.getElem?_map, List.getElem?_range hcolumn]
    rfl
  obtain ⟨packer', hfill⟩ := getElem?_fillColumns (l := l) focal packer.startWeek hdate
  have hcells : (l.buildWeek packer start focal).1.cells column =
      closeBands (l.buildWeek packer start focal).2.slots column
        ((l.agenda.on (start.addDays column)).foldl
          (l.fillItem (start.addDays column) l.range.lastDate) ⟨[], [], packer'⟩).bands := by
    rw [fillColumn, if_pos hview] at hfill
    rw [buildWeek, WeekBuckets.cells, List.getElem?_mapIdx, hfill]
    rfl
  have hempty : ¬HasBand (ColumnFill.bands ⟨[], [], packer'⟩) := by
    rintro ⟨r, cell, hcell, -⟩
    cases hcell
  have hfold := (hasBand_foldl (l := l) (start.addDays column) l.range.lastDate
    (l.agenda.on (start.addDays column)) ⟨[], [], packer'⟩).trans (or_iff_right hempty)
  rw [hcells, List.countP_pos_iff, ← hfold]
  simp only [List.mem_iff_getElem?, getElem?_closeBands, Option.map_eq_some_iff]
  constructor
  · rintro ⟨_, ⟨r, band, hband, rfl⟩, hentry⟩
    cases band with
    | some cell => exact ⟨r, cell, hband, hentry⟩
    | none => cases hentry
  · rintro ⟨r, cell, hband, hentry⟩
    exact ⟨cell, ⟨r, some cell, hband, rfl⟩, hentry⟩

/-! ## Single-day items -/

/-- A column that is cut to fewer items than the day has. -/
theorem visible_le (s : Style) (count : Nat) : s.visible count ≤ count := by
  unfold Style.visible
  split
  · rename_i hcut
    rw [Style.truncates, Bool.and_eq_true, decide_eq_true_iff, decide_eq_true_iff] at hcut
    split
    · exact hcut.2.le
    · exact Nat.zero_le _
  · exact le_rfl

/-- A column shows as many items as the style allows. -/
theorem itemCount_singleDayColumn (d : Date) (items : List Occurrence) :
    (l.singleDayColumn d items).itemCount = l.style.visible items.length := by
  have hlength := (l.groupByBucket_perm items).length_eq
  have hle := visible_le l.style items.length
  rw [SingleDayColumn.itemCount_eq, singleDayColumn]
  by_cases hcut : l.style.truncates items.length
  · rw [Style.visible, if_pos hcut] at hle ⊢
    rw [if_pos hcut]
    dsimp only
    rw [flatMap_keepFirst, List.length_take, hlength]
    exact Nat.min_eq_left hle
  · rw [Style.visible, if_neg hcut, if_neg hcut]
    exact hlength

/-- A column is empty only if it has no items: a link to hidden ones counts too. -/
theorem isEmpty_singleDayColumn (d : Date) (items : List Occurrence) :
    (l.singleDayColumn d items).isEmpty = true ↔ items = [] := by
  rw [SingleDayColumn.isEmpty, itemCount_singleDayColumn, Style.visible, singleDayColumn]
  by_cases hcut : l.style.truncates items.length = true
  · rw [if_pos hcut, if_pos hcut]
    refine iff_of_false (by simp) fun hnone => ?_
    rw [hnone, Style.truncates, Bool.and_eq_true] at hcut
    exact Nat.not_lt_zero _ (of_decide_eq_true hcut.2)
  · rw [if_neg hcut, if_neg hcut, ← List.length_eq_zero_iff]
    simp

theorem visible_pos_iff (s : Style) (count : Nat) :
    0 < s.visible count ↔ 0 < count ∧ ¬(s.overflow = .hide ∧ s.truncates count = true) := by
  unfold Style.visible
  by_cases hcut : s.truncates count = true
  · have hmax := hcut
    rw [Style.truncates, Bool.and_eq_true, decide_eq_true_iff, decide_eq_true_iff] at hmax
    rw [if_pos hcut]
    cases s.overflow with
    | more => simp [hmax.1, hmax.1.trans hmax.2]
    | hide => simp [hcut]
  · rw [if_neg hcut]
    simp [hcut]

/-! ## The box of a day -/

/-- Whether a day shows a link in place of all its items. -/
def OnlyLinks (l : Layout) (d : Date) : Prop :=
  l.style.overflow = .hide ∧ l.style.truncates (l.agenda.on d).length = true ∧
    ∀ o ∈ l.agenda.on d, ¬ o.wantsBand l.style.multiDayTheme = true

instance (l : Layout) (d : Date) : Decidable (l.OnlyLinks d) :=
  inferInstanceAs (Decidable (_ ∧ _ ∧ _))

/-- What the date box of a day says of its items. -/
structure BoxOf (l : Layout) (d : Date) (box : Cell) : Prop where
  noEntry : box.state.noEntry = false ↔ l.agenda.on d ≠ []
  selected : box.state.selected = true ↔ l.agenda.on d ≠ [] ∧ ¬ l.OnlyLinks d

theorem agenda_on_eq_nil_iff (d : Date) :
    l.agenda.on d = [] ↔ l.singles d = [] ∧
      ¬∃ o ∈ l.agenda.on d, o.wantsBand l.style.multiDayTheme = true := by
  rw [singles, List.filter_eq_nil_iff, List.eq_nil_iff_forall_not_mem]
  constructor
  · intro hnone
    refine ⟨fun o ho => absurd ho (hnone o), ?_⟩
    rintro ⟨o, ho, -⟩
    exact hnone o ho
  · rintro ⟨hsingles, hbands⟩ o ho
    refine hsingles o ho ?_
    rw [Bool.not_eq_true', Bool.eq_false_iff]
    exact fun hwants => hbands ⟨o, ho, hwants⟩

/-- An item is left to see on a day that has items, unless it shows only a link. -/
theorem exists_visible_iff (d : Date) :
    ((∃ o ∈ l.agenda.on d, o.wantsBand l.style.multiDayTheme = true) ∨
        0 < l.style.visible (l.singles d).length) ↔
      l.agenda.on d ≠ [] ∧ ¬ l.OnlyLinks d := by
  by_cases hband : ∃ o ∈ l.agenda.on d, o.wantsBand l.style.multiDayTheme = true
  · refine iff_of_true (.inl hband) ?_
    obtain ⟨o, ho, hwants⟩ := hband
    exact ⟨List.ne_nil_of_mem ho, fun hlinks => hlinks.2.2 o ho hwants⟩
  · have hnone : ∀ o ∈ l.agenda.on d, ¬ o.wantsBand l.style.multiDayTheme = true :=
      fun o ho hwants => hband ⟨o, ho, hwants⟩
    have hsingles : l.singles d = l.agenda.on d :=
      List.filter_eq_self.mpr fun o ho => by simpa using hnone o ho
    rw [or_iff_right hband, hsingles, visible_pos_iff, List.length_pos_iff, OnlyLinks,
      and_iff_left hnone]

/-- **The date box of a day in view.** -/
theorem boxOf_boxCell (packer : WeekPacker) (hcolumn : column < daysPerWeek)
    (hview : l.inView focal (start.addDays column) = true) :
    l.BoxOf (start.addDays column)
      (l.boxCell (l.buildWeek packer start focal).1 focal column) := by
  have hsingle : (l.buildWeek packer start focal).1.single column =
      l.singleDayColumn (start.addDays column) (l.singles (start.addDays column)) := by
    rw [single_buildWeek packer start focal hcolumn, singleColumn, if_pos hview]
  have hrange : (l.singleDayColumn (start.addDays column)
      (l.singles (start.addDays column))).inRange = true := by
    rw [← hsingle, single_buildWeek packer start focal hcolumn, inRange_singleColumn, hview]
  have hbands := countP_isEntry_pos_iff packer hcolumn hview
  constructor
  · show (((l.buildWeek packer start focal).1.single column).isEmpty &&
      ((l.buildWeek packer start focal).1.cells column).countP BandCell.isEntry == 0) = false ↔ _
    rw [hsingle, Ne, agenda_on_eq_nil_iff, ← hbands, ← isEmpty_singleDayColumn,
      Nat.pos_iff_ne_zero, not_not, Bool.eq_false_iff, Ne, Bool.and_eq_true, beq_iff_eq]
  · show (((l.buildWeek packer start focal).1.single column).inRange &&
      decide (0 < ((l.buildWeek packer start focal).1.cells column).countP BandCell.isEntry +
        ((l.buildWeek packer start focal).1.single column).itemCount)) = true ↔ _
    rw [hsingle, hrange, Bool.true_and, decide_eq_true_iff, itemCount_singleDayColumn,
      Nat.add_pos_iff_pos_or_pos, hbands, exists_visible_iff]

/-! ## The cell of a date -/

/-- A row of day cells has one cell for each date that it shows. -/
theorem filter_shownDate? {lead : List Cell} {days : Nat → Cell} {shown : Date → Bool}
    (hlead : ∀ c ∈ lead, c.shownDate? = none)
    (hdays : ∀ column < daysPerWeek, (days column).shownDate? =
      if shown (start.addDays column) then some (start.addDays column) else none)
    (hcolumn : column < daysPerWeek) (hshown : shown (start.addDays column) = true) :
    (lead ++ (List.range daysPerWeek).map days).filter
        (fun c => c.shownDate? = some (start.addDays column)) = [days column] := by
  have hnone : lead.filter (fun c => c.shownDate? = some (start.addDays column)) = [] :=
    List.filter_eq_nil_iff.mpr fun c hc => by simp [hlead c hc]
  have honly : (List.range daysPerWeek).filter
        ((fun c : Cell => decide (c.shownDate? = some (start.addDays column))) ∘ days) =
      (List.range daysPerWeek).filter fun x => x = column := by
    refine List.filter_congr fun x hx => ?_
    rw [Function.comp_apply, decide_eq_decide, hdays x (List.mem_range.mp hx)]
    constructor
    · intro heq
      split at heq
      · have hday := congrArg Date.dayNumber (Option.some.inj heq)
        rw [Date.dayNumber_addDays, Date.dayNumber_addDays] at hday
        omega
      · cases heq
    · rintro rfl
      rw [if_pos hshown]
  rw [List.filter_append, hnone, List.nil_append, List.filter_map, honly, List.filter_eq,
    List.nodup_range.count, if_pos (List.mem_range.mpr hcolumn)]
  rfl

/-- **A week of full days has one date box for each date in view.** -/
theorem cellsOn_weekBlock (packer : WeekPacker) (hcolumn : column < daysPerWeek)
    (hview : l.inView focal (start.addDays column) = true) :
    (l.weekBlock (l.buildWeek packer start focal).1 focal).cellsOn (start.addDays column) =
      [l.boxCell (l.buildWeek packer start focal).1 focal column] := by
  have hbody : (((List.range (l.buildWeek packer start focal).1.totalRows).map
      (l.bodyRow (l.buildWeek packer start focal).1 focal)).flatMap fun r =>
        r.cells.filter fun c => c.shownDate? = some (start.addDays column)) = [] := by
    refine List.flatMap_eq_nil_iff.mpr fun r hr => List.filter_eq_nil_iff.mpr fun c hc => ?_
    obtain ⟨index, -, rfl⟩ := List.mem_map.mp hr
    rw [Cell.shownDate?, isDay_bodyRow hc, Bool.false_and]
    simp
  rw [WeekBlock.cellsOn, weekBlock, List.flatMap_cons, hbody, List.append_nil, cells_dateBoxRow]
  exact filter_shownDate? (fun c hc => (spec_of_mem_leadCells hc).2)
    (fun x hx => shownDate?_boxCell packer start focal hx) hcolumn hview

theorem cellsOn_miniWeek (month : Nat) (hcolumn : column < daysPerWeek)
    (hview : l.inView (some month) (start.addDays column) = true) :
    (l.miniWeek month start).cellsOn (start.addDays column) =
      [l.miniCell month (start.addDays column)] := by
  rw [WeekBlock.cellsOn, cells_miniWeek, List.flatMap_singleton]
  have hdays : ∀ x < daysPerWeek, (l.miniCell month (start.addDays x)).shownDate? =
      if l.inView (some month) (start.addDays x) then some (start.addDays x) else none :=
    fun x _ => shownDate?_miniCell month _
  exact filter_shownDate? (fun c hc => (spec_of_mem_leadCells hc).2) hdays hcolumn hview

/-- **A small day has events** exactly if its date is in view and has items. -/
theorem hasEvents_miniCell (month : Nat) (d : Date) :
    (l.miniCell month d).state.hasEvents = true ↔
      l.inView (some month) d = true ∧ l.agenda.on d ≠ [] := by
  show (l.inView (some month) d && !(l.agenda.on d).isEmpty) = true ↔ _
  rw [Bool.and_eq_true, Bool.not_eq_true', List.isEmpty_eq_false_iff]

/-! ## The boxes of a calendar -/

/-- The weeks of a full calendar are the laid-out ones. -/
theorem mem_weekBlocks_assemble {block : WeekBlock} {packerFirstDay : Nat}
    (hfull : l.range.granularity = .month ∧ l.style.mini = false ∨
      l.range.granularity = .week)
    (h : block ∈ (l.assemble (l.packWeeks packerFirstDay)).weekBlocks) :
    ∃ start, l.weekBlock (l.buildWeek { firstDay := packerFirstDay } start l.focus).1 l.focus =
      block := by
  have hpacked : ∃ w ∈ l.packWeeks packerFirstDay, l.weekBlock w l.focus = block := by
    unfold assemble at h
    rcases hfull with ⟨hmonth, hmini⟩ | hweek
    · rw [hmonth, hmini] at h
      obtain ⟨w, hw, rfl⟩ := List.mem_map.mp h
      exact ⟨w, hw, by rw [focus, hmonth]; rfl⟩
    · rw [hweek] at h
      dsimp only at h
      split at h
      · rename_i w rest hpacked
        obtain rfl := List.mem_singleton.mp h
        exact ⟨w, hpacked ▸ List.mem_cons_self, by rw [focus, hweek]⟩
      · exact absurd h List.not_mem_nil
  obtain ⟨w, hw, rfl⟩ := hpacked
  obtain ⟨start, -, rfl⟩ := exists_of_mem_packWeeks hw
  exact ⟨start, rfl⟩

/-- **Date boxes.**  In every week of a full month or of a week, each date in view has one box.
The box is without an entry exactly if nothing was collected for the date, and so the one small
day of the date in a small week has events exactly if the box has an entry.  The box is selected
exactly if something was collected for the date, unless the date shows only a link. -/
theorem boxOf_assemble (c : Collector) (style : Style) (range : Range) (viewId : String)
    (rendered : List Int) (records : List Record) (packerFirstDay : Nat)
    (hfull : range.granularity = .month ∧ style.mini = false ∨ range.granularity = .week) :
    ∀ block ∈ ((c.layout style range viewId rendered records).assemble
        ((c.layout style range viewId rendered records).packWeeks packerFirstDay)).weekBlocks,
      ∀ column < daysPerWeek,
        (c.layout style range viewId rendered records).inView
            (c.layout style range viewId rendered records).focus
            (block.start.addDays column) = true →
          ∃ box, block.cellsOn (block.start.addDays column) = [box] ∧
            (c.layout style range viewId rendered records).BoxOf
              (block.start.addDays column) box ∧
            ∀ month start, block.start.addDays column ∈ weekDates start →
              (c.layout style range viewId rendered records).inView (some month)
                  (block.start.addDays column) = true →
                ∃ small,
                  ((c.layout style range viewId rendered records).miniWeek month start).cellsOn
                    (block.start.addDays column) = [small] ∧
                  (small.state.hasEvents = true ↔ box.state.noEntry = false) := by
  intro block hblock column hcolumn hview
  obtain ⟨start, rfl⟩ := mem_weekBlocks_assemble
    (l := c.layout style range viewId rendered records) hfull hblock
  have hstart : ((c.layout style range viewId rendered records).weekBlock
      ((c.layout style range viewId rendered records).buildWeek { firstDay := packerFirstDay }
        start (c.layout style range viewId rendered records).focus).1
      (c.layout style range viewId rendered records).focus).start = start := rfl
  rw [hstart] at hview ⊢
  have hbox := boxOf_boxCell { firstDay := packerFirstDay } hcolumn hview
  refine ⟨_, cellsOn_weekBlock _ hcolumn hview, hbox, fun month start' hrow hshown => ?_⟩
  obtain ⟨column', hcolumn', hdate⟩ := List.mem_map.mp hrow
  have hsmall := cellsOn_miniWeek (l := c.layout style range viewId rendered records) month
    (List.mem_range.mp hcolumn') (hdate ▸ hshown)
  rw [hdate] at hsmall
  refine ⟨_, hsmall, ?_⟩
  rw [hasEvents_miniCell, and_iff_right hshown, hbox.noEntry]

/-- A calendar of two talks on April 3, 2025, where a day with more than one item shows a link
in place of them. -/
def hiddenTalksLayout : Layout :=
  threeWeeks.layout { maxItems := 1, overflow := .hide } Occurrence.april "calendar" []
    (aprilTalks.take 2)

theorem boxOf_assemble_april :
    (hiddenTalksLayout.range.granularity = .month ∧ hiddenTalksLayout.style.mini = false ∨
        hiddenTalksLayout.range.granularity = .week) ∧
      ∀ block ∈ (hiddenTalksLayout.assemble (hiddenTalksLayout.packWeeks 0)).weekBlocks,
        ∀ column < daysPerWeek,
          hiddenTalksLayout.inView hiddenTalksLayout.focus (block.start.addDays column) = true →
            ∃ box, block.cellsOn (block.start.addDays column) = [box] ∧
              hiddenTalksLayout.BoxOf (block.start.addDays column) box ∧
              ∀ month start, block.start.addDays column ∈ weekDates start →
                hiddenTalksLayout.inView (some month) (block.start.addDays column) = true →
                  ∃ small, (hiddenTalksLayout.miniWeek month start).cellsOn
                      (block.start.addDays column) = [small] ∧
                    (small.state.hasEvents = true ↔ box.state.noEntry = false) :=
  ⟨by decide, boxOf_assemble threeWeeks { maxItems := 1, overflow := .hide } Occurrence.april
    "calendar" [] (aprilTalks.take 2) 0 (by decide)⟩

/-- The two talks of April 3, 2025 are behind a link: the box of the day is neither without an
entry nor selected. -/
theorem not_selected_hidden :
    (hiddenTalksLayout.agenda.on ⟨20181⟩).length = 2 ∧
      ∃ block ∈ (hiddenTalksLayout.assemble (hiddenTalksLayout.packWeeks 0)).weekBlocks,
        ∃ box, block.cellsOn ⟨20181⟩ = [box] ∧ box.state.noEntry = false ∧
          box.state.selected = false := by
  have hperm : (hiddenTalksLayout.agenda.on ⟨20181⟩).Perm
      (((Collector.fresh [] (aprilTalks.take 2)).flatMap
        (threeWeeks.fragments Occurrence.april)).filter fun f => f.day = ⟨20181⟩) :=
    Agenda.on_perm _ _
  have hlength : (hiddenTalksLayout.agenda.on ⟨20181⟩).length = 2 :=
    hperm.length_eq.trans (by decide +kernel)
  have hlinks : hiddenTalksLayout.OnlyLinks ⟨20181⟩ := by
    refine ⟨rfl, by rw [hlength]; rfl, fun o ho => ?_⟩
    have hnone : ∀ o ∈ ((Collector.fresh [] (aprilTalks.take 2)).flatMap
        (threeWeeks.fragments Occurrence.april)).filter fun f => f.day = ⟨20181⟩,
          ¬ o.wantsBand true = true := by decide +kernel
    exact hnone o (hperm.mem_iff.mp ho)
  -- The row of Sunday, March 30 shows the date in its fifth column.
  have hrow : (⟨20177⟩ : Date) ∈ hiddenTalksLayout.monthWeekStarts 2025 4 := by decide +kernel
  have hcolumn : 4 < daysPerWeek := by decide
  have hview : hiddenTalksLayout.inView (some 4) ((⟨20177⟩ : Date).addDays (4 : Nat)) = true := by
    decide +kernel
  have hbox := boxOf_boxCell { firstDay := 0 } hcolumn hview
  have hitems : hiddenTalksLayout.agenda.on ⟨20181⟩ ≠ [] := by
    rw [← List.length_pos_iff, hlength]
    exact Nat.zero_lt_two
  refine ⟨hlength, _, List.mem_map_of_mem (List.mem_map_of_mem hrow), _,
    cellsOn_weekBlock { firstDay := 0 } hcolumn hview, hbox.noEntry.mpr hitems, ?_⟩
  rw [Bool.eq_false_iff]
  exact fun hselected => (hbox.selected.mp hselected).2 hlinks

end Layout
end Almanac
