import Almanac.Proofs.Civil.DateText
import Almanac.Proofs.Week.Shown
import Mathlib.Data.List.Flatten

/-! # Identifiers of cells

The identifier of a cell is that of the view, a hyphen and a name that says what the cell is for
(`CellName`).  The text of a name determines the name (`CellName.text_injective`): a name begins
with a word or with a date, a date does not begin with a letter, and it shows where it ends, so
what follows it is a row, a word or nothing.

In a table, weeks have no date in common, and a day has one name for its date box and one for each
row below it.  So the identifiers of a month of full days, a month of small days and a week are
distinct (`Layout.distinctIds_tables`).
-/
namespace Almanac

/-- What a cell of a table is for. -/
inductive CellName where
  | weekHeader
  | weekday (day : Weekday)
  | weekNumber (start : Date)
  | dateBox (d : Date)
  /-- A day in a row below the date boxes. -/
  | body (d : Date) (index : Nat)
  | smallDay (d : Date)
  deriving DecidableEq, Repr

theorem Weekday.lowerName_injective {a b : Weekday} (h : a.lowerName = b.lowerName) : a = b := by
  cases a <;> cases b <;> first | rfl | exact absurd h (by decide)

/-- The weekdays of a week row are seven different ones. -/
theorem Weekday.nodup_ordered (firstDay : Nat) : (ordered firstDay).Nodup := by
  refine List.Nodup.map_on (fun i hi j hj heq => ?_) List.nodup_range
  have hday := congrArg fromSunday heq
  rw [fromSunday_ofSunday, fromSunday_ofSunday] at hday
  rw [List.mem_range] at hi hj
  omega

/-- A written date names no other date, also in front of other text. -/
theorem Date.eq_of_text_append {d e : Date} {rest rest' : List Char}
    (hend : ∀ c ∈ rest.head?, c.isDigit = false) (hend' : ∀ c ∈ rest'.head?, c.isDigit = false)
    (h : d.text.toList ++ rest = e.text.toList ++ rest') : d = e ∧ rest = rest' :=
  (Fields.dateText_text d).eq_of_append (Fields.dateText_text e) hend hend' h

namespace CellName

/-- The text of a name. -/
def text : CellName → String
  | weekHeader => "week-header"
  | weekday day => "header-" ++ day.lowerName
  | weekNumber start => "weekno-" ++ start.text
  | dateBox d => d.text ++ "-date-box"
  | body d index => d.text ++ "-" ++ Text.pad 0 index
  | smallDay d => d.text

/-- The date that the text of a name begins with, and what follows it. -/
def front? : CellName → Option (Date × List Char)
  | dateBox d => some (d, "-date-box".toList)
  | body d index => some (d, '-' :: Text.natChars index)
  | smallDay d => some (d, [])
  | _ => none

variable {x y : CellName} {d : Date} {rest : List Char}

theorem toList_text_of_front? (h : x.front? = some (d, rest)) :
    x.text.toList = d.text.toList ++ rest ∧ ∀ c ∈ rest.head?, c.isDigit = false := by
  cases x with
  | dateBox e =>
    obtain ⟨rfl, rfl⟩ := Prod.mk.inj (Option.some.inj h)
    rw [text, String.toList_append]
    exact ⟨rfl, Fields.isDigit_head_eq_false (by decide)⟩
  | body e index =>
    obtain ⟨rfl, rfl⟩ := Prod.mk.inj (Option.some.inj h)
    simp only [text, Text.pad, Text.padChars_zero, String.toList_append, String.toList_ofList,
      List.append_assoc]
    exact ⟨rfl, Fields.isDigit_head_eq_false (by decide)⟩
  | smallDay e =>
    obtain ⟨rfl, rfl⟩ := Prod.mk.inj (Option.some.inj h)
    rw [text, List.append_nil]
    exact ⟨rfl, by simp⟩
  | weekHeader => cases h
  | weekday day => cases h
  | weekNumber start => cases h

/-- A name that does not begin with a date begins with a word. -/
theorem head?_text_of_front?_eq_none (h : x.front? = none) :
    x.text.toList.head? = some 'w' ∨ x.text.toList.head? = some 'h' := by
  cases x with
  | weekHeader => exact .inl rfl
  | weekday day =>
    rw [text, String.toList_append]
    exact .inr rfl
  | weekNumber start =>
    rw [text, String.toList_append]
    exact .inl rfl
  | dateBox d => cases h
  | body d index => cases h
  | smallDay d => cases h

/-- No name begins with a date and with a word. -/
theorem text_ne_of_front? (hx : x.front? = some (d, rest)) (hy : y.front? = none) :
    x.text ≠ y.text := by
  intro heq
  have hdate := Fields.dateText_text d
  have hword := head?_text_of_front?_eq_none hy
  rw [← heq, (toList_text_of_front? hx).1,
    List.head?_append_of_ne_nil _ (List.ne_nil_of_mem hdate.hyphen_mem)] at hword
  rcases hword with hw | hh
  · exact hdate.notMem (by decide) (by decide) (by decide) (List.mem_of_head? hw)
  · exact hdate.notMem (by decide) (by decide) (by decide) (List.mem_of_head? hh)

/-- A name is determined by its date and what follows the date. -/
theorem eq_of_front? (hx : x.front? = some (d, rest)) (hy : y.front? = some (d, rest)) :
    x = y := by
  -- A row is a number and not a word.
  have hword : ∀ index, "-date-box".toList ≠ '-' :: Text.natChars index := by
    intro index heq
    have hletter : 'd' ∈ Text.natChars index := by
      rw [← (List.cons.inj heq).2]
      exact List.mem_cons_self
    exact absurd (Text.isDigit_of_mem_natChars hletter) (by decide)
  have hindex : ∀ i j, Text.natChars i = Text.natChars j → i = j := by
    intro i j heq
    rw [← Text.digitsValue_natChars i, heq, Text.digitsValue_natChars]
  cases x <;> cases y <;> grind [front?]

/-! The words differ in their fifth characters. -/

theorem getElem?_text_weekHeader : weekHeader.text.toList[4]? = some '-' := rfl

theorem getElem?_text_weekday (day : Weekday) : (weekday day).text.toList[4]? = some 'e' := by
  rw [text, String.toList_append]
  rfl

theorem getElem?_text_weekNumber (start : Date) :
    (weekNumber start).text.toList[4]? = some 'n' := by
  rw [text, String.toList_append]
  rfl

/-- A word determines the name, with the weekday or the date that follows it. -/
theorem eq_of_word (hx : x.front? = none) (hy : y.front? = none) (h : x.text = y.text) :
    x = y := by
  have hfifth : x.text.toList[4]? = y.text.toList[4]? := by rw [h]
  cases x with
  | weekHeader =>
    cases y with
    | weekHeader => rfl
    | weekday day => simp [getElem?_text_weekHeader, getElem?_text_weekday] at hfifth
    | weekNumber start => simp [getElem?_text_weekHeader, getElem?_text_weekNumber] at hfifth
    | dateBox _ | body _ _ | smallDay _ => cases hy
  | weekday day =>
    cases y with
    | weekHeader => simp [getElem?_text_weekHeader, getElem?_text_weekday] at hfifth
    | weekday day' => rw [Weekday.lowerName_injective ((String.append_right_inj _).mp h)]
    | weekNumber start => simp [getElem?_text_weekday, getElem?_text_weekNumber] at hfifth
    | dateBox _ | body _ _ | smallDay _ => cases hy
  | weekNumber start =>
    cases y with
    | weekHeader => simp [getElem?_text_weekHeader, getElem?_text_weekNumber] at hfifth
    | weekday day => simp [getElem?_text_weekday, getElem?_text_weekNumber] at hfifth
    | weekNumber start' =>
      have htext : start.text.toList ++ [] = start'.text.toList ++ [] := by
        rw [(String.append_right_inj _).mp h]
      rw [(Date.eq_of_text_append (by simp) (by simp) htext).1]
    | dateBox _ | body _ _ | smallDay _ => cases hy
  | dateBox _ | body _ _ | smallDay _ => cases hx

/-- **The text of a name determines the name.** -/
theorem text_injective (h : x.text = y.text) : x = y := by
  cases hx : x.front? with
  | none =>
    cases hy : y.front? with
    | none => exact eq_of_word hx hy h
    | some q => exact absurd h.symm (text_ne_of_front? hy hx)
  | some p =>
    cases hy : y.front? with
    | none => exact absurd h (text_ne_of_front? hx hy)
    | some q =>
      obtain ⟨htext, hend⟩ := toList_text_of_front? hx
      obtain ⟨htext', hend'⟩ := toList_text_of_front? hy
      obtain ⟨hdate, hrest⟩ :=
        Date.eq_of_text_append hend hend' (by rw [← htext, ← htext', h])
      exact eq_of_front? hx (by rw [hy, hdate, hrest])

end CellName

/-! ## The names of a table -/

namespace CellName

/-- The date of a name of a week. -/
def date? : CellName → Option Date
  | weekNumber d | dateBox d | body d _ | smallDay d => some d
  | _ => none

end CellName

namespace Layout

variable (l : Layout)

/-- The identifier of a cell that has a name. -/
def cellId (x : CellName) : String :=
  l.viewId ++ "-" ++ x.text

/-- The name in the column of week numbers, if there is one. -/
def leadNames (x : CellName) : List CellName :=
  if l.showsWeekNumbers then [x] else []

/-- The names of a header. -/
def headerNames : List CellName :=
  l.leadNames .weekHeader ++ (Weekday.ordered l.style.firstDay).map .weekday

/-- The names of a week of full days, with a row of date boxes and a number of rows below it. -/
def blockNames (start : Date) (rows : Nat) : List CellName :=
  l.leadNames (.weekNumber start) ++ ((weekDates start).map .dateBox ++
    (List.range rows).flatMap fun index => (weekDates start).map fun d => .body d index)

/-- The names of a week of small days. -/
def smallNames (start : Date) : List CellName :=
  l.leadNames (.weekNumber start) ++ (weekDates start).map .smallDay

variable {l} {start d : Date} {rows : Nat} {x y : CellName}

theorem cellId_injective (h : l.cellId x = l.cellId y) : x = y :=
  CellName.text_injective ((String.append_right_inj _).mp h)

theorem nodup_leadNames (x : CellName) : (l.leadNames x).Nodup := by
  unfold leadNames
  split
  · exact List.nodup_singleton _
  · exact List.nodup_nil

theorem eq_of_mem_leadNames (h : x ∈ l.leadNames y) : x = y := by
  unfold leadNames at h
  split at h
  · exact List.mem_singleton.mp h
  · exact absurd h List.not_mem_nil

theorem nodup_weekDates (start : Date) : (weekDates start).Nodup :=
  (pairwise_weekDates start).imp ne_of_lt

theorem nodup_headerNames (l : Layout) : l.headerNames.Nodup := by
  refine List.nodup_append.mpr ⟨nodup_leadNames _, ?_, ?_⟩
  · exact (Weekday.nodup_ordered _).map fun _ _ h => CellName.weekday.inj h
  · rintro x hx y hy rfl
    obtain ⟨day, -, rfl⟩ := List.mem_map.mp hy
    cases eq_of_mem_leadNames hx

/-- A day has one name for its date box and one for each row below it. -/
theorem nodup_blockNames (l : Layout) (start : Date) (rows : Nat) :
    (l.blockNames start rows).Nodup := by
  refine List.nodup_append.mpr ⟨nodup_leadNames _, List.nodup_append.mpr ⟨?_, ?_, ?_⟩, ?_⟩
  · exact (nodup_weekDates start).map fun _ _ h => CellName.dateBox.inj h
  · refine List.nodup_flatMap.mpr ⟨fun index _ => ?_, List.nodup_range.imp ?_⟩
    · exact (nodup_weekDates start).map fun _ _ h => (CellName.body.inj h).1
    · intro i j hne x hx hx'
      obtain ⟨d, -, rfl⟩ := List.mem_map.mp hx
      obtain ⟨e, -, heq⟩ := List.mem_map.mp hx'
      exact hne (CellName.body.inj heq).2.symm
  · rintro x hx y hy rfl
    obtain ⟨d, -, rfl⟩ := List.mem_map.mp hx
    obtain ⟨index, -, hy⟩ := List.mem_flatMap.mp hy
    obtain ⟨e, -, heq⟩ := List.mem_map.mp hy
    cases heq
  · rintro x hx y hy rfl
    obtain rfl := eq_of_mem_leadNames hx
    rcases List.mem_append.mp hy with hy | hy
    · obtain ⟨d, -, heq⟩ := List.mem_map.mp hy
      cases heq
    · obtain ⟨index, -, hy⟩ := List.mem_flatMap.mp hy
      obtain ⟨d, -, heq⟩ := List.mem_map.mp hy
      cases heq

theorem nodup_smallNames (l : Layout) (start : Date) : (l.smallNames start).Nodup := by
  refine List.nodup_append.mpr ⟨nodup_leadNames _, ?_, ?_⟩
  · exact (nodup_weekDates start).map fun _ _ h => CellName.smallDay.inj h
  · rintro x hx y hy rfl
    obtain rfl := eq_of_mem_leadNames hx
    obtain ⟨d, -, heq⟩ := List.mem_map.mp hy
    cases heq

/-- A name in front of a week row is on the first date of the row. -/
theorem date?_of_mem_leadNames (h : x ∈ l.leadNames (.weekNumber start)) :
    ∃ d ∈ weekDates start, x.date? = some d := by
  refine ⟨start, List.mem_map.mpr ⟨0, by decide, start.addDays_zero⟩, ?_⟩
  rw [eq_of_mem_leadNames h]
  rfl

/-- The names of a week are on its dates. -/
theorem date?_of_mem_blockNames (h : x ∈ l.blockNames start rows) :
    ∃ d ∈ weekDates start, x.date? = some d := by
  rcases List.mem_append.mp h with h | h
  · exact date?_of_mem_leadNames h
  · rcases List.mem_append.mp h with h | h
    · obtain ⟨d, hd, rfl⟩ := List.mem_map.mp h
      exact ⟨d, hd, rfl⟩
    · obtain ⟨index, -, h⟩ := List.mem_flatMap.mp h
      obtain ⟨d, hd, rfl⟩ := List.mem_map.mp h
      exact ⟨d, hd, rfl⟩

theorem date?_of_mem_smallNames (h : x ∈ l.smallNames start) :
    ∃ d ∈ weekDates start, x.date? = some d := by
  rcases List.mem_append.mp h with h | h
  · exact date?_of_mem_leadNames h
  · obtain ⟨d, hd, rfl⟩ := List.mem_map.mp h
    exact ⟨d, hd, rfl⟩

theorem date?_of_mem_headerNames (h : x ∈ l.headerNames) : x.date? = none := by
  rcases List.mem_append.mp h with h | h
  · rw [eq_of_mem_leadNames h]
    rfl
  · obtain ⟨day, -, rfl⟩ := List.mem_map.mp h
    rfl

/-- Week rows that start at least seven days apart have no date in common. -/
theorem not_mem_weekDates_of_apart {other : Date} (h : start.addDays daysPerWeek ≤ other)
    (hd : d ∈ weekDates start) : d ∉ weekDates other := by
  intro hd'
  obtain ⟨i, hi, rfl⟩ := List.mem_map.mp hd
  obtain ⟨j, -, heq⟩ := List.mem_map.mp hd'
  have hday := congrArg Date.dayNumber heq
  rw [Date.dayNumber_addDays, Date.dayNumber_addDays] at hday
  rw [Date.le_def, Date.dayNumber_addDays] at h
  rw [List.mem_range] at hi
  omega

/-- **The names of a table are distinct** if those of each week are distinct and on its dates, and
the weeks do not overlap. -/
theorem nodup_tableNames {Week : Type} {weeks : List Week} {start : Week → Date}
    {names : Week → List CellName} (hnodup : ∀ w ∈ weeks, (names w).Nodup)
    (hdates : ∀ w ∈ weeks, ∀ x ∈ names w, ∃ d ∈ weekDates (start w), x.date? = some d)
    (hapart : weeks.Pairwise fun v w => (start v).addDays daysPerWeek ≤ start w) :
    (l.headerNames ++ weeks.flatMap names).Nodup := by
  refine List.nodup_append.mpr ⟨nodup_headerNames l, List.nodup_flatMap.mpr ⟨hnodup, ?_⟩, ?_⟩
  · refine hapart.imp_of_mem fun {v w} hv hw h x hx hx' => ?_
    obtain ⟨d, hd, hdate⟩ := hdates v hv x hx
    obtain ⟨e, he, hdate'⟩ := hdates w hw x hx'
    obtain rfl := Option.some.inj (hdate.symm.trans hdate')
    exact not_mem_weekDates_of_apart h hd he
  · rintro x hx y hy rfl
    obtain ⟨w, hw, hy⟩ := List.mem_flatMap.mp hy
    obtain ⟨d, -, hdate⟩ := hdates w hw x hy
    rw [date?_of_mem_headerNames hx] at hdate
    cases hdate

/-! ## The identifiers of a table -/

/-- Cells that a list of places may have are no more than its places, in their order. -/
theorem map_filterMap_sublist {Place Id : Type} {cell? : Place → Option Cell} {id : Cell → Id}
    {name : Place → Id} (h : ∀ p c, cell? p = some c → id c = name p) (places : List Place) :
    ((places.filterMap cell?).map id).Sublist (places.map name) := by
  induction places with
  | nil => exact .slnil
  | cons p rest ih =>
    cases hcell : cell? p with
    | none =>
      rw [List.filterMap_cons_none hcell]
      exact ih.cons _
    | some c =>
      rw [List.filterMap_cons_some hcell, List.map_cons, List.map_cons, h p c hcell]
      exact ih.cons_cons _

theorem id_weekNumberCell (start : Date) (rowspan : Nat) :
    (l.weekNumberCell start rowspan).id = l.cellId (.weekNumber start) := by
  have hword : "-weekno-" = "-" ++ "weekno-" := by decide
  show l.viewId ++ "-weekno-" ++ start.text = l.viewId ++ "-" ++ ("weekno-" ++ start.text)
  simp only [hword, String.append_assoc]

theorem bodyId_eq (d : Date) (index : Nat) : l.bodyId d index = l.cellId (.body d index) := by
  rw [bodyId, cellId, CellName.text]
  simp only [String.append_assoc]

theorem ids_headerRow (l : Layout) :
    l.headerRow.cells.map Cell.id = l.headerNames.map l.cellId := by
  have hweek : l.weekHeaderCell.id = l.cellId .weekHeader := by
    have hword : "-week-header" = "-" ++ "week-header" := by decide
    show l.viewId ++ "-week-header" = l.viewId ++ "-" ++ "week-header"
    rw [hword, String.append_assoc]
  have hday : ∀ day, (l.dayNameCell day).id = l.cellId (.weekday day) := by
    intro day
    have hword : "-header-" = "-" ++ "header-" := by decide
    show l.viewId ++ "-header-" ++ day.lowerName = l.viewId ++ "-" ++ ("header-" ++ day.lowerName)
    simp only [hword, String.append_assoc]
  rw [headerRow, headerNames, leadNames, List.map_append, List.map_append, List.map_map,
    List.map_map]
  refine congrArg₂ _ ?_ (List.map_congr_left fun day _ => hday day)
  split
  · rw [List.map_singleton, List.map_singleton, hweek]
  · rfl

theorem ids_leadCells (l : Layout) (start : Date) (rowspan : Nat) :
    (l.leadCells start rowspan).map Cell.id =
      (l.leadNames (.weekNumber start)).map l.cellId := by
  unfold leadCells leadNames
  split
  · rw [List.map_singleton, List.map_singleton, id_weekNumberCell]
  · rfl

theorem ids_dateBoxRow (w : WeekBuckets) (focal : Option Nat) :
    (l.dateBoxRow w focal).cells.map Cell.id =
      (l.leadNames (.weekNumber w.start) ++ (weekDates w.start).map CellName.dateBox).map
        l.cellId := by
  have hbox : ∀ column : Nat,
      (l.boxCell w focal column).id = l.cellId (.dateBox (w.start.addDays column)) := by
    intro column
    rw [cellId, CellName.text, ← String.append_assoc]
    rfl
  rw [cells_dateBoxRow, List.map_append, List.map_append, ids_leadCells, weekDates,
    List.map_map, List.map_map, List.map_map]
  exact congrArg _ (List.map_congr_left fun column _ => hbox column)

/-- Each cell of a row is on a date of its own. -/
theorem id_of_bodyCell? {w : WeekBuckets} {focal : Option Nat} {index : Nat}
    {column : Date × List BandCell × SingleDayColumn} {c : Cell}
    (h : l.bodyCell? w focal index column = some c) :
    c.id = l.cellId (.body column.1 index) := by
  rw [← bodyId_eq]
  unfold bodyCell? at h
  dsimp only at h
  split at h
  · obtain ⟨band, -, rfl⟩ := Option.map_eq_some_iff.mp h
    cases band <;> rfl
  · split at h
    · rename_i hindex
      obtain rfl := Option.some.inj h
      rw [hindex]
      rfl
    · cases h

theorem ids_bodyRow_sublist (w : WeekBuckets) (focal : Option Nat) (index : Nat) :
    ((l.bodyRow w focal index).cells.map Cell.id).Sublist
      (((weekDates w.start).map fun d => CellName.body d index).map l.cellId) := by
  have hcolumns : weekDates w.start = (weekColumns w).map Prod.fst := by
    rw [weekColumns, List.map_map]
    rfl
  rw [hcolumns, List.map_map, List.map_map]
  exact map_filterMap_sublist (fun column c h => id_of_bodyCell? h) _

/-- The identifiers of a week of full days. -/
theorem ids_weekBlock_sublist (w : WeekBuckets) (focal : Option Nat) :
    (((l.weekBlock w focal).rows.flatMap Row.cells).map Cell.id).Sublist
      ((l.blockNames w.start w.totalRows).map l.cellId) := by
  rw [weekBlock, blockNames, ← List.append_assoc, List.flatMap_cons, List.map_append,
    List.map_append, ids_dateBoxRow, List.flatMap_map, List.map_flatMap, List.map_flatMap]
  exact (List.Sublist.refl _).append
    (List.Sublist.flatMap_right _ fun index _ => ids_bodyRow_sublist w focal index)

/-- The identifiers of a week of small days. -/
theorem ids_miniWeek (month : Nat) (start : Date) :
    ((l.miniWeek month start).rows.flatMap Row.cells).map Cell.id =
      (l.smallNames start).map l.cellId := by
  have hday : ∀ column : Nat,
      (l.miniCell month (start.addDays column)).id = l.cellId (.smallDay (start.addDays column)) :=
    fun column => rfl
  rw [cells_miniWeek, smallNames, List.flatMap_singleton, List.map_append, List.map_append,
    ids_leadCells, weekDates, List.map_map, List.map_map, List.map_map]
  exact congrArg _ (List.map_congr_left fun column _ => hday column)

/-- Whether the cells of a header and of the weeks under it have distinct identifiers. -/
def DistinctIds (header : Row) (weeks : List WeekBlock) : Prop :=
  ((header.cells ++ weeks.flatMap fun b => b.rows.flatMap Row.cells).map Cell.id).Nodup

/-- Weeks made from parts that have names have distinct identifiers if the names are distinct. -/
theorem distinctIds_map {Week : Type} {weeks : List Week} {block : Week → WeekBlock}
    {names : Week → List CellName}
    (hids : ∀ w, (((block w).rows.flatMap Row.cells).map Cell.id).Sublist
      ((names w).map l.cellId))
    (hnodup : (l.headerNames ++ weeks.flatMap names).Nodup) :
    DistinctIds l.headerRow (weeks.map block) := by
  have hsub : ((l.headerRow.cells ++ (weeks.map block).flatMap fun b =>
      b.rows.flatMap Row.cells).map Cell.id).Sublist
        ((l.headerNames ++ weeks.flatMap names).map l.cellId) := by
    rw [List.map_append, List.map_append, ids_headerRow, List.flatMap_map, List.map_flatMap,
      List.map_flatMap]
    exact (List.Sublist.refl _).append (List.Sublist.flatMap_right _ fun w _ => hids w)
  exact (hnodup.map fun _ _ => cellId_injective).sublist hsub

/-- Weeks of full days that do not overlap. -/
theorem distinctIds_weekBlocks {weeks : List WeekBuckets} (focal : Option Nat)
    (h : weeks.Pairwise fun v w => v.start.addDays daysPerWeek ≤ w.start) :
    DistinctIds l.headerRow (weeks.map fun w => l.weekBlock w focal) :=
  distinctIds_map (fun w => ids_weekBlock_sublist w focal)
    (nodup_tableNames (fun w _ => nodup_blockNames l w.start w.totalRows)
      (fun _ _ _ hx => date?_of_mem_blockNames hx) h)

theorem apart_monthWeekStarts (l : Layout) (y : Int) (m : Nat) :
    (l.monthWeekStarts y m).Pairwise fun a b => a.addDays daysPerWeek ≤ b := by
  unfold monthWeekStarts
  split
  · exact apart_weekStartsFrom _ _
  · exact .nil

theorem apart_packWeeks (l : Layout) (packerFirstDay : Nat) :
    (l.packWeeks packerFirstDay).Pairwise fun v w => v.start.addDays daysPerWeek ≤ w.start := by
  unfold packWeeks
  dsimp only
  split
  · split
    · exact .nil
    · exact List.pairwise_map.mpr (apart_monthWeekStarts l _ _)
  · exact List.pairwise_singleton _ _
  · exact .nil

theorem distinctIds_miniMonth (l : Layout) (y : Int) (m : Nat) :
    DistinctIds (l.miniMonth y m).header (l.miniMonth y m).weeks :=
  distinctIds_map (fun start => by rw [ids_miniWeek])
    (nodup_tableNames (fun start _ => nodup_smallNames l start)
      (fun _ _ _ hx => date?_of_mem_smallNames hx) (apart_monthWeekStarts l y m))

theorem distinctIds_monthGrid (l : Layout) (packerFirstDay : Nat) :
    DistinctIds (l.monthGrid (l.packWeeks packerFirstDay)).header
      (l.monthGrid (l.packWeeks packerFirstDay)).weeks :=
  distinctIds_weekBlocks _ (apart_packWeeks l packerFirstDay)

/-- **The cells of a table have distinct identifiers**, in a month of small days, a month of full
days and every table of a calendar, whatever the items, the style and the view. -/
theorem distinctIds_tables (l : Layout) (packerFirstDay : Nat) :
    (∀ y m, DistinctIds (l.miniMonth y m).header (l.miniMonth y m).weeks) ∧
      DistinctIds (l.monthGrid (l.packWeeks packerFirstDay)).header
        (l.monthGrid (l.packWeeks packerFirstDay)).weeks ∧
      ∀ table ∈ (l.assemble (l.packWeeks packerFirstDay)).tables,
        DistinctIds table.1 table.2 := by
  refine ⟨distinctIds_miniMonth l, distinctIds_monthGrid l packerFirstDay, ?_⟩
  intro table htable
  unfold assemble at htable
  split at htable
  · -- a year
    obtain ⟨grid, hgrid, rfl⟩ := List.mem_map.mp htable
    obtain ⟨m, -, rfl⟩ := List.mem_map.mp hgrid
    exact distinctIds_miniMonth l _ m
  · -- a month
    split at htable
    · obtain rfl := List.mem_singleton.mp htable
      exact distinctIds_miniMonth l _ _
    · obtain rfl := List.mem_singleton.mp htable
      exact distinctIds_monthGrid l packerFirstDay
  · -- a week
    split at htable
    · obtain rfl := List.mem_singleton.mp htable
      exact distinctIds_weekBlocks none (List.pairwise_singleton _ _)
    · exact absurd htable List.not_mem_nil
  · exact absurd htable List.not_mem_nil

end Layout
end Almanac
