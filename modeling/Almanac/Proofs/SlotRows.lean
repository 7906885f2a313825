import Almanac.Proofs.Civil.Order
import Almanac.Slots

/-! # What the packer does to the slot rows

The slot rows are read through `SlotRows.holder?` only.  Giving slots to a key changes the
holder of these slots and of no others (`holder?_setSpan`).  A search finds the first row with
room and adds a row only if there is none (`finds_findRow`).  So the packer takes the first row
with room (`SlotRows.Takes`): the slots it takes were free, and every row above has a slot
in the way.

`WeekPacker.place_cases` says what laying out one fragment does.  Either a band of the same
key already holds the slot of its day, and nothing changes, or a band begins there.
-/
namespace Almanac
namespace SlotRows

/-- Every row has the full number of slots. -/
def Wide (m : SlotRows) : Prop :=
  ∀ slots ∈ m.rows, slots.length = slotColumns

variable {m : SlotRows}

theorem wide_empty : Wide {} := fun _ h => absurd h List.not_mem_nil

theorem holder?_empty (row column : Nat) : holder? {} row column = none := rfl

theorem length_blankRow : blankRow.length = slotColumns := List.length_replicate

theorem getElem?_blankRow (column : Nat) : (blankRow[column]?).join = none := by
  rw [blankRow, List.getElem?_replicate]
  split <;> rfl

/-- Beyond the rows no slot is held. -/
theorem holder?_of_rowCount_le {row : Nat} (h : m.rowCount ≤ row) (column : Nat) :
    m.holder? row column = none := by
  rw [holder?, List.getElem?_eq_none h]
  rfl

/-- Beyond the columns no slot is held. -/
theorem Wide.holder?_eq_none (h : m.Wide) (row : Nat) {column : Nat}
    (hcolumn : slotColumns ≤ column) : m.holder? row column = none := by
  rw [holder?]
  cases hrow : m.rows[row]? with
  | none => rfl
  | some slots =>
    have hlength := h slots (List.mem_of_getElem? hrow)
    rw [Option.bind_some, List.getElem?_eq_none (hlength.trans_le hcolumn)]
    rfl

theorem isFree_iff {row column : Nat} : m.isFree row column ↔ m.holder? row column = none :=
  Option.isNone_iff_eq_none

theorem isFree_eq_false_iff {row column : Nat} :
    m.isFree row column = false ↔ ∃ key, m.holder? row column = some key := by
  rw [← Bool.not_eq_true, isFree_iff, ← ne_eq, Option.ne_none_iff_exists']

/-! ## Adding blank rows -/

theorem wide_append_blank (h : m.Wide) (n : Nat) :
    Wide ⟨m.rows ++ List.replicate n blankRow⟩ := by
  intro slots hslots
  rcases List.mem_append.mp hslots with hslots | hslots
  · exact h slots hslots
  · rw [List.eq_of_mem_replicate hslots, length_blankRow]

/-- Blank rows at the end change no holder. -/
theorem holder?_append_blank (n row column : Nat) :
    holder? ⟨m.rows ++ List.replicate n blankRow⟩ row column = m.holder? row column := by
  unfold holder?
  by_cases h : row < m.rows.length
  · rw [List.getElem?_append_left h]
  · rw [List.getElem?_append_right (Nat.le_of_not_lt h), List.getElem?_replicate,
      List.getElem?_eq_none (Nat.le_of_not_lt h)]
    split
    · exact getElem?_blankRow column
    · rfl

/-! ## Giving slots to a key -/

theorem length_fillRow (column length : Nat) (key : String) (slots : List (Option String)) :
    (fillRow column length key slots).length = slots.length :=
  List.length_mapIdx

theorem wide_setSpan (h : m.Wide) (row column length : Nat) (key : String) :
    (m.setSpan row column length key).Wide := by
  have hreach : (m.reachTo row).Wide := wide_append_blank h _
  intro slots hslots
  obtain ⟨i, hi, rfl⟩ := List.mem_iff_getElem.mp hslots
  rw [setSpan] at hi
  simp only [setSpan, List.getElem_modify]
  split
  · rw [length_fillRow]
    exact hreach _ (List.getElem_mem _)
  · exact hreach _ (List.getElem_mem _)

/-- Giving slots to a key changes the holder of those that the row has, and of no others. -/
theorem Wide.holder?_setSpan (h : m.Wide) (row column length : Nat) (key : String) (r y : Nat) :
    (m.setSpan row column length key).holder? r y =
      if r = row ∧ y < slotColumns ∧ column ≤ y ∧ y < column + length then some key
      else m.holder? r y := by
  have hreach : (m.reachTo row).Wide := wide_append_blank h _
  have hblank : (m.reachTo row).holder? r y = m.holder? r y := holder?_append_blank _ r y
  have hrow : row < (m.reachTo row).rows.length := by
    simp only [reachTo, List.length_append, List.length_replicate]
    omega
  rw [← hblank]
  unfold holder?
  simp only [setSpan, List.getElem?_modify]
  by_cases hr : r = row
  · subst hr
    have hwidth := hreach _ (List.getElem_mem hrow)
    rw [List.getElem?_eq_getElem hrow]
    simp only [if_true, Option.map_eq_map, Option.map_some, Option.bind_some, fillRow,
      List.getElem?_mapIdx, true_and]
    by_cases hy : y < slotColumns
    · rw [List.getElem?_eq_getElem (hwidth.symm ▸ hy)]
      by_cases hspan : column ≤ y ∧ y < column + length <;> simp [hy, hspan]
    · rw [List.getElem?_eq_none (by omega), if_neg fun hin => hy hin.1]
      rfl
  · simp [hr, Ne.symm hr]

/-- The same for a span within the columns. -/
theorem holder?_setSpan (h : m.Wide) {row column length : Nat}
    (hstop : column + length ≤ slotColumns) (key : String) (r y : Nat) :
    (m.setSpan row column length key).holder? r y =
      if r = row ∧ column ≤ y ∧ y < column + length then some key else m.holder? r y := by
  rw [h.holder?_setSpan]
  refine if_congr (and_congr_right fun _ => ?_) rfl rfl
  exact ⟨fun hin => hin.2, fun hin => ⟨hin.2.trans_le hstop, hin⟩⟩

/-! ## Searching a row -/

/-- Whether a row has room from `column` up to `stop`: its slots there are free. -/
def Room (m : SlotRows) (column stop row : Nat) : Prop :=
  ∀ y < slotColumns, column ≤ y → y < stop → m.holder? row y = none

/-- A new row has room. -/
theorem room_of_rowCount_le {column stop row : Nat} (h : m.rowCount ≤ row) :
    m.Room column stop row :=
  fun y _ _ _ => holder?_of_rowCount_le h y

theorem freeBetween_iff {column stop row : Nat} :
    m.freeBetween column stop row = true ↔ m.Room column stop row := by
  simp only [freeBetween, Room, List.all_eq_true, List.mem_range, Bool.or_eq_true,
    Bool.not_eq_true', Bool.and_eq_false_imp, decide_eq_true_eq, decide_eq_false_iff_not,
    isFree_iff]
  refine forall₂_congr fun y _ => ⟨fun hall hcolumn hstop => ?_, fun hall => ?_⟩
  · exact hall.resolve_left fun hnot => hnot hcolumn hstop
  · by_cases hy : column ≤ y ∧ y < stop
    · exact .inr (hall hy.1 hy.2)
    · exact .inl fun hcolumn hstop => hy ⟨hcolumn, hstop⟩

/-- A row without room has a held slot in the way. -/
theorem exists_holder_of_not_room {column stop row : Nat} (h : ¬ m.Room column stop row) :
    ∃ y, column ≤ y ∧ y < stop ∧ ∃ key, m.holder? row y = some key := by
  by_contra hnone
  refine h fun y _ hcolumn hstop => ?_
  by_contra hheld
  exact hnone ⟨y, hcolumn, hstop, Option.ne_none_iff_exists'.mp hheld⟩

/-- **What a search does**: it finds the first row with room and leaves the rows as they are,
unless the row is a new one, which is then added and blank. -/
structure Finds (m : SlotRows) (column stop : Nat) (found : Nat × SlotRows) : Prop where
  room : m.Room column stop found.1
  /-- No row above has room. -/
  first : ∀ row < found.1, ¬ m.Room column stop row
  rows : found.1 < m.rowCount ∧ found.2 = m ∨
    found.1 = m.rowCount ∧ found.2 = ⟨m.rows ++ [blankRow]⟩

/-- **First fit** up to the end of a span that is not empty. -/
theorem finds_findRow (m : SlotRows) (column : Nat) {length : Nat} (hlength : 0 < length) :
    m.Finds column (column + length) (m.findRow column length false) := by
  have hzero : (length == 0) = false := beq_false_of_ne hlength.ne'
  unfold findRow
  simp only [hzero, Bool.or_false, Bool.false_eq_true, if_false]
  cases hfound : (List.range m.rowCount).find? (m.freeBetween column (column + length)) with
  | some row =>
    obtain ⟨hfree, hrow, hbefore⟩ := List.find?_range_eq_some.mp hfound
    refine ⟨freeBetween_iff.mp hfree, fun r hr hroom => ?_, .inl ⟨List.mem_range.mp hrow, rfl⟩⟩
    have hnot := hbefore r hr
    rw [freeBetween_iff.mpr hroom] at hnot
    exact Bool.noConfusion hnot
  | none =>
    refine ⟨room_of_rowCount_le le_rfl, fun r hr hroom => ?_, .inr ⟨rfl, rfl⟩⟩
    have hnot := List.find?_range_eq_none.mp hfound r hr
    rw [freeBetween_iff.mpr hroom] at hnot
    exact Bool.noConfusion hnot

/-- A search changes no holder. -/
theorem Finds.holder? {column stop : Nat} {found : Nat × SlotRows}
    (h : m.Finds column stop found) (r y : Nat) : found.2.holder? r y = m.holder? r y := by
  rcases h.rows with ⟨-, hsame⟩ | ⟨-, hnew⟩
  · rw [hsame]
  · rw [hnew]
    exact holder?_append_blank 1 r y

theorem Finds.wide {column stop : Nat} {found : Nat × SlotRows}
    (h : m.Finds column stop found) (hwide : m.Wide) : found.2.Wide := by
  rcases h.rows with ⟨-, hsame⟩ | ⟨-, hnew⟩
  · rw [hsame]
    exact hwide
  · rw [hnew]
    exact wide_append_blank hwide 1

/-! ## Taking a row -/

/-- The first row with room from `column` up to `stop` goes to a key. -/
structure Takes (m : SlotRows) (row column stop : Nat) (key : String) (m' : SlotRows) :
    Prop where
  wide : m'.Wide
  /-- The row has room. -/
  room : ∀ y, column ≤ y → y < stop → m.holder? row y = none
  /-- No row above has. -/
  blocked : ∀ r < row, ∃ y, column ≤ y ∧ y < stop ∧ ∃ key, m.holder? r y = some key
  /-- The key gets the room, and nothing else changes. -/
  holder : ∀ r y, m'.holder? r y =
    if r = row ∧ column ≤ y ∧ y < stop then some key else m.holder? r y

/-- **First fit** within the columns. -/
theorem takes_findRow (h : m.Wide) {column length : Nat} (hlength : 0 < length)
    (hstop : column + length ≤ slotColumns) (key : String) :
    m.Takes (m.findRow column length false).1 column (column + length) key
      ((m.findRow column length false).2.setSpan (m.findRow column length false).1
        column length key) := by
  have hfinds := m.finds_findRow column hlength
  exact {
    wide := wide_setSpan (hfinds.wide h) _ _ _ _
    room := fun y hcolumn hlt => hfinds.room y (hlt.trans_le hstop) hcolumn hlt
    blocked := fun r hr => exists_holder_of_not_room (hfinds.first r hr)
    holder := fun r y => by
      rw [holder?_setSpan (hfinds.wide h) hstop key r y, hfinds.holder?] }

/-! ## Finding a key -/

theorem rowOf?_eq_some {column row : Nat} {key : String} (h : m.rowOf? column key = some row) :
    m.holder? row column = some key := by
  have hfound := List.find?_some (p := fun row => decide (m.holder? row column = some key)) h
  exact of_decide_eq_true hfound

theorem holder?_ne_of_rowOf?_eq_none {column : Nat} {key : String}
    (h : m.rowOf? column key = none) (row : Nat) : m.holder? row column ≠ some key := by
  intro hheld
  have hrow : row < m.rowCount := by
    by_contra hbeyond
    rw [holder?_of_rowCount_le (Nat.le_of_not_lt hbeyond)] at hheld
    cases hheld
  have hnone := List.find?_range_eq_none.mp h row hrow
  simp [hheld] at hnone

end SlotRows

/-! ## Laying out one fragment -/

namespace WeekPacker

variable {p : WeekPacker} {o : Occurrence} {d visibleLast : Date} {column colspan : Nat}

/-- **What laying out a fragment does.**  A fragment of a later day is covered by the band
of its key, if there is one.  Else a band begins in the first row with room. -/
theorem place_cases (hwide : p.slots.Wide) (hcolumn : d.weekColumn p.firstDay = column)
    (hcolspan : colspanFor d column o.lastDay visibleLast = colspan)
    (hstop : column + colspan ≤ slotColumns) :
    (∃ row, p.slots.holder? row column = some o.slotKey ∧
        p.place o d visibleLast = (.covered row, p)) ∨
      ∃ row slots,
        (o.firstDay = d ∨ column = 0 ∨ ∀ r, p.slots.holder? r column ≠ some o.slotKey) ∧
        p.slots.Takes row column (column + colspan) o.slotKey slots ∧
        p.place o d visibleLast =
          (.band row colspan (o.firstDay < d) (colspan ≤ d.daysUntil o.lastDay),
            { p with slots := slots }) := by
  cases hcover : p.coveringRow? o d with
  | some row =>
    left
    refine ⟨row, ?_, by rw [place, hcover]⟩
    simp only [coveringRow?, hcolumn] at hcover
    split at hcover
    · exact SlotRows.rowOf?_eq_some hcover
    · cases hcover
  | none =>
    right
    have hpos : 0 < colspan := hcolspan ▸ Nat.succ_pos _
    refine ⟨_, _, ?_, SlotRows.takes_findRow hwide hpos hstop o.slotKey, ?_⟩
    · simp only [coveringRow?, hcolumn] at hcover
      split at hcover
      · exact .inr (.inr (SlotRows.holder?_ne_of_rowOf?_eq_none hcover))
      · rename_i hnot
        by_cases hfirst : o.firstDay = d
        · exact .inl hfirst
        · exact .inr (.inl (by_contra fun hzero => hnot ⟨hfirst, hzero⟩))
    · rw [place, hcover]
      simp only [hcolumn, hcolspan]
      rfl

end WeekPacker
end Almanac
