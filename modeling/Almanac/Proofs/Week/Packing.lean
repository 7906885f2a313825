import Almanac.Proofs.SlotRows
import Almanac.Proofs.Week.Columns
import Mathlib.Logic.Function.Basic

/-! # Packing the bands of a week

The columns of a week are filled from left to right, and in a column the items that want
a band one after another.  `Layout.Packed` is what holds in between, for the items whose
bands have begun so far (`Layout.Begun`): every key has a row, and the slot of a column in
that row is held exactly if a begun item of the key covers the column.  Further, first
fit leaves no gap above a band: in the column where a band begins, every row above it is
covered.

`Layout.cellOf` is the cell each item gets.  One item more keeps the invariant
(`Filling.fillItem`), so it holds behind a column (`packed_fillColumn`) and behind a week
(`packed_fillColumns`).
-/
namespace Almanac
namespace Layout

variable (l : Layout) (start : Date) (focal : Option Nat)

/-- Whether an occurrence has a band that began in an earlier column. -/
def isOngoing (column : Nat) (o : Occurrence) : Bool :=
  (List.range column).any fun x =>
    (l.banded start focal x).any fun o' => o'.slotKey == o.slotKey

/-- The cell of an item in a column. -/
def cellOf (column : Nat) (o : Occurrence) : BandCell :=
  if l.isOngoing start focal column o then .covered o
  else
    .entry
      { o with
        continuation := o.firstDay < start.addDays column
        continues := (l.reach start o - column : Nat) ≤ (start.addDays column).daysUntil o.lastDay }
      (l.reach start o - column)

/-- Whether the band of an item of column `x` has begun when the items `placed` of a
column are laid out. -/
def Begun (column : Nat) (placed : List Occurrence) (x : Nat) (o : Occurrence) : Prop :=
  o ∈ l.banded start focal x ∧ (x < column ∨ x = column ∧ o ∈ placed)

/-- **The slot rows while a week is packed.** -/
structure Packed (column : Nat) (placed : List Occurrence) (row : String → Nat)
    (slots : SlotRows) : Prop where
  wide : slots.Wide
  /-- A slot is held by the key of its row, in the columns its items cover. -/
  holder : ∀ {r y k}, slots.holder? r y = some k ↔
    row k = r ∧ ∃ x o, l.Begun start focal column placed x o ∧ o.slotKey = k ∧
      x ≤ y ∧ y < l.reach start o
  /-- Where a band begins, all rows above it are covered. -/
  blocked : ∀ {x o}, l.Begun start focal column placed x o →
    ∃ x₀ o₀, l.Begun start focal column placed x₀ o₀ ∧ o₀.slotKey = o.slotKey ∧
      ∀ r < row o.slotKey, ∃ x' o', l.Begun start focal column placed x' o' ∧
        row o'.slotKey = r ∧ x' ≤ x₀ ∧ x₀ < l.reach start o'

/-- **The bands of a column while it is filled.** -/
structure Filled (column : Nat) (placed : List Occurrence) (row : String → Nat)
    (bands : List (Option BandCell)) : Prop where
  /-- Every item has its cell in the row of its key, and there is no other cell. -/
  cell : ∀ {r cell}, bands[r]? = some (some cell) ↔
    ∃ o ∈ placed, row o.slotKey = r ∧ l.cellOf start focal column o = cell
  /-- The last band row has a cell. -/
  tight : ∀ r < bands.length, ∃ r' cell, r ≤ r' ∧ bands[r']? = some (some cell)

variable {l start focal} {column : Nat} {placed : List Occurrence} {row : String → Nat}
  {slots : SlotRows} {bands : List (Option BandCell)} {o : Occurrence}

theorem isOngoing_iff :
    l.isOngoing start focal column o ↔
      ∃ x < column, ∃ o' ∈ l.banded start focal x, o'.slotKey = o.slotKey := by
  simp only [isOngoing, List.any_eq_true, List.mem_range, beq_iff_eq]

/-- The items of a key begin with one that is not ongoing. -/
theorem exists_not_isOngoing (ho : o ∈ l.banded start focal column) :
    ∃ x ≤ column, ∃ o' ∈ l.banded start focal x, o'.slotKey = o.slotKey ∧
      ¬l.isOngoing start focal x o' := by
  induction column using Nat.strong_induction_on generalizing o with
  | _ column ih =>
    by_cases hongoing : l.isOngoing start focal column o
    · obtain ⟨x, hx, o', ho', hkey⟩ := isOngoing_iff.mp hongoing
      obtain ⟨z, hz, o'', ho'', hkey', hnew⟩ := ih x hx ho'
      exact ⟨z, hz.trans hx.le, o'', ho'', hkey'.trans hkey, hnew⟩
    · exact ⟨column, le_rfl, o, ho, rfl, hongoing⟩

theorem Begun.append {x : Nat} {o' : Occurrence}
    (h : l.Begun start focal column placed x o') {items : List Occurrence} :
    l.Begun start focal column (placed ++ items) x o' :=
  ⟨h.1, h.2.imp_right fun hx => ⟨hx.1, List.mem_append_left _ hx.2⟩⟩

theorem Begun.le {x : Nat} (h : l.Begun start focal column placed x o) : x ≤ column :=
  h.2.elim Nat.le_of_lt fun hx => hx.1.le

theorem begun_append_iff (ho : o ∈ l.banded start focal column) {x : Nat} {o' : Occurrence} :
    l.Begun start focal column (placed ++ [o]) x o' ↔
      l.Begun start focal column placed x o' ∨ x = column ∧ o' = o := by
  constructor
  · rintro ⟨hbanded, hx | ⟨hx, hmem⟩⟩
    · exact .inl ⟨hbanded, .inl hx⟩
    · rcases List.mem_append.mp hmem with hmem | hmem
      · exact .inl ⟨hbanded, .inr ⟨hx, hmem⟩⟩
      · exact .inr ⟨hx, List.mem_singleton.mp hmem⟩
  · rintro (h | ⟨rfl, rfl⟩)
    · exact h.append
    · exact ⟨ho, .inr ⟨rfl, List.mem_append_right _ List.mem_cons_self⟩⟩

/-- The begun items before a column are those of the columns before it. -/
theorem begun_nil_iff {x : Nat} :
    l.Begun start focal column [] x o ↔ x < column ∧ o ∈ l.banded start focal x := by
  constructor
  · rintro ⟨hbanded, hx | ⟨-, hmem⟩⟩
    · exact ⟨hx, hbanded⟩
    · exact absurd hmem List.not_mem_nil
  · exact fun h => ⟨h.2, .inl h.1⟩

/-- Behind the last item of a column, the next column begins. -/
theorem begun_banded_iff {x : Nat} :
    l.Begun start focal column (l.banded start focal column) x o ↔
      l.Begun start focal (column + 1) [] x o := by
  rw [begun_nil_iff]
  constructor
  · rintro ⟨hbanded, hx | ⟨rfl, -⟩⟩
    · exact ⟨hx.trans (Nat.lt_succ_self _), hbanded⟩
    · exact ⟨Nat.lt_succ_self _, hbanded⟩
  · rintro ⟨hx, hbanded⟩
    rcases Nat.lt_succ_iff_lt_or_eq.mp hx with hx | rfl
    · exact ⟨hbanded, .inl hx⟩
    · exact ⟨hbanded, .inr ⟨rfl, hbanded⟩⟩

/-! ## One item more -/

/-- A begun item of the key of a new item of a column is in an earlier column. -/
theorem Begun.lt_of_slotKey_eq {x : Nat} {o' : Occurrence}
    (h : l.Begun start focal column placed x o')
    (hnew : ∀ o' ∈ placed, o'.slotKey ≠ o.slotKey) (hkey : o'.slotKey = o.slotKey) :
    x < column :=
  h.2.elim id fun hx => absurd hkey (hnew o' hx.2)

/-- A begun item holds the slot of its row in its column. -/
theorem Packed.holder?_of_begun (hcoherent : l.agenda.Coherent l.range)
    (hp : l.Packed start focal column placed row slots) {x : Nat} (hx : x < daysPerWeek)
    (h : l.Begun start focal column placed x o) :
    slots.holder? (row o.slotKey) x = some o.slotKey :=
  hp.holder.mpr ⟨rfl, x, o, h, rfl, le_rfl, lt_reach hcoherent hx h.1⟩

/-- Items of one column in one row have one key. -/
theorem Packed.slotKey_eq_of_row_eq (hcoherent : l.agenda.Coherent l.range)
    (hp : l.Packed start focal column placed row slots) {x : Nat} (hx : x < daysPerWeek)
    {o o' : Occurrence} (ho : l.Begun start focal column placed x o)
    (ho' : l.Begun start focal column placed x o')
    (hrow : row o.slotKey = row o'.slotKey) : o.slotKey = o'.slotKey := by
  have hheld := hp.holder?_of_begun hcoherent hx ho
  rw [hrow, hp.holder?_of_begun hcoherent hx ho'] at hheld
  exact (Option.some.inj hheld).symm

section
variable (hcoherent : l.agenda.Coherent l.range)
  (hp : l.Packed start focal column placed row slots) (ho : o ∈ l.banded start focal column)
  (hnew : ∀ o' ∈ placed, o'.slotKey ≠ o.slotKey)
include hcoherent hp ho hnew

/-- An item under a band of its key. -/
theorem Packed.cover {r : Nat} (hheld : slots.holder? r column = some o.slotKey) :
    row o.slotKey = r ∧ l.isOngoing start focal column o ∧
      l.Packed start focal column (placed ++ [o]) row slots := by
  obtain ⟨hrow, x, o₁, hbegun, hkey, -, -⟩ := hp.holder.mp hheld
  have hx : x < column := hbegun.lt_of_slotKey_eq hnew hkey
  have hreach : l.reach start o₁ = l.reach start o :=
    reach_eq_of_slotKey_eq hcoherent hbegun.1 ho hkey
  refine ⟨hrow, isOngoing_iff.mpr ⟨x, hx, o₁, hbegun.1, hkey⟩, hp.wide, ?_, ?_⟩
  · intro r y k
    rw [hp.holder]
    refine and_congr_right fun _ => ⟨?_, ?_⟩
    · rintro ⟨x', o', h, hcovers⟩
      exact ⟨x', o', h.append, hcovers⟩
    · rintro ⟨x', o', h, hkey', hxy, hy⟩
      rcases (begun_append_iff ho).mp h with h | ⟨rfl, rfl⟩
      · exact ⟨x', o', h, hkey', hxy, hy⟩
      · exact ⟨x, o₁, hbegun, hkey.trans hkey', hx.le.trans hxy, hreach ▸ hy⟩
  · intro x' o' h
    -- The new item has the key of `o₁`, so the band of `o₁` is its band.
    have hold : ∃ x₁ o₁, l.Begun start focal column placed x₁ o₁ ∧
        o₁.slotKey = o'.slotKey := by
      rcases (begun_append_iff ho).mp h with h | ⟨-, rfl⟩
      · exact ⟨x', o', h, rfl⟩
      · exact ⟨x, o₁, hbegun, hkey⟩
    obtain ⟨x₁, o₁, h₁, hkey₁⟩ := hold
    obtain ⟨x₀, o₀, h₀, hkey₀, habove⟩ := hp.blocked h₁
    refine ⟨x₀, o₀, h₀.append, hkey₀.trans hkey₁, fun r hr => ?_⟩
    obtain ⟨x₂, o₂, h₂, hcovers⟩ := habove r (hkey₁ ▸ hr)
    exact ⟨x₂, o₂, h₂.append, hcovers⟩

/-- Where no band holds the key of an item, no item of its key has begun. -/
theorem Packed.slotKey_ne_of_begun (hcolumn : column < daysPerWeek)
    (hnone : o.firstDay = start.addDays column ∨ column = 0 ∨
      ∀ r, slots.holder? r column ≠ some o.slotKey)
    {x : Nat} {o' : Occurrence} (h : l.Begun start focal column placed x o') :
    o'.slotKey ≠ o.slotKey := by
  intro hkey
  have hx : x < column := h.lt_of_slotKey_eq hnew hkey
  rcases hnone with hfirst | rfl | hfree
  · exact firstDay_ne_of_slotKey_eq hcoherent h.1 ho hkey hx hfirst
  · exact Nat.not_lt_zero x hx
  · have hreach : column < l.reach start o' := by
      rw [reach_eq_of_slotKey_eq hcoherent h.1 ho hkey]
      exact lt_reach hcoherent hcolumn ho
    exact hfree _ (hp.holder.mpr ⟨rfl, x, o', h, hkey, hx.le, hreach⟩)

omit hcoherent hnew in
/-- An item whose band begins in the first row with room. -/
theorem Packed.begin
    (hfresh : ∀ {x o'}, l.Begun start focal column placed x o' → o'.slotKey ≠ o.slotKey)
    {r : Nat} {slots' : SlotRows}
    (ht : slots.Takes r column (l.reach start o) o.slotKey slots') :
    l.Packed start focal column (placed ++ [o]) (Function.update row o.slotKey r) slots' := by
  have hkeep {x : Nat} {o' : Occurrence} (h : l.Begun start focal column placed x o') :
      Function.update row o.slotKey r o'.slotKey = row o'.slotKey :=
    Function.update_of_ne (hfresh h) _ _
  refine ⟨ht.wide, ?_, ?_⟩
  · intro r' y k
    rw [ht.holder]
    constructor
    · intro hheld
      split at hheld
      · rename_i hspan
        obtain rfl := Option.some.inj hheld
        exact ⟨by rw [Function.update_self, hspan.1], column, o,
          (begun_append_iff ho).mpr (.inr ⟨rfl, rfl⟩), rfl, hspan.2.1, hspan.2.2⟩
      · obtain ⟨hrow, x, o', h, rfl, hcovers⟩ := hp.holder.mp hheld
        exact ⟨(hkeep h).trans hrow, x, o', h.append, rfl, hcovers⟩
    · rintro ⟨hrow, x, o', h, rfl, hxy, hy⟩
      rcases (begun_append_iff ho).mp h with h | ⟨rfl, rfl⟩
      · have hheld : slots.holder? r' y = some o'.slotKey :=
          hp.holder.mpr ⟨(hkeep h).symm.trans hrow, x, o', h, rfl, hxy, hy⟩
        rw [if_neg, hheld]
        -- The slots that the new band takes were free.
        rintro ⟨rfl, hcolumn, hstop⟩
        rw [ht.room y hcolumn hstop] at hheld
        cases hheld
      · rw [Function.update_self] at hrow
        rw [if_pos ⟨hrow.symm, hxy, hy⟩]
  · intro x o' h
    rcases (begun_append_iff ho).mp h with h | ⟨rfl, rfl⟩
    · -- The rows above an older band are held by older bands still.
      obtain ⟨x₀, o₀, h₀, hkey₀, habove⟩ := hp.blocked h
      refine ⟨x₀, o₀, h₀.append, hkey₀, fun r' hr' => ?_⟩
      rw [hkeep h] at hr'
      obtain ⟨x₂, o₂, h₂, hrow₂, hcovers⟩ := habove r' hr'
      exact ⟨x₂, o₂, h₂.append, (hkeep h₂).trans hrow₂, hcovers⟩
    · -- A row above the new band has no room: a band that began by this column holds one
      -- of the slots from here on, so it covers this column too.
      refine ⟨x, o', h, rfl, fun r' hr' => ?_⟩
      rw [Function.update_self] at hr'
      obtain ⟨y, hxy, hstop, k, hheld⟩ := ht.blocked r' hr'
      obtain ⟨hrow₂, x₂, o₂, h₂, rfl, -, hy⟩ := hp.holder.mp hheld
      exact ⟨x₂, o₂, h₂.append, (hkeep h₂).trans hrow₂, h₂.le, hxy.trans_lt hy⟩

end

/-! ## The cells of a column -/

theorem length_setBand (bands : List (Option BandCell)) (i : Nat) (cell : BandCell) :
    (setBand bands i cell).length = max bands.length (i + 1) := by
  rw [setBand, List.length_set, List.length_append, List.length_replicate]
  omega

/-- Setting a place puts a cell there and keeps the other cells. -/
theorem getElem?_setBand_eq_some {bands : List (Option BandCell)} {i r : Nat}
    {cell cell' : BandCell} :
    (setBand bands i cell)[r]? = some (some cell') ↔
      if r = i then cell = cell' else bands[r]? = some (some cell') := by
  rw [setBand]
  by_cases hr : r = i
  · subst hr
    rw [if_pos rfl, List.getElem?_set_self (by simp; omega)]
    simp
  · rw [if_neg hr, List.getElem?_set_ne (Ne.symm hr)]
    by_cases hlength : r < bands.length
    · rw [List.getElem?_append_left hlength]
    · rw [List.getElem?_append_right (Nat.le_of_not_lt hlength), List.getElem?_replicate,
        List.getElem?_eq_none (Nat.le_of_not_lt hlength)]
      split <;> simp

theorem filled_nil (column : Nat) (row : String → Nat) :
    l.Filled start focal column [] row [] where
  cell := by simp
  tight := fun r hr => absurd hr (Nat.not_lt_zero r)

/-- Only the rows of the items matter. -/
theorem Filled.congr {row' : String → Nat} (hf : l.Filled start focal column placed row bands)
    (hrow : ∀ o ∈ placed, row' o.slotKey = row o.slotKey) :
    l.Filled start focal column placed row' bands where
  cell := by
    intro r cell
    rw [hf.cell]
    refine exists_congr fun o => and_congr_right fun ho => ?_
    rw [hrow o ho]
  tight := hf.tight

/-- The cell of one item more, in a row of its own. -/
theorem Filled.add (hf : l.Filled start focal column placed row bands)
    (hrow : ∀ o' ∈ placed, row o'.slotKey ≠ row o.slotKey) :
    l.Filled start focal column (placed ++ [o]) row
      (setBand bands (row o.slotKey) (l.cellOf start focal column o)) where
  cell := by
    intro r cell
    rw [getElem?_setBand_eq_some]
    split
    · rename_i hr
      subst hr
      constructor
      · exact fun hcell => ⟨o, List.mem_append_right _ List.mem_cons_self, rfl, hcell⟩
      · rintro ⟨o', ho', hrow', hcell⟩
        rcases List.mem_append.mp ho' with ho' | ho'
        · exact absurd hrow' (hrow o' ho')
        · obtain rfl := List.mem_singleton.mp ho'
          exact hcell
    · rename_i hr
      rw [hf.cell]
      constructor
      · rintro ⟨o', ho', hcell⟩
        exact ⟨o', List.mem_append_left _ ho', hcell⟩
      · rintro ⟨o', ho', hrow', hcell⟩
        rcases List.mem_append.mp ho' with ho' | ho'
        · exact ⟨o', ho', hrow', hcell⟩
        · obtain rfl := List.mem_singleton.mp ho'
          exact absurd hrow'.symm hr
  tight := by
    intro r hr
    rw [length_setBand] at hr
    by_cases hle : r ≤ row o.slotKey
    · exact ⟨row o.slotKey, _, hle, getElem?_setBand_eq_some.mpr (by rw [if_pos rfl])⟩
    · obtain ⟨r', cell, hrr', hcell⟩ := hf.tight r (by omega)
      refine ⟨r', cell, hrr', getElem?_setBand_eq_some.mpr ?_⟩
      rw [if_neg (by omega)]
      exact hcell

/-! ## Filling a column -/

/-- The invariant of a column that is being filled. -/
structure Filling (l : Layout) (start : Date) (focal : Option Nat) (column : Nat)
    (placed : List Occurrence) (row : String → Nat) (f : ColumnFill) : Prop where
  packed : l.Packed start focal column placed row f.packer.slots
  filled : l.Filled start focal column placed row f.bands
  firstDay : start.weekday.fromSunday = f.packer.firstDay

/-- In its column an item has a row that no other item there has, so its cell takes the
place of none. -/
theorem Filling.filled_append (hcoherent : l.agenda.Coherent l.range) {f : ColumnFill}
    (hf : l.Filling start focal column placed row f) (hcolumn : column < daysPerWeek)
    (ho : o ∈ l.banded start focal column)
    (hplaced : ∀ o' ∈ placed, o' ∈ l.banded start focal column)
    (hnew : ∀ o' ∈ placed, o'.slotKey ≠ o.slotKey) {row' : String → Nat} {slots' : SlotRows}
    (hp : l.Packed start focal column (placed ++ [o]) row' slots')
    (hkeep : ∀ {x o'}, l.Begun start focal column placed x o' →
      row' o'.slotKey = row o'.slotKey) :
    l.Filled start focal column (placed ++ [o]) row'
      (setBand f.bands (row' o.slotKey) (l.cellOf start focal column o)) := by
  have hbegun {o' : Occurrence} (ho' : o' ∈ placed) :
      l.Begun start focal column placed column o' := ⟨hplaced o' ho', .inr ⟨rfl, ho'⟩⟩
  have hlast : l.Begun start focal column (placed ++ [o]) column o :=
    (begun_append_iff ho).mpr (.inr ⟨rfl, rfl⟩)
  refine (hf.filled.congr fun o' ho' => hkeep (hbegun ho')).add fun o' ho' hrow => ?_
  exact hnew o' ho' (hp.slotKey_eq_of_row_eq hcoherent hcolumn (hbegun ho').append hlast hrow)

/-- **One item more.**  It gets its cell, and no item that is laid out changes its row. -/
theorem Filling.fillItem (hcoherent : l.agenda.Coherent l.range) {f : ColumnFill}
    (hf : l.Filling start focal column placed row f) (hcolumn : column < daysPerWeek)
    (ho : o ∈ l.banded start focal column)
    (hplaced : ∀ o' ∈ placed, o' ∈ l.banded start focal column)
    (hnew : ∀ o' ∈ placed, o'.slotKey ≠ o.slotKey) :
    ∃ row', l.Filling start focal column (placed ++ [o]) row'
        (l.fillItem (start.addDays column) l.range.lastDate f o) ∧
      ∀ {x o'}, l.Begun start focal column placed x o' →
        row' o'.slotKey = row o'.slotKey := by
  have hwants := (mem_banded.mp ho).2.2
  have hreach := lt_reach hcoherent hcolumn ho
  have hsum : column + (l.reach start o - column) = l.reach start o := by omega
  have hstop : column + (l.reach start o - column) ≤ slotColumns := by
    have hle : l.reach start o ≤ daysPerWeek := reach_le o
    rw [daysPerWeek] at hle
    rw [slotColumns]
    omega
  rcases WeekPacker.place_cases hf.packed.wide
      (Date.weekColumn_addDays hf.firstDay hcolumn)
      (colspanFor_eq hcoherent hcolumn ho) hstop with
    ⟨r, hheld, hplace⟩ | ⟨r, slots', hnone, htakes, hplace⟩
  · -- A band of its key holds the slot, and the item lies under it.
    obtain ⟨hrow, hongoing, hpacked⟩ := hf.packed.cover hcoherent ho hnew hheld
    have hfilled := hf.filled_append hcoherent hcolumn ho hplaced hnew hpacked fun _ => rfl
    refine ⟨row, ⟨?_, ?_, ?_⟩, fun _ => rfl⟩
    all_goals simp only [Layout.fillItem, hwants, if_true, hplace]
    · exact hpacked
    · have hcell : l.cellOf start focal column o = .covered o := if_pos hongoing
      rw [Placement.row, ← hrow, ← hcell]
      exact hfilled
    · exact hf.firstDay
  · -- No band of its key has begun, and one begins in the first row with room.
    rw [hsum] at htakes
    have hfresh {x : Nat} {o' : Occurrence} (h : l.Begun start focal column placed x o') :
        o'.slotKey ≠ o.slotKey :=
      hf.packed.slotKey_ne_of_begun hcoherent ho hnew hcolumn hnone h
    have hkeep {x : Nat} {o' : Occurrence} (h : l.Begun start focal column placed x o') :
        Function.update row o.slotKey r o'.slotKey = row o'.slotKey :=
      Function.update_of_ne (hfresh h) _ _
    have hpacked := hf.packed.begin ho hfresh htakes
    have hfilled := hf.filled_append hcoherent hcolumn ho hplaced hnew hpacked hkeep
    refine ⟨Function.update row o.slotKey r, ⟨?_, ?_, ?_⟩, hkeep⟩
    all_goals simp only [Layout.fillItem, hwants, if_true, hplace]
    · exact hpacked
    · have hongoing : ¬l.isOngoing start focal column o := by
        rw [isOngoing_iff]
        rintro ⟨x, hx, o', ho', hkey⟩
        exact hfresh ⟨ho', .inl hx⟩ hkey
      rw [cellOf, if_neg hongoing, Function.update_self] at hfilled
      exact hfilled
    · exact hf.firstDay

/-- An item that wants no band is set aside. -/
theorem Filling.setAside {f : ColumnFill} (hf : l.Filling start focal column placed row f)
    (singles : List Occurrence) :
    l.Filling start focal column placed row { f with singles := singles } :=
  ⟨hf.packed, hf.filled, hf.firstDay⟩

/-- **One item of a day more**, whether or not it wants a band. -/
theorem Filling.step (hcoherent : l.agenda.Coherent l.range) (hcolumn : column < daysPerWeek)
    {f : ColumnFill} (hf : l.Filling start focal column placed row f)
    (hitems : ∀ o' ∈ placed ++ [o].filter fun o => o.wantsBand l.style.multiDayTheme,
      o' ∈ l.banded start focal column)
    (hkeys : ((placed ++ [o].filter fun o => o.wantsBand l.style.multiDayTheme).map
      Occurrence.slotKey).Nodup) :
    ∃ row', l.Filling start focal column
        (placed ++ [o].filter fun o => o.wantsBand l.style.multiDayTheme) row'
        (l.fillItem (start.addDays column) l.range.lastDate f o) ∧
      (l.fillItem (start.addDays column) l.range.lastDate f o).singles =
        f.singles ++ [o].filter (fun o => !o.wantsBand l.style.multiDayTheme) ∧
      ∀ {x o'}, l.Begun start focal column placed x o' →
        row' o'.slotKey = row o'.slotKey := by
  by_cases hwants : o.wantsBand l.style.multiDayTheme
  · have hfilter : [o].filter (fun o => o.wantsBand l.style.multiDayTheme) = [o] :=
      List.filter_cons_of_pos hwants
    have hrest : [o].filter (fun o => !o.wantsBand l.style.multiDayTheme) = [] :=
      List.filter_cons_of_neg (by simpa using hwants)
    rw [hfilter] at hitems hkeys ⊢
    rw [hrest, List.append_nil]
    have hnew : ∀ o' ∈ placed, o'.slotKey ≠ o.slotKey := by
      rw [List.map_append, List.nodup_append] at hkeys
      intro o' ho'
      exact hkeys.2.2 _ (List.mem_map_of_mem ho') _ (List.mem_map_of_mem List.mem_cons_self)
    have ho := hitems o (List.mem_append_right _ List.mem_cons_self)
    obtain ⟨row', hf', hkeep⟩ := hf.fillItem hcoherent hcolumn ho
      (fun o' ho' => hitems o' (List.mem_append_left _ ho')) hnew
    refine ⟨row', hf', ?_, hkeep⟩
    simp only [Layout.fillItem, hwants, if_true]
  · have hfilter : [o].filter (fun o => o.wantsBand l.style.multiDayTheme) = [] :=
      List.filter_cons_of_neg hwants
    have hrest : [o].filter (fun o => !o.wantsBand l.style.multiDayTheme) = [o] :=
      List.filter_cons_of_pos (by simpa using hwants)
    have hitem : l.fillItem (start.addDays column) l.range.lastDate f o =
        { f with singles := f.singles ++ [o] } := by
      simp only [Layout.fillItem, hwants]
      rfl
    rw [hfilter, hrest, List.append_nil, hitem]
    exact ⟨row, hf.setAside _, rfl, fun _ => rfl⟩

/-- **The items of a column one after another.**  Those that want a band keep the
invariant, the others are set aside in order. -/
theorem Filling.foldl (hcoherent : l.agenda.Coherent l.range) (hcolumn : column < daysPerWeek)
    {items : List Occurrence} {f : ColumnFill} (hf : l.Filling start focal column placed row f)
    (hitems : ∀ o ∈ placed ++ items.filter fun o => o.wantsBand l.style.multiDayTheme,
      o ∈ l.banded start focal column)
    (hkeys : ((placed ++ items.filter fun o => o.wantsBand l.style.multiDayTheme).map
      Occurrence.slotKey).Nodup) :
    ∃ row', l.Filling start focal column
        (placed ++ items.filter fun o => o.wantsBand l.style.multiDayTheme) row'
        (items.foldl (l.fillItem (start.addDays column) l.range.lastDate) f) ∧
      (items.foldl (l.fillItem (start.addDays column) l.range.lastDate) f).singles =
        f.singles ++ items.filter (fun o => !o.wantsBand l.style.multiDayTheme) ∧
      ∀ {x o'}, l.Begun start focal column placed x o' →
        row' o'.slotKey = row o'.slotKey := by
  induction items generalizing placed row f with
  | nil =>
    simp only [List.filter_nil, List.append_nil]
    exact ⟨row, hf, rfl, fun _ => rfl⟩
  | cons o items ih =>
    rw [← List.singleton_append, List.filter_append, ← List.append_assoc] at hitems hkeys ⊢
    obtain ⟨row₁, hf₁, hsingles₁, hkeep₁⟩ := hf.step hcoherent hcolumn
      (fun o' ho' => hitems o' (List.mem_append_left _ ho'))
      (hkeys.sublist ((List.sublist_append_left _ _).map _))
    obtain ⟨row', hf', hsingles', hkeep'⟩ := ih hf₁ hitems hkeys
    rw [List.singleton_append, List.foldl_cons]
    refine ⟨row', hf', ?_, fun h => (hkeep' h.append).trans (hkeep₁ h)⟩
    rw [hsingles', hsingles₁, List.append_assoc, ← List.filter_append, List.singleton_append]

/-! ## Filling a week -/

/-- The items of a date that want no band. -/
def singles (l : Layout) (d : Date) : List Occurrence :=
  (l.agenda.on d).filter fun o => !o.wantsBand l.style.multiDayTheme

/-- The single-day items of a column. -/
def singleColumn (l : Layout) (start : Date) (focal : Option Nat) (column : Nat) :
    SingleDayColumn :=
  if l.inView focal (start.addDays column) then
    l.singleDayColumn (start.addDays column) (l.singles (start.addDays column))
  else {}

theorem Packed.next (hp : l.Packed start focal column (l.banded start focal column) row slots) :
    l.Packed start focal (column + 1) [] row slots where
  wide := hp.wide
  holder := by
    intro r y k
    simp only [hp.holder, begun_banded_iff]
  blocked := by
    intro x o h
    have hblocked := hp.blocked (begun_banded_iff.mpr h)
    simp only [begun_banded_iff] at hblocked
    exact hblocked

/-- **One column more.** -/
theorem packed_fillColumn (hcoherent : l.agenda.Coherent l.range) (hcolumn : column < daysPerWeek)
    {packer : WeekPacker} (hfirst : start.weekday.fromSunday = packer.firstDay)
    (hp : l.Packed start focal column [] row packer.slots) :
    ∃ row' bands packer',
      l.fillColumn focal packer (start.addDays column) =
          ((bands, l.singleColumn start focal column), packer') ∧
        l.Filled start focal column (l.banded start focal column) row' bands ∧
        packer'.firstDay = packer.firstDay ∧
        l.Packed start focal (column + 1) [] row' packer'.slots ∧
        ∀ {x o'}, l.Begun start focal column [] x o' → row' o'.slotKey = row o'.slotKey := by
  by_cases hview : l.inView focal (start.addDays column)
  · have hbanded : l.banded start focal column = (l.agenda.on (start.addDays column)).filter
        fun o => o.wantsBand l.style.multiDayTheme := if_pos hview
    have hf : l.Filling start focal column [] row { packer := packer } :=
      ⟨hp, filled_nil column row, hfirst⟩
    have hitems : ∀ o ∈ [] ++ (l.agenda.on (start.addDays column)).filter
        (fun o : Occurrence => o.wantsBand l.style.multiDayTheme),
          o ∈ l.banded start focal column := by
      rw [List.nil_append, ← hbanded]
      exact fun o ho => ho
    have hkeys : (([] ++ (l.agenda.on (start.addDays column)).filter
        fun o : Occurrence => o.wantsBand l.style.multiDayTheme).map
          Occurrence.slotKey).Nodup := by
      rw [List.nil_append, ← hbanded]
      exact nodup_slotKey_banded hcoherent column
    obtain ⟨row', hf', hsingles, hkeep⟩ := hf.foldl hcoherent hcolumn hitems hkeys
    rw [List.nil_append, ← hbanded] at hf'
    refine ⟨row', _, _, ?_, hf'.filled, hf'.firstDay.symm.trans hfirst, hf'.packed.next, hkeep⟩
    rw [fillColumn, if_pos hview, singleColumn, if_pos hview, singles]
    dsimp only
    rw [hsingles, List.nil_append]
  · have hbanded : l.banded start focal column = [] := if_neg hview
    refine ⟨row, [], packer, ?_, ?_, rfl, Packed.next ?_, fun _ => rfl⟩
    · rw [fillColumn, if_neg hview, singleColumn, if_neg hview]
    · rw [hbanded]
      exact filled_nil column row
    · rw [hbanded]
      exact hp

/-- **The columns one after another.** -/
theorem packed_fillColumns (hcoherent : l.agenda.Coherent l.range) {n : Nat}
    (hn : column + n = daysPerWeek) {packer : WeekPacker}
    (hfirst : start.weekday.fromSunday = packer.firstDay)
    (hp : l.Packed start focal column [] row packer.slots) :
    ∃ row' columns packer',
      l.fillColumns focal packer ((List.range' column n).map fun x : Nat => start.addDays x) =
          (columns, packer') ∧
        columns.length = n ∧
        (∀ x < n, ∃ bands,
          columns[x]? = some (bands, l.singleColumn start focal (column + x)) ∧
            l.Filled start focal (column + x) (l.banded start focal (column + x)) row' bands) ∧
        l.Packed start focal daysPerWeek [] row' packer'.slots ∧
        ∀ {x o'}, l.Begun start focal column [] x o' → row' o'.slotKey = row o'.slotKey := by
  induction n generalizing column row packer with
  | zero =>
    obtain rfl : column = daysPerWeek := by omega
    exact ⟨row, [], packer, rfl, rfl, fun x hx => absurd hx (Nat.not_lt_zero x), hp, fun _ => rfl⟩
  | succ n ih =>
    obtain ⟨row₁, bands, packer₁, hfill, hfilled, hfirst₁, hp₁, hkeep₁⟩ :=
      packed_fillColumn hcoherent (by omega) hfirst hp
    obtain ⟨row', columns, packer', hfills, hlength, hcolumns, hp', hkeep'⟩ :=
      ih (show column + 1 + n = daysPerWeek by omega) (hfirst.trans hfirst₁.symm) hp₁
    refine ⟨row', (bands, l.singleColumn start focal column) :: columns, packer', ?_, ?_, ?_,
      hp', ?_⟩
    · rw [List.range'_succ, List.map_cons, fillColumns, hfill]
      dsimp only
      rw [hfills]
    · rw [List.length_cons, hlength]
    · intro x hx
      cases x with
      | zero =>
        -- The columns after this one change none of its rows.
        refine ⟨bands, rfl, hfilled.congr fun o ho => ?_⟩
        exact hkeep' (begun_nil_iff.mpr ⟨Nat.lt_succ_self _, ho⟩)
      | succ x =>
        have hshift : column + 1 + x = column + (x + 1) := by omega
        rw [← hshift]
        exact hcolumns x (by omega)
    · intro x o' h
      obtain ⟨hx, hbanded⟩ := begun_nil_iff.mp h
      have hnext : l.Begun start focal (column + 1) [] x o' :=
        begun_nil_iff.mpr ⟨hx.trans (Nat.lt_succ_self _), hbanded⟩
      exact (hkeep' hnext).trans (hkeep₁ h)

end Layout
end Almanac
