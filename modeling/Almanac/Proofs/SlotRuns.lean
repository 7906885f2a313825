import Almanac.Proofs.Week.Run

/-! # First fit after any use of the slot rows

Slot rows change when slots are given to a key, when a search adds a row, and when they are
cleared.  A search for a span that leaves the 64-bit words cannot be carried out if there is a row
to search, and then no later step is taken (`SlotRows.next?`).  After any steps that can be carried
out every row has its full number of slots (`SlotRows.wide_run`).

A search that can be carried out finds the first row with room for its span, and giving the span of
that row to a key takes no slot away from its holder (`SlotRows.firstFit_run`).
-/
namespace Almanac
namespace SlotRows

/-- What is done to slot rows.  Rows, columns and lengths are 64-bit words. -/
inductive Step where
  | set (row column length : UInt64) (key : String)
  | find (column length : UInt64) (appendOnly : Bool)
  | reset

/-- The rows after a step, if it can be carried out. -/
def next? (m : SlotRows) : Step → Option SlotRows
  | .set row column length key => some (m.setSpan row.toNat column.toNat length.toNat key)
  | .find column length appendOnly => (m.findRow? column.toNat length.toNat appendOnly).map (·.2)
  | .reset => some {}

/-- The rows after some steps, one after another, if all of them can be carried out. -/
def run? (m : SlotRows) (steps : List Step) : Option SlotRows :=
  steps.foldlM next? m

variable {m m' : SlotRows}

/-! ## The shape of the rows -/

theorem findRow?_eq_some_iff {column length : Nat} {appendOnly : Bool} {found : Nat × SlotRows} :
    m.findRow? column length appendOnly = some found ↔
      m.searchFits column length appendOnly = true ∧
        m.findRow column length appendOnly = found := by
  rw [findRow?, Option.ite_none_right_eq_some, Option.some_inj]

/-- A search keeps the rows or adds a blank one, also if it is told to. -/
theorem wide_findRow (h : m.Wide) (column length : Nat) (appendOnly : Bool) :
    (m.findRow column length appendOnly).2.Wide := by
  unfold findRow
  dsimp only
  split
  · exact h
  · exact wide_append_blank h 1

/-- A step keeps the number of slots of every row. -/
theorem wide_next (h : m.Wide) {step : Step} (hstep : m.next? step = some m') : m'.Wide := by
  cases step with
  | set row column length key =>
    obtain rfl := Option.some.inj hstep
    exact wide_setSpan h _ _ _ key
  | find column length appendOnly =>
    obtain ⟨found, hfound, rfl⟩ := Option.map_eq_some_iff.mp hstep
    obtain ⟨-, rfl⟩ := findRow?_eq_some_iff.mp hfound
    exact wide_findRow h _ _ appendOnly
  | reset =>
    obtain rfl := Option.some.inj hstep
    exact wide_empty

/-- **After any steps** every row has its full number of slots. -/
theorem wide_run (h : m.Wide) {steps : List Step} (hrun : m.run? steps = some m') : m'.Wide := by
  induction steps generalizing m with
  | nil =>
    obtain rfl := Option.some.inj hrun
    exact h
  | cons step steps ih =>
    rw [run?, List.foldlM_cons] at hrun
    obtain ⟨next, hnext, hrest⟩ := Option.bind_eq_some_iff.mp hrun
    exact ih (wide_next h hnext) hrest

/-! ## What a search finds -/

/-- A search for a span that is not empty can be carried out unless the span leaves the words and
there is a row to search. -/
theorem findRow?_eq_none_iff {column length : Nat} (hlength : 0 < length) :
    m.findRow? column length false = none ↔
      m.rows ≠ [] ∧ UInt64.size ≤ column + length := by
  have hzero : (length == 0) = false := beq_false_of_ne hlength.ne'
  rw [findRow?, searchFits, hzero]
  simp

/-- Giving a span to a key takes no slot away if the row has room for it. -/
theorem Wide.kept_setSpan (h : m.Wide) {row column length : Nat}
    (hroom : m.Room column (column + length) row) (key : String) :
    m.Kept (m.setSpan row column length key) := by
  intro r y k hk
  rw [h.holder?_setSpan, if_neg, hk]
  rintro ⟨rfl, hy, hcolumn, hstop⟩
  rw [hroom y hy hcolumn hstop] at hk
  cases hk

/-- The same for a row that a search found. -/
theorem Finds.kept_setSpan {column length : Nat} {found : Nat × SlotRows}
    (h : m.Finds column (column + length) found) (hwide : m.Wide) (key : String) :
    m.Kept (found.2.setSpan found.1 column length key) := by
  have hroom : found.2.Room column (column + length) found.1 := by
    simpa only [Room, h.holder?] using h.room
  have hkept := (h.wide hwide).kept_setSpan hroom key
  simpa only [Kept, h.holder?] using hkept

/-- **First fit.**  After any steps that can be carried out the rows have their full number of
slots, and nothing is held beyond them.  A search for a span that is not empty can be carried out
exactly if there is no row yet or the span stays within the words.  Then it finds the first row
with room for the span, it leaves the rows as they are or adds the blank one that it finds, and
giving the span of that row to a key takes no slot away from its holder. -/
theorem firstFit_run {steps : List Step} {m : SlotRows} (hrun : run? {} steps = some m)
    (column length : UInt64) (hlength : 0 < length) :
    let stop := column.toNat + length.toNat
    (m.Wide ∧ ∀ row y, slotColumns ≤ y → m.holder? row y = none) ∧
      ((m.findRow? column.toNat length.toNat false).isSome ↔
        m.rows = [] ∨ stop < UInt64.size) ∧
      ∀ found, m.findRow? column.toNat length.toNat false = some found →
        m.Finds column.toNat stop found ∧
          ∀ key, m.Kept (found.2.setSpan found.1 column.toNat length.toNat key) := by
  intro stop
  have hwide : m.Wide := wide_run wide_empty hrun
  have hpos : 0 < length.toNat := UInt64.lt_iff_toNat_lt.mp hlength
  refine ⟨⟨hwide, fun row y hy => hwide.holder?_eq_none row hy⟩, ?_, fun found hfound => ?_⟩
  · rw [← not_iff_not, Option.not_isSome_iff_eq_none, findRow?_eq_none_iff hpos, not_or,
      Nat.not_lt]
  · obtain ⟨-, rfl⟩ := findRow?_eq_some_iff.mp hfound
    have hfinds := m.finds_findRow column.toNat hpos
    exact ⟨hfinds, fun key => hfinds.kept_setSpan hwide key⟩

/-- Three bands, the last of which goes beyond the columns. -/
def threeBands : List Step :=
  [.find 0 3 false, .set 0 0 3 "a", .find 2 2 false, .set 1 2 2 "b", .set 0 29 5 "c"]

theorem firstFit_run_threeBands :
    (0 : UInt64) < 27 ∧ ∃ m, run? {} threeBands = some m ∧
      (m.Wide ∧ ∀ row y, slotColumns ≤ y → m.holder? row y = none) ∧
        ((m.findRow? 4 27 false).isSome ↔ m.rows = [] ∨ 31 < UInt64.size) ∧
        ∀ found, m.findRow? 4 27 false = some found →
          m.Finds 4 31 found ∧ ∀ key, m.Kept (found.2.setSpan found.1 4 27 key) := by
  obtain ⟨m, hrun⟩ : ∃ m, run? {} threeBands = some m := ⟨_, rfl⟩
  exact ⟨by decide, m, hrun, firstFit_run hrun 4 27 (by decide)⟩

example : ((run? {} threeBands).bind (·.findRow? 4 25 false)).map (·.1) = some 0 ∧
    ((run? {} threeBands).bind (·.findRow? 4 27 false)).map (·.1) = some 1 := by
  decide +kernel

/-- A span that leaves the words cannot be searched for once there is a row, although a new row
would be the first with room for it. -/
theorem not_finds_beyondWords :
    ∃ m, run? {} [.set 0 5 1 "a"] = some m ∧
      m.Finds 5 (5 + 18446744073709551612) (1, ⟨m.rows ++ [blankRow]⟩) ∧
      ¬ ∃ found, m.findRow? 5 18446744073709551612 false = some found := by
  refine ⟨_, rfl, ⟨?_, ?_, .inr ⟨rfl, rfl⟩⟩, ?_⟩
  · exact room_of_rowCount_le (by decide +kernel)
  · intro row hrow hroom
    obtain rfl : row = 0 := Nat.lt_one_iff.mp hrow
    exact absurd (hroom 5 (by decide) (by decide) (by decide)) (by decide +kernel)
  · rw [← Option.isSome_iff_exists]
    decide +kernel

end SlotRows
end Almanac
