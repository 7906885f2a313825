import Almanac.Proofs.SlotRows
import Almanac.Proofs.Week.Columns

/-! # Runs of the packer

A week is packed by one call of `WeekPacker.place` after another.  The calls may come in
any order: nothing here assumes that the days of a week are laid out from left to right,
or that a fragment is laid out once.

`Placement.Places` says what one call finds and leaves.  A band takes slots of the row
that were free, and a covered day is under a slot that its key holds already.  So a call
takes no slot away from its holder (`Kept`), and neither does a run of calls
(`kept_run`).  A band that begins later finds the slots of the earlier ones held, and
therefore two bands in one row are apart (`pairwise_bands`).
-/
namespace Almanac

/-- **What a call finds and leaves** in a column, for the key of its occurrence. -/
inductive Placement.Places (before after : SlotRows) (column : Nat) (key : String) :
    Placement → Prop
  /-- A band takes free slots, all of them in the week row. -/
  | band {row colspan : Nat} {continuation continues : Bool} (pos : 1 ≤ colspan)
      (inRow : column + colspan ≤ daysPerWeek)
      (free : ∀ y, column ≤ y → y < column + colspan → before.holder? row y = none)
      (taken : ∀ y, column ≤ y → y < column + colspan → after.holder? row y = some key) :
      Places before after column key (.band row colspan continuation continues)
  /-- A covered day is under a slot that the key holds. -/
  | covered {row : Nat} (held : before.holder? row column = some key) :
      Places before after column key (.covered row)

/-- Whether every slot that is held keeps its holder. -/
def SlotRows.Kept (before after : SlotRows) : Prop :=
  ∀ r y k, before.holder? r y = some k → after.holder? r y = some k

theorem SlotRows.Kept.refl (m : SlotRows) : m.Kept m := fun _ _ _ h => h

theorem SlotRows.Kept.trans {a b c : SlotRows} (hab : a.Kept b) (hbc : b.Kept c) : a.Kept c :=
  fun r y k h => hbc r y k (hab r y k h)

/-- A slot that is free later was free before. -/
theorem SlotRows.Kept.free {before after : SlotRows} (h : before.Kept after) {r y : Nat}
    (hfree : after.holder? r y = none) : before.holder? r y = none := by
  cases hheld : before.holder? r y with
  | none => rfl
  | some k =>
    rw [h r y k hheld] at hfree
    cases hfree

/-- The slots a band takes: a row, its first column and how many. -/
structure BandSpan where
  row : Nat
  column : Nat
  colspan : Nat
  deriving DecidableEq, Repr

/-- Whether two bands have no slot in common. -/
def BandSpan.Apart (a b : BandSpan) : Prop :=
  a.row = b.row → a.column + a.colspan ≤ b.column ∨ b.column + b.colspan ≤ a.column

/-- The slots of a placement in a column, if a band begins there. -/
def Placement.span? (column : Nat) : Placement → Option BandSpan
  | .band row colspan _ _ => some ⟨row, column, colspan⟩
  | .covered _ => none

/-! ## One call -/

theorem one_le_colspanFor (d : Date) (column : Nat) (eventLast visibleLast : Date) :
    1 ≤ colspanFor d column eventLast visibleLast :=
  Nat.succ_pos _

/-- A band ends in the week row, whatever the dates. -/
theorem column_add_colspanFor_le {column : Nat} (h : column < daysPerWeek)
    (d eventLast visibleLast : Date) :
    column + colspanFor d column eventLast visibleLast ≤ daysPerWeek := by
  rw [daysPerWeek] at h
  simp only [colspanFor, daysPerWeek]
  omega

namespace WeekPacker

/-- A call of the packer: an occurrence, the date of its fragment and the last visible
date. -/
structure Call where
  occurrence : Occurrence
  date : Date
  visibleLast : Date

/-- The placements of calls, one after another, and the packer after them. -/
def run (p : WeekPacker) : List Call → List Placement × WeekPacker
  | [] => ([], p)
  | c :: calls =>
    let (placement, p) := p.place c.occurrence c.date c.visibleLast
    let (placements, p) := run p calls
    (placement :: placements, p)

/-- Whether the rows have their full number of slots and the week starts on a weekday. -/
structure WellFormed (p : WeekPacker) : Prop where
  wide : p.slots.Wide
  firstDay : p.firstDay ≤ 6

variable {p : WeekPacker}

theorem wellFormed_startWeek (h : p.firstDay ≤ 6) : p.startWeek.WellFormed :=
  ⟨SlotRows.wide_empty, h⟩

/-- The packer after a call. -/
def next (p : WeekPacker) (c : Call) : WeekPacker :=
  (p.place c.occurrence c.date c.visibleLast).2

/-- A call can be carried out if a band can be measured from the column of its date: beyond the
week row a band has one column, and within it no band leaves the row. -/
theorem placeFits_of_columnFits {d : Date} (h : columnFits (d.weekColumn p.firstDay) = true)
    (o : Occurrence) (visibleLast : Date) : p.placeFits o d visibleLast = true := by
  have hcolumn := of_decide_eq_true h
  have hend : d.weekColumn p.firstDay +
      colspanFor d (d.weekColumn p.firstDay) o.lastDay visibleLast < UInt64.size := by
    rw [UInt64.size] at *
    simp only [colspanFor, daysPerWeek]
    omega
  rw [placeFits, SlotRows.searchFits, h]
  simp [hend]

/-- **One call.**  It can be carried out. -/
theorem place_spec (h : p.WellFormed) (c : Call) :
    p.placeFits c.occurrence c.date c.visibleLast = true ∧ (p.next c).WellFormed ∧
      (p.next c).firstDay = p.firstDay ∧ p.slots.Kept (p.next c).slots ∧
      (p.place c.occurrence c.date c.visibleLast).1.Places p.slots (p.next c).slots
        (c.date.weekColumn p.firstDay) c.occurrence.slotKey := by
  refine ⟨placeFits_of_columnFits (columnFits_weekColumn h.firstDay c.date) _ _, ?_⟩
  have hcolumn := c.date.weekColumn_lt h.firstDay
  have hinRow := column_add_colspanFor_le hcolumn c.date c.occurrence.lastDay c.visibleLast
  rw [next]
  rcases place_cases h.wide rfl rfl (hinRow.trans (by decide)) with
    ⟨row, hheld, hplace⟩ | ⟨row, slots, -, htakes, hplace⟩
  · rw [hplace]
    exact ⟨h, rfl, .refl _, .covered hheld⟩
  · rw [hplace]
    refine ⟨⟨htakes.wide, h.firstDay⟩, rfl, ?_,
      .band (one_le_colspanFor _ _ _ _) hinRow htakes.room ?_⟩
    · -- The slots the band takes had no holder, and the others are left alone.
      intro r y k hheld
      rw [htakes.holder, if_neg, hheld]
      rintro ⟨rfl, hle, hlt⟩
      rw [htakes.room y hle hlt] at hheld
      cases hheld
    · intro y hle hlt
      rw [htakes.holder, if_pos ⟨rfl, hle, hlt⟩]

/-! ## Runs -/

theorem run_cons (p : WeekPacker) (c : Call) (calls : List Call) :
    p.run (c :: calls) =
      ((p.place c.occurrence c.date c.visibleLast).1 :: ((p.next c).run calls).1,
        ((p.next c).run calls).2) := rfl

theorem run_append (p : WeekPacker) (earlier later : List Call) :
    p.run (earlier ++ later) =
      ((p.run earlier).1 ++ ((p.run earlier).2.run later).1, ((p.run earlier).2.run later).2) := by
  induction earlier generalizing p with
  | nil => rfl
  | cons c earlier ih => rw [List.cons_append, run_cons, run_cons, ih, List.cons_append]

theorem length_run (p : WeekPacker) (calls : List Call) :
    (p.run calls).1.length = calls.length := by
  induction calls generalizing p with
  | nil => rfl
  | cons c calls ih => rw [run_cons, List.length_cons, List.length_cons, ih]

/-- **A run keeps every holder.** -/
theorem kept_run (h : p.WellFormed) (calls : List Call) :
    (p.run calls).2.WellFormed ∧ (p.run calls).2.firstDay = p.firstDay ∧
      p.slots.Kept (p.run calls).2.slots := by
  induction calls generalizing p with
  | nil => exact ⟨h, rfl, .refl _⟩
  | cons c calls ih =>
    obtain ⟨-, h', hfirst', hkept, -⟩ := place_spec h c
    obtain ⟨h'', hfirst'', hkept'⟩ := ih h'
    rw [run_cons]
    exact ⟨h'', hfirst''.trans hfirst', hkept.trans hkept'⟩

/-! ## The bands of a run -/

/-- The bands that begin in a run, in the order of the calls. -/
def bands (p : WeekPacker) (calls : List Call) : List BandSpan :=
  (calls.zip (p.run calls).1).filterMap fun (c, placement) =>
    placement.span? (c.date.weekColumn p.firstDay)

theorem bands_cons (h : p.WellFormed) (c : Call) (calls : List Call) :
    p.bands (c :: calls) =
      ((p.place c.occurrence c.date c.visibleLast).1.span?
          (c.date.weekColumn p.firstDay)).toList ++ (p.next c).bands calls := by
  obtain ⟨-, -, hfirst', -⟩ := place_spec h c
  rw [bands, bands, hfirst', run_cons, List.zip_cons_cons, List.filterMap_cons]
  dsimp only
  cases (p.place c.occurrence c.date c.visibleLast).1.span? (c.date.weekColumn p.firstDay) <;> rfl

/-- A band that begins in a run takes slots that were free before the run. -/
theorem free_of_mem_bands (h : p.WellFormed) {calls : List Call} {b : BandSpan}
    (hb : b ∈ p.bands calls) :
    1 ≤ b.colspan ∧
      ∀ y, b.column ≤ y → y < b.column + b.colspan → p.slots.holder? b.row y = none := by
  induction calls generalizing p with
  | nil => exact absurd hb List.not_mem_nil
  | cons c calls ih =>
    obtain ⟨-, h', -, hkept, hplaces⟩ := place_spec h c
    rw [bands_cons h, List.mem_append] at hb
    rcases hb with hb | hb
    · generalize (p.place c.occurrence c.date c.visibleLast).1 = placement at hb hplaces
      cases hplaces with
      | band hpos _ hfree _ =>
        obtain rfl := List.mem_singleton.mp hb
        exact ⟨hpos, hfree⟩
      | covered _ => exact absurd hb List.not_mem_nil
    · obtain ⟨hpos, hfree⟩ := ih h' hb
      exact ⟨hpos, fun y hle hlt => hkept.free (hfree y hle hlt)⟩

/-- **Bands in one row are apart.** -/
theorem pairwise_bands (h : p.WellFormed) (calls : List Call) :
    (p.bands calls).Pairwise BandSpan.Apart := by
  induction calls generalizing p with
  | nil => exact .nil
  | cons c calls ih =>
    obtain ⟨-, h', -, -, hplaces⟩ := place_spec h c
    rw [bands_cons h]
    generalize (p.place c.occurrence c.date c.visibleLast).1 = placement at hplaces
    cases hplaces with
    | covered _ => exact ih h'
    | band hpos _ _ htaken =>
      refine List.pairwise_cons.mpr ⟨fun b hb hrow => ?_, ih h'⟩
      obtain ⟨hpos', hfree⟩ := free_of_mem_bands h' hb
      dsimp only at hrow ⊢
      by_contra hmeet
      -- The greater of the two first columns belongs to both bands.
      have hheld := htaken (max (c.date.weekColumn p.firstDay) b.column) (by omega) (by omega)
      rw [hrow, hfree _ (by omega) (by omega)] at hheld
      cases hheld

/-! ## A week of calls -/

/-- The slots after the first `n` calls of a week. -/
def slotsAfter (p : WeekPacker) (calls : List Call) (n : Nat) : SlotRows :=
  (p.startWeek.run (calls.take n)).2.slots

/-- Later calls of a week keep the holders of earlier ones. -/
theorem kept_slotsAfter (h : p.firstDay ≤ 6) (calls : List Call) {m n : Nat} (hmn : m ≤ n) :
    (p.slotsAfter calls m).Kept (p.slotsAfter calls n) := by
  obtain ⟨h', -⟩ := kept_run (wellFormed_startWeek h) (calls.take m)
  -- The first `n` calls are the first `m` calls and those that follow.
  have hsplit : calls.take n = calls.take m ++ (calls.take n).drop m := by
    have htake : (calls.take n).take m = calls.take m := by
      rw [List.take_take, Nat.min_eq_left hmn]
    rw [← htake, List.take_append_drop]
  rw [slotsAfter, slotsAfter, hsplit, run_append]
  exact (kept_run h' _).2.2

/-- Every call of a week finds and leaves the slots as its placement says. -/
theorem places_slotsAfter (h : p.firstDay ≤ 6) {calls : List Call} {n : Nat} {c : Call}
    {placement : Placement} (hc : calls[n]? = some c)
    (hplacement : (p.startWeek.run calls).1[n]? = some placement) :
    placement.Places (p.slotsAfter calls n) (p.slotsAfter calls (n + 1))
      (c.date.weekColumn p.firstDay) c.occurrence.slotKey := by
  obtain ⟨h', hfirst', -⟩ := kept_run (wellFormed_startWeek h) (calls.take n)
  obtain ⟨-, -, -, -, hplaces⟩ := place_spec h' c
  obtain ⟨hn, hget⟩ := List.getElem?_eq_some_iff.mp hc
  -- Call `n` is made with the packer after the calls before it.
  have hsplit : calls = calls.take n ++ c :: calls.drop (n + 1) := by
    rw [← hget, List.getElem_cons_drop, List.take_append_drop]
  have htake : calls.take (n + 1) = calls.take n ++ [c] := by
    rw [List.take_add_one, hc, Option.toList_some]
  have hlength : (p.startWeek.run (calls.take n)).1.length = n := by
    rw [length_run, List.length_take, Nat.min_eq_left hn.le]
  rw [hsplit, run_append, List.getElem?_append_right hlength.le, hlength, Nat.sub_self,
    run_cons, List.getElem?_cons_zero, Option.some.injEq] at hplacement
  rw [hfirst', hplacement] at hplaces
  rw [slotsAfter, slotsAfter, htake, run_append]
  exact hplaces

/-- **No overlap in a row.**  In a week of calls, in any order, a slot keeps its holder
until the next week starts, every call finds and leaves the slots as its placement says,
and the bands of one row are apart. -/
theorem apart_bands_startWeek (p : WeekPacker) (calls : List Call) (hfirst : p.firstDay ≤ 6) :
    (∀ m n, m ≤ n → (p.slotsAfter calls m).Kept (p.slotsAfter calls n)) ∧
      (p.startWeek.run calls).1.length = calls.length ∧
      (∀ n c, ∀ placement : Placement, calls[n]? = some c →
        (p.startWeek.run calls).1[n]? = some placement →
        placement.Places (p.slotsAfter calls n) (p.slotsAfter calls (n + 1))
          (c.date.weekColumn p.firstDay) c.occurrence.slotKey) ∧
      (p.startWeek.bands calls).Pairwise BandSpan.Apart :=
  ⟨fun _ _ hmn => kept_slotsAfter hfirst calls hmn, length_run _ _,
    fun _ _ _ hc hplacement => places_slotsAfter hfirst hc hplacement,
    pairwise_bands (wellFormed_startWeek hfirst) calls⟩

/-- Two days from April 8, 2025 on, then four days from the sixth on, the first and the third
of them, and the tenth. -/
def aprilCalls : List Call :=
  let event (id : String) (day hours : Nat) : Occurrence :=
    { dateId := id, start := ⟨86400 * day + 32400, 0⟩,
      finish := ⟨86400 * day + 32400 + 3600 * hours, 0⟩ }
  let visibleLast : Date := ⟨20208⟩
  [⟨event "short" 20186 20, ⟨20186⟩, visibleLast⟩, ⟨event "long" 20184 72, ⟨20184⟩, visibleLast⟩,
    ⟨event "long" 20184 72, ⟨20186⟩, visibleLast⟩, ⟨event "later" 20188 10, ⟨20188⟩, visibleLast⟩]

theorem apart_bands_startWeek_april :
    ({ firstDay := 0 } : WeekPacker).firstDay ≤ 6 ∧
      (∀ m n, m ≤ n → (slotsAfter { firstDay := 0 } aprilCalls m).Kept
        (slotsAfter { firstDay := 0 } aprilCalls n)) ∧
      (run (startWeek { firstDay := 0 }) aprilCalls).1.length = aprilCalls.length ∧
      (∀ n c, ∀ placement : Placement, aprilCalls[n]? = some c →
        (run (startWeek { firstDay := 0 }) aprilCalls).1[n]? = some placement →
        placement.Places (slotsAfter { firstDay := 0 } aprilCalls n)
          (slotsAfter { firstDay := 0 } aprilCalls (n + 1))
          (c.date.weekColumn 0) c.occurrence.slotKey) ∧
      (bands (startWeek { firstDay := 0 }) aprilCalls).Pairwise BandSpan.Apart :=
  ⟨by decide, apart_bands_startWeek { firstDay := 0 } aprilCalls (by decide)⟩

example : bands (startWeek { firstDay := 0 }) aprilCalls = [⟨0, 2, 2⟩, ⟨1, 0, 4⟩, ⟨0, 4, 1⟩] := by
  decide +kernel

end WeekPacker
end Almanac
