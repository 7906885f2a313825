import Almanac.Proofs.Zone.Resolved

/-! # Intervals stored as two values

The instants of a stored interval are those of its two values, each read by its form
(`Record.occurrence_eq`), but an end before the start is dropped.  For two wall-clock
times, the first not after the second, this happens only if the zone resolves them in the
other order, so not if a change of its clocks skips neither (`Zone.ordered_resolve`).

In New York, 02:45 on a day on which the clocks are set ahead from 02:00 to 03:00 is moved on
to 03:15, and comes after 03:05.
-/
namespace Almanac

namespace DateValue

/-- The form of the start of a value. -/
def startForm? (v : DateValue) : Option StorageForm :=
  v.value.bind StorageForm.read?

/-- The form of the end of a value. -/
def finishForm? (v : DateValue) : Option StorageForm :=
  v.endValue.bind StorageForm.read?

theorem start?_eq (v : DateValue) (storage display : Zone) :
    v.start? storage display = v.startForm?.map (StorageForm.instant .start storage display) :=
  Option.map_bind.symm

theorem finish_eq (v : DateValue) (storage display : Zone) :
    v.endValue.bind (storedInstant? .finish storage display) =
      v.finishForm?.map (StorageForm.instant .finish storage display) :=
  Option.map_bind.symm

end DateValue

/-- The occurrence of a value with a start. -/
theorem Record.occurrence_eq {zones : Zones} {r : Record} {delta : Nat} {v : DateValue}
    {storage : Zone} {form : StorageForm} (hv : r.values[delta]? = some v)
    (hzone : zones r.storageZone = some storage) (hstart : v.startForm? = some form)
    (display : Zone) :
    r.occurrence zones delta display =
      .ok (r.occurrenceOf v delta storage display (form.instant .start storage display)) := by
  have hfound : v.start? storage display = some (form.instant .start storage display) := by
    rw [v.start?_eq, hstart, Option.map_some]
  unfold occurrence
  rw [hv, hzone]
  dsimp only
  rw [hfound]

namespace Zone

variable {z : Zone}

/-- **The order of stored times.**  A time keeps its order with the later times exactly if the
clocks do not reach it before the instant it is resolved to, and so it does if the clocks show
it and no change skips it.  Then an interval from it to a later time is not cut short. -/
theorem ordered_resolve (hz : z.Regular) {a : WallTime} (ha : a.inCalendar = true) :
    (z.OrdersAfter a ↔ z.NotReachedBefore a (z.resolve a)) ∧
      ((z.earliest? a).isSome = true → ¬z.SkipsOver a.seconds → z.OrdersAfter a) ∧
      (z.OrdersAfter a → ∀ (zones : Zones) (r : Record) (delta : Nat) (v : DateValue)
        (display : Zone) (b : WallTime),
          r.values[delta]? = some v → zones r.storageZone = some z →
          v.startForm? = some (.wallTime a) → v.finishForm? = some (.wallTime b) →
          b.inCalendar = true → a ≤ b → z.Forward b →
          ∃ o, r.occurrence zones delta display = .ok o ∧ o.start = z.resolve a ∧
            o.finish = z.resolve b) := by
  refine ⟨ordersAfter_iff hz ha, fun hshown hskip => ?_, ?_⟩
  · obtain ⟨t, hfound⟩ := Option.isSome_iff_exists.mp hshown
    refine ordersAfter_of_notReachedBefore hz ?_
    rw [resolve_of_earliest? hfound]
    exact notReachedBefore_of_not_skipsOver hz hfound hskip
  · intro horder zones r delta v display b hv hzone hstart hfinish hb hab hforward
    refine ⟨_, Record.occurrence_eq hv hzone hstart display, rfl, ?_⟩
    show Occurrence.closingInstant (z.resolve a) _ = z.resolve b
    rw [v.finish_eq, hfinish, Option.map_some, Occurrence.closingInstant]
    exact if_pos (horder b hb hab hforward)

/-- In New York, 01:30 on 2024-03-10 comes before the clocks are set ahead. -/
theorem ordered_resolve_newYork :
    (newYork.Regular ∧ WallTime.inCalendar ⟨1710034200, 0⟩ = true) ∧
      newYork.OrdersAfter ⟨1710034200, 0⟩ :=
  ⟨by decide +kernel, (ordered_resolve (z := newYork) (a := ⟨1710034200, 0⟩) (by decide +kernel)
    (by decide)).2.1 (by decide +kernel) (by decide +kernel)⟩

/-- The clocks of New York skip 02:45 on 2024-03-10, which is resolved to an instant after
that of 03:05. -/
theorem not_ordered_newYork :
    ¬∀ a b : WallTime, a.inCalendar = true → b.inCalendar = true → a.date = b.date → a ≤ b →
      newYork.resolve a ≤ newYork.resolve b := by
  intro h
  have hback : newYork.resolve ⟨1710039900, 0⟩ < newYork.resolve ⟨1710038700, 0⟩ := by
    decide +kernel
  exact absurd (h ⟨1710038700, 0⟩ ⟨1710039900, 0⟩ (by decide) (by decide) (by decide) (by decide))
    (not_le.mpr hback)

end Zone
end Almanac
