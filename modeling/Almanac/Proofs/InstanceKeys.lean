import Almanac.Proofs.Appearances

/-! # Slot keys identify instances

The fragments of an occurrence come from its instances, or from the occurrence itself if it does
not recur (`Occurrence.exists_interval_of_mem_splitByDay`).  A fragment starts with its instance,
and without its position it has the identifier of the instance, so it has the key of the instance
too (`Occurrence.of_mem_splitSingle`).

An instance of a value has the identifier of the value, whatever the field is called.  So the keys
of two fragments are equal exactly if the fragments come from one value and start in the same
second (`Record.slotKey_fragments`).
-/
namespace Almanac

namespace Occurrence

variable {o f : Occurrence} {expander : Expander} {precision : Precision} {range : Range}

/-- A fragment comes from an instance, or from an occurrence that does not recur. -/
theorem exists_interval_of_mem_splitByDay (hf : f ∈ o.splitByDay expander precision range) :
    ∃ i ∈ o.intervals expander range, f ∈ i.splitSingle precision range :=
  List.mem_flatMap.mp ((o.splitByDay_perm expander range precision).mem_iff.mp hf)

/-- What a fragment keeps of the interval it comes from. -/
theorem of_mem_splitSingle (hsegment : o.segment = none) (hordered : o.start ≤ o.finish)
    (hf : f ∈ o.splitSingle precision range) :
    f.start = o.start ∧ f.slotKey = o.slotKey ∧ f.baseDateId = o.baseDateId := by
  rw [splitSingle_eq_map hordered] at hf
  obtain ⟨d, -, rfl⟩ := List.mem_map.mp hf
  refine ⟨rfl, slotKey_fragmentAt (o := o.onClocks range.zone) hsegment _ _ d, ?_⟩
  rw [baseDateId_fragmentAt, baseDateId, hsegment]
  rfl

end Occurrence

namespace Record

open Collector (OfValue)

variable {zones : Zones} {r r' : Record} {delta delta' : Nat} {display display' : Zone}
  {o o' f : Occurrence}

/-- A fragment of a value comes from an instance of the value, which has its start, its key and
its identifier. -/
theorem exists_interval_of_fragment (ho : r.occurrence zones delta display = .ok o)
    {expander : Expander} {precision : Precision} {range : Range}
    (hf : f ∈ o.splitByDay expander precision range) :
    ∃ i ∈ o.intervals expander range, OfValue r delta i ∧
      f ∈ i.splitSingle precision range ∧
        f.start = i.start ∧ f.slotKey = i.slotKey ∧ f.baseDateId = i.baseDateId := by
  have hsome : (r.occurrence zones delta display).toOption = some o := by
    rw [ho]
    rfl
  have hvalue : OfValue r delta o := Collector.ofValue_of_occurrence hsome
  obtain ⟨i, hi, hfi⟩ := Occurrence.exists_interval_of_mem_splitByDay hf
  have hinstance := hvalue.of_mem_intervals hi
  exact ⟨i, hi, hinstance, hfi,
    Occurrence.of_mem_splitSingle hinstance.segment hinstance.ordered hfi⟩

/-- **Keys identify instances.**  A fragment of a value has the key and the identifier of the
instance it comes from.  Two fragments, of any two values and in any two ranges, have one key
exactly if the entity, the field and the position of the value are the same and both start in the
same second.  A leap second counts as part of the second before it. -/
theorem slotKey_fragments (expander expander' : Expander) (precision precision' : Precision)
    (range range' : Range) (ho : r.occurrence zones delta display = .ok o)
    (ho' : r'.occurrence zones delta' display' = .ok o') :
    (∀ f ∈ o.splitByDay expander precision range, ∃ i ∈ o.intervals expander range,
      f ∈ i.splitSingle precision range ∧ f.start = i.start ∧
        f.slotKey = i.slotKey ∧ f.baseDateId = i.baseDateId) ∧
    ∀ f ∈ o.splitByDay expander precision range,
      ∀ g ∈ o'.splitByDay expander' precision' range',
        f.slotKey = g.slotKey ↔
          r.entityId = r'.entityId ∧ r.field = r'.field ∧ delta = delta' ∧
            f.start.seconds = g.start.seconds := by
  constructor
  · intro f hf
    obtain ⟨i, hi, -, hkept⟩ := exists_interval_of_fragment ho hf
    exact ⟨i, hi, hkept⟩
  · intro f hf g hg
    obtain ⟨i, -, hi, -, hstart, hkey, -⟩ := exists_interval_of_fragment ho hf
    obtain ⟨j, -, hj, -, hstart', hkey', -⟩ := exists_interval_of_fragment ho' hg
    rw [hkey, hkey', hstart, hstart', hi.slotKey_eq_iff hj, and_assoc, and_assoc]

/-- From April 3, 2025 at 9 to the next day at 10. -/
def twoDays : DateValue where
  value := some "1743670800"
  endValue := some "1743760800"

/-- The two days in a field. -/
def stage (field : String) : Record where
  entityId := -7
  field := field
  values := [twoDays]

/-- The occurrence of the two days. -/
def stageDays (field : String) : Occurrence :=
  (stage field).occurrenceOf twoDays 0 .utc .utc ⟨1743670800, 0⟩

/-- The key of a field whose name has separators and digits begins with a key of another field. -/
theorem slotKey_fragments_stage :
    ((stage "stage").occurrence .listed 0 .utc = .ok (stageDays "stage") ∧
      (stage "stage.0@1743670800").occurrence .listed 0 .utc =
        .ok (stageDays "stage.0@1743670800")) ∧
    (∀ f ∈ (stageDays "stage").splitByDay (fun _ _ _ => .ok []) {} Occurrence.april,
      ∃ i ∈ (stageDays "stage").intervals (fun _ _ _ => .ok []) Occurrence.april,
        f ∈ i.splitSingle {} Occurrence.april ∧ f.start = i.start ∧
          f.slotKey = i.slotKey ∧ f.baseDateId = i.baseDateId) ∧
    ∀ f ∈ (stageDays "stage").splitByDay (fun _ _ _ => .ok []) {} Occurrence.april,
      ∀ g ∈ (stageDays "stage.0@1743670800").splitByDay (fun _ _ _ => .ok []) {}
          Occurrence.april,
        f.slotKey = g.slotKey ↔
          (-7 : Int) = -7 ∧ "stage" = "stage.0@1743670800" ∧ 0 = 0 ∧
            f.start.seconds = g.start.seconds := by
  have hshort : (stage "stage").occurrence .listed 0 .utc = .ok (stageDays "stage") := rfl
  have hlong : (stage "stage.0@1743670800").occurrence .listed 0 .utc =
      .ok (stageDays "stage.0@1743670800") := rfl
  exact ⟨⟨hshort, hlong⟩, slotKey_fragments _ _ {} {} Occurrence.april Occurrence.april
    hshort hlong⟩

example : ((stageDays "stage").splitByDay (fun _ _ _ => .ok []) {} Occurrence.april).map
      Occurrence.slotKey =
    ["calendar.-7.stage.0@1743670800", "calendar.-7.stage.0@1743670800"] := by
  decide +kernel

end Record
end Almanac
