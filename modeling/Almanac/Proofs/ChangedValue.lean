import Almanac.Proofs.Appearances

/-! # A changed value

One value of one record is replaced by another: by one that names no instant, by one whose
rule fails, or by a proper one.  The fragments of the other values stay as they are, and so
does their order within a day (`on_withValue`).

A record gives its fragments value by value (`fragments_eq_flatMap`), and without the
position at its end the identifier of a fragment is that of its value
(`baseDateId_of_mem_fragmentsAt`).  So a fragment with another identifier comes from a value
that is still there, and leaving fragments out commutes with the stable sort of a day
(`Sorted.filter_mergeSort`).  As identifiers determine the entity, the field and the
position (`dateId_inj`), what is left out belongs to the replaced value, or to a record of the
same entity with the same field.
-/
namespace Almanac

/-- A record with another value at a position. -/
def Record.withValue (r : Record) (delta : Nat) (v : DateValue) : Record :=
  { r with values := r.values.set delta v }

namespace Collector

variable {c : Collector} {range : Range}

/-! ## The fragments of one value -/

/-- The fragments of the value of a record at a position. -/
def fragmentsAt (c : Collector) (range : Range) (r : Record) (delta : Nat) : List Occurrence :=
  (r.occurrence c.zones delta range.zone).toOption.toList.flatMap fun o =>
    (o.splitByDay c.expander c.precision range).map (c.legend.apply r)

theorem fragments_eq_flatMap (r : Record) :
    c.fragments range r = (List.range r.values.length).flatMap (c.fragmentsAt range r) := by
  rw [fragments, occurrences, List.filterMap_eq_flatMap_toList, List.flatMap_assoc]
  rfl

/-- The fragments of a value bear its identifier. -/
theorem baseDateId_of_mem_fragmentsAt {r : Record} {delta : Nat} {f : Occurrence}
    (h : f ∈ c.fragmentsAt range r delta) :
    f.baseDateId = Almanac.dateId r.entityId r.field delta := by
  obtain ⟨o, ho, hf⟩ := List.mem_flatMap.mp h
  obtain ⟨part, hpart, rfl⟩ := List.mem_map.mp hf
  have hvalue : OfValue r delta o := ofValue_of_occurrence (Option.mem_toList.mp ho)
  obtain ⟨i, hi, hsingle⟩ :=
    List.mem_flatMap.mp ((o.splitByDay_perm c.expander range c.precision).mem_iff.mp hpart)
  have hinterval := hvalue.of_mem_intervals hi
  rw [Occurrence.splitSingle_eq_map hinterval.ordered] at hsingle
  obtain ⟨d, -, rfl⟩ := List.mem_map.mp hsingle
  have hbase := Occurrence.baseDateId_fragmentAt (i.onClocks range.zone) c.precision
    (i.spansDays range) d
  exact hbase.trans hinterval.dateId

theorem fragmentsAt_withValue {r : Record} {delta k : Nat} (hk : k ≠ delta) (v : DateValue) :
    c.fragmentsAt range (r.withValue delta v) k = c.fragmentsAt range r k := by
  have hvalue : (r.withValue delta v).values[k]? = r.values[k]? :=
    List.getElem?_set_ne (Ne.symm hk)
  have hoccurrence : (r.withValue delta v).occurrence c.zones k range.zone =
      r.occurrence c.zones k range.zone := by
    rw [Record.occurrence, hvalue]
    rfl
  rw [fragmentsAt, hoccurrence]
  rfl

/-! ## The other fragments of a record -/

/-- The fragments whose identifier is another one. -/
def others (id : String) (fragments : List Occurrence) : List Occurrence :=
  fragments.filter fun f => f.baseDateId ≠ id

theorem others_flatMap {α : Type} (id : String) (l : List α) (g : α → List Occurrence) :
    others id (l.flatMap g) = l.flatMap fun a => others id (g a) :=
  List.filter_flatMap

/-- A value has no fragments with another identifier than its own. -/
theorem others_fragmentsAt_self (r : Record) (delta : Nat) :
    others (Almanac.dateId r.entityId r.field delta) (c.fragmentsAt range r delta) = [] := by
  refine List.filter_eq_nil_iff.mpr fun f hf hne => ?_
  exact of_decide_eq_true hne (baseDateId_of_mem_fragmentsAt hf)

/-- Replacing a value changes no other fragment of its record. -/
theorem others_fragments_withValue (r : Record) (delta : Nat) (v : DateValue) :
    others (Almanac.dateId r.entityId r.field delta) (c.fragments range (r.withValue delta v)) =
      others (Almanac.dateId r.entityId r.field delta) (c.fragments range r) := by
  have hlength : (r.withValue delta v).values.length = r.values.length := List.length_set
  rw [fragments_eq_flatMap, fragments_eq_flatMap, hlength, others_flatMap, others_flatMap]
  refine List.flatMap_congr fun k _ => ?_
  by_cases hk : k = delta
  · subst hk
    rw [others_fragmentsAt_self]
    exact others_fragmentsAt_self (r.withValue k v) k
  · rw [fragmentsAt_withValue hk]

/-! ## The items of a day -/

/-- Replacing a value changes no other fragment of the records that count. -/
theorem others_fresh_withValue (rendered : List Int) (before : List Record) (r : Record)
    (after : List Record) (delta : Nat) (v : DateValue) :
    others (Almanac.dateId r.entityId r.field delta)
        ((fresh rendered (before ++ r.withValue delta v :: after)).flatMap
          (c.fragments range)) =
      others (Almanac.dateId r.entityId r.field delta)
        ((fresh rendered (before ++ r :: after)).flatMap (c.fragments range)) := by
  -- Whether a record counts depends on its entity only, and that is the same.
  have hentity : (r.withValue delta v).entityId = r.entityId := rfl
  rw [fresh_append, fresh_append, fresh, fresh, hentity]
  split
  · rfl
  · rw [others_flatMap, others_flatMap, List.flatMap_append, List.flatMap_append,
      List.flatMap_cons, List.flatMap_cons, others_fragments_withValue]

theorem others_on_ofFragments (id : String) (fragments : List Occurrence) (d : Date) :
    others id ((Agenda.ofFragments fragments).on d) =
      Agenda.sorted ((others id fragments).filter fun f => f.day = d) := by
  rw [Agenda.on_ofFragments, Agenda.sorted, others, Sorted.filter_mergeSort, List.filter_comm]
  rfl

/-- **One bad or changed value does not disturb another event.**  Whatever value of a record is
replaced by whatever other one, each day keeps the fragments with other identifiers, in
their order; and only values at the same position of the same field and entity have the
identifier that is left out. -/
theorem on_withValue (c : Collector) (range : Range) (rendered : List Int)
    (before : List Record) (r : Record) (after : List Record) (delta : Nat) (v : DateValue) :
    (∀ d,
      others (Almanac.dateId r.entityId r.field delta)
          ((c.collect range rendered (before ++ r.withValue delta v :: after)).1.on d) =
        others (Almanac.dateId r.entityId r.field delta)
          ((c.collect range rendered (before ++ r :: after)).1.on d)) ∧
      ∀ r' k f, f ∈ c.fragmentsAt range r' k →
        (f.baseDateId = Almanac.dateId r.entityId r.field delta ↔
          r'.entityId = r.entityId ∧ r'.field = r.field ∧ k = delta) := by
  refine ⟨fun d => ?_, fun r' k f hf => ?_⟩
  · rw [collect, collect, others_on_ofFragments, others_on_ofFragments, others_fresh_withValue]
  · rw [baseDateId_of_mem_fragmentsAt hf, dateId_inj]

end Collector
end Almanac
