import Almanac.Proofs.DayCoverage
import Almanac.Proofs.Numerals

/-! # Slot keys

A slot key names the occurrence behind a fragment: the identifier of a value, an `@` and
the second of the start.  Splitting an occurrence by day does not change its key
(`slotKey_fragmentAt`).  The identifier of a value begins with the number of the entity up
to a dot and ends with the position of the value, and neither of these numbers contains a
separator.  So an identifier determines the entity, the field and the position
(`dateId_inj`).  The number of the second has no separator either, so a key determines all
these and the second of the start (`slotKey_eq_iff_of_dateId`).
-/
namespace Almanac

/-! ## Texts cut at a separator -/

namespace Text

/-- The first separator is the one before which none stands. -/
theorem splitFirst?_append_cons {sep : Char} {front back : List Char} (h : sep ∉ front) :
    splitFirst? sep (front ++ sep :: back) = some (front, back) := by
  induction front with
  | nil => exact if_pos rfl
  | cons c front ih =>
    obtain ⟨hc, hfront⟩ := List.ne_and_not_mem_of_not_mem_cons h
    rw [List.cons_append, splitFirst?, if_neg (Ne.symm hc), ih hfront, Option.map_some]

/-- A text is cut at its first separator in one way only. -/
theorem eq_of_append_separator {c : Char} {x x' y y' : String} (hx : c ∉ x.toList)
    (hx' : c ∉ x'.toList)
    (h : x ++ (String.singleton c ++ y) = x' ++ (String.singleton c ++ y')) : x = x' ∧ y = y' := by
  have hchars := congrArg String.toList h
  simp only [String.toList_append, String.toList_singleton, List.singleton_append] at hchars
  have hcut := congrArg (splitFirst? c) hchars
  rw [splitFirst?_append_cons hx, splitFirst?_append_cons hx'] at hcut
  obtain ⟨hfront, hback⟩ := Prod.mk.inj (Option.some.inj hcut)
  exact ⟨String.toList_inj.mp hfront, String.toList_inj.mp hback⟩

theorem beforeLast?_eq_none {sep : Char} {cs : List Char} (h : sep ∉ cs) :
    beforeLast? sep cs = none := by
  induction cs with
  | nil => rfl
  | cons c cs ih =>
    obtain ⟨hc, hcs⟩ := List.ne_and_not_mem_of_not_mem_cons h
    rw [beforeLast?, ih hcs]
    exact if_neg (Ne.symm hc)

/-- The last separator is the one behind which none follows. -/
theorem beforeLast?_append_cons {sep : Char} {front back : List Char} (h : sep ∉ back) :
    beforeLast? sep (front ++ sep :: back) = some front := by
  induction front with
  | nil =>
    rw [List.nil_append, beforeLast?, beforeLast?_eq_none h]
    exact if_pos rfl
  | cons c front ih => rw [List.cons_append, beforeLast?, ih]

/-- A text is cut at its last separator in one way only. -/
theorem eq_of_append_lastSeparator {c : Char} {x x' y y' : String} (hy : c ∉ y.toList)
    (hy' : c ∉ y'.toList)
    (h : x ++ (String.singleton c ++ y) = x' ++ (String.singleton c ++ y')) : x = x' ∧ y = y' := by
  have hcut := congrArg (beforeLast? c) (congrArg String.toList h)
  simp only [String.toList_append, String.toList_singleton, List.singleton_append] at hcut
  rw [beforeLast?_append_cons hy, beforeLast?_append_cons hy'] at hcut
  have hfront : x = x' := String.toList_inj.mp (Option.some.inj hcut)
  rw [hfront, String.append_right_inj, String.append_right_inj] at h
  exact ⟨hfront, h⟩

end Text

/-! ## Identifiers of values -/

/-- An identifier determines the entity, the field and the position of its value. -/
theorem dateId_inj {i j : Int} {f g : String} {m n : Nat} :
    dateId i f m = dateId j g n ↔ i = j ∧ f = g ∧ m = n := by
  refine ⟨fun h => ?_, fun ⟨hi, hf, hm⟩ => hi ▸ hf ▸ hm ▸ rfl⟩
  simp only [dateId, String.append_assoc] at h
  rw [String.append_right_inj] at h
  obtain ⟨hnumber, hrest⟩ := Text.eq_of_append_separator (c := '.')
    (Text.notMem_intText (by decide) (by decide))
    (Text.notMem_intText (by decide) (by decide)) h
  -- The field may contain dots, but the position has none: it stands behind the last.
  obtain ⟨hfield, hdelta⟩ := Text.eq_of_append_lastSeparator (c := '.')
    (Text.notMem_pad (by decide)) (Text.notMem_pad (by decide)) hrest
  exact ⟨Text.intText_injective hnumber, hfield, Text.pad_injective hdelta⟩

/-! ## Keys of fragments and of values -/

namespace Occurrence

variable {o : Occurrence}

theorem slotKey_of_segment_eq_none (h : o.segment = none) :
    o.slotKey = o.dateId ++ "@" ++ Text.intText o.start.seconds := by
  rw [slotKey, baseDateId, h]

/-- Without its position a fragment has the identifier of the occurrence it comes from. -/
theorem baseDateId_fragmentAt (o : Occurrence) (precision : Precision) (several : Bool)
    (date : Date) : (o.fragmentAt precision several date).baseDateId = o.dateId := by
  have hpad : '.' ∉ (Text.pad 0 (o.firstDay.daysUntil date).toNat).toList :=
    Text.notMem_pad (by decide)
  simp only [baseDateId, fragmentAt, String.toList_append]
  rw [List.append_assoc, show (".".toList) = ['.'] from rfl, List.singleton_append,
    Text.beforeLast?_append_cons hpad]
  exact String.ofList_toList

/-- A fragment has the key of the occurrence it comes from. -/
theorem slotKey_fragmentAt (h : o.segment = none) (precision : Precision) (several : Bool)
    (date : Date) : (o.fragmentAt precision several date).slotKey = o.slotKey := by
  rw [slotKey_of_segment_eq_none h, slotKey, baseDateId_fragmentAt]
  rfl

/-- **What a key determines**: the entity, the field and the position of the value, and the
second of the start. -/
theorem slotKey_eq_iff_of_dateId {o' : Occurrence} {i j : Int} {f g : String} {m n : Nat}
    (hsegment : o.segment = none) (hsegment' : o'.segment = none)
    (hid : o.dateId = Almanac.dateId i f m) (hid' : o'.dateId = Almanac.dateId j g n) :
    o.slotKey = o'.slotKey ↔ (i = j ∧ f = g ∧ m = n) ∧ o.start.seconds = o'.start.seconds := by
  rw [slotKey_of_segment_eq_none hsegment, slotKey_of_segment_eq_none hsegment', hid, hid',
    ← dateId_inj]
  refine ⟨fun h => ?_, fun ⟨hvalue, hsecond⟩ => by rw [hvalue, hsecond]⟩
  -- The field may contain an `@`, but the second has none.
  rw [String.append_assoc, String.append_assoc] at h
  obtain ⟨hvalue, hsecond⟩ := Text.eq_of_append_lastSeparator (c := '@')
    (Text.notMem_intText (by decide) (by decide))
    (Text.notMem_intText (by decide) (by decide)) h
  exact ⟨hvalue, Text.intText_injective hsecond⟩

end Occurrence
end Almanac
