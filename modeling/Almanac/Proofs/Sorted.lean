import Mathlib.Data.List.Nodup
import Mathlib.Data.List.Perm.Basic
import Mathlib.Order.Lattice

/-! # Sorted lists without repetitions

Days and labels are put in order and then each is kept once.  `List.eraseReps` keeps the
first of equal neighbors, so it loses no element, and a list in order has each element
once afterwards (`nodup_eraseReps`).  Sorting a list into classes by a key keeps its
elements (`flatMap_filter_perm`), and their order too if the keys are in order
(`flatMap_filter_eq_self`).  So a list in the order of its keys is determined by the items of
each key, and leaving items out before or after a stable sort is the same
(`filter_mergeSort`).
-/
namespace Almanac
namespace Sorted

variable {α : Type}

section
variable [DecidableEq α]

theorem loop_eq (a : α) (l acc : List α) :
    List.eraseRepsBy.loop (· == ·) a l acc =
      acc.reverse ++ List.eraseRepsBy.loop (· == ·) a l [] := by
  induction l generalizing a acc with
  | nil => simp [List.eraseRepsBy.loop]
  | cons b l ih =>
    by_cases h : (a == b) = true
    · simp only [List.eraseRepsBy.loop, h]
      exact ih a acc
    · rw [Bool.not_eq_true] at h
      simp only [List.eraseRepsBy.loop, h]
      rw [ih b (a :: acc), ih b [a], List.reverse_cons, List.append_assoc]
      rfl

theorem eraseReps_cons_cons (a b : α) (l : List α) :
    (a :: b :: l).eraseReps =
      if a = b then (b :: l).eraseReps else a :: (b :: l).eraseReps := by
  by_cases h : a = b
  · subst h
    rw [if_pos rfl]
    simp [List.eraseReps, List.eraseRepsBy, List.eraseRepsBy.loop]
  · have hbeq : (a == b) = false := beq_false_of_ne h
    rw [if_neg h]
    simp only [List.eraseReps, List.eraseRepsBy, List.eraseRepsBy.loop, hbeq]
    rw [loop_eq b l [a]]
    rfl

theorem eraseReps_sublist (l : List α) : l.eraseReps.Sublist l := by
  induction l with
  | nil => exact .slnil
  | cons a l ih =>
    cases l with
    | nil => exact .refl _
    | cons b l =>
      rw [eraseReps_cons_cons]
      split
      · exact ih.cons a
      · exact ih.cons_cons a

theorem mem_eraseReps {a : α} {l : List α} : a ∈ l.eraseReps ↔ a ∈ l := by
  induction l with
  | nil => rfl
  | cons b l ih =>
    cases l with
    | nil => rfl
    | cons c l =>
      rw [eraseReps_cons_cons]
      split
      · rename_i h
        rw [ih, h]
        simp
      · rw [List.mem_cons, ih, List.mem_cons (b := b)]

/-- A list in order has each element once after repetitions are erased. -/
theorem nodup_eraseReps {r : α → α → Prop} [Std.Antisymm r] {l : List α} (h : l.Pairwise r) :
    l.eraseReps.Nodup := by
  induction l with
  | nil => exact List.nodup_nil
  | cons a l ih =>
    obtain ⟨ha, hl⟩ := List.pairwise_cons.mp h
    cases l with
    | nil => exact List.pairwise_singleton _ a
    | cons b l =>
      rw [eraseReps_cons_cons]
      split
      · exact ih hl
      · rename_i hne
        refine List.nodup_cons.mpr ⟨fun hmem => ?_, ih hl⟩
        -- `a` comes before `b`, so it does not come again behind it.
        rcases List.mem_cons.mp (mem_eraseReps.mp hmem) with heq | hmem
        · exact hne heq
        · exact hne (Std.Antisymm.antisymm a b (ha b List.mem_cons_self)
            ((List.pairwise_cons.mp hl).1 a hmem))

/-- A list in order is strictly in order after repetitions are erased. -/
theorem pairwise_eraseReps {r : α → α → Prop} [Std.Antisymm r] {l : List α}
    (h : l.Pairwise r) : l.eraseReps.Pairwise fun a b => r a b ∧ a ≠ b :=
  (h.sublist (eraseReps_sublist l)).and (nodup_eraseReps h)

end

/-! ## Classes -/

section
variable {κ : Type} [DecidableEq κ]

/-- The classes of other keys are those of the items without a key. -/
theorem flatMap_filter_others {key : α → κ} {k : κ}
    {keys : List κ} (hk : k ∉ keys) {items : List α} :
    (keys.flatMap fun k' => items.filter fun a => key a = k') =
      keys.flatMap fun k' => (items.filter fun a => !decide (key a = k)).filter
        fun a => key a = k' := by
  refine List.flatMap_congr fun k' hk' => ?_
  rw [List.filter_filter]
  refine List.filter_congr fun a _ => ?_
  by_cases ha : key a = k'
  · have hne : k' ≠ k := fun heq => hk (heq ▸ hk')
    simp [ha, hne]
  · simp [ha]

/-- Items sorted into classes by a key, one class for each key. -/
theorem flatMap_filter_perm (key : α → κ) {keys : List κ}
    (hkeys : keys.Nodup) {items : List α} (hitems : ∀ a ∈ items, key a ∈ keys) :
    (keys.flatMap fun k => items.filter fun a => key a = k).Perm items := by
  induction keys generalizing items with
  | nil =>
    have hnone : items = [] :=
      List.eq_nil_iff_forall_not_mem.mpr fun a ha => absurd (hitems a ha) List.not_mem_nil
    rw [hnone]
    exact .nil
  | cons k keys ih =>
    obtain ⟨hk, hkeys⟩ := List.nodup_cons.mp hkeys
    rw [List.flatMap_cons, flatMap_filter_others hk]
    refine List.Perm.trans (List.Perm.append_left _ (ih hkeys fun a ha => ?_))
      (List.filter_append_perm _ _)
    obtain ⟨hmem, hne⟩ := List.mem_filter.mp ha
    exact (List.mem_cons.mp (hitems a hmem)).resolve_left (by simpa using hne)

end

section
variable {κ : Type} [LinearOrder κ]

/-- A list whose keys are in order begins with the items of the least key. -/
theorem filter_append_filter_of_sorted {key : α → κ} {k : κ}
    {items : List α} (hsorted : (items.map key).Pairwise (· ≤ ·))
    (hleast : ∀ a ∈ items, k ≤ key a) :
    (items.filter fun a => key a = k) ++ (items.filter fun a => !decide (key a = k)) = items := by
  induction items with
  | nil => rfl
  | cons a items ih =>
    obtain ⟨ha, hitems⟩ := List.pairwise_cons.mp hsorted
    by_cases hkey : key a = k
    · have hrest := ih hitems fun b hb => hleast b (List.mem_cons_of_mem _ hb)
      rw [List.filter_cons_of_pos (by simpa using hkey),
        List.filter_cons_of_neg (by simpa using hkey), List.cons_append, hrest]
    · -- All later keys are above the least one too.
      have hlt : k < key a := lt_of_le_of_ne (hleast a List.mem_cons_self) (Ne.symm hkey)
      have hne : ∀ b ∈ a :: items, key b ≠ k := by
        intro b hb
        rcases List.mem_cons.mp hb with rfl | hb
        · exact hkey
        · exact (hlt.trans_le (ha _ (List.mem_map_of_mem hb))).ne'
      rw [List.filter_eq_nil_iff.mpr (by simpa using hne), List.nil_append,
        List.filter_eq_self.mpr (by simpa using hne)]

/-- **Sorting into classes is stable**: items whose keys are in order stay as they are. -/
theorem flatMap_filter_eq_self {key : α → κ} {keys : List κ}
    (hkeys : keys.Pairwise (· < ·)) {items : List α} (hitems : ∀ a ∈ items, key a ∈ keys)
    (hsorted : (items.map key).Pairwise (· ≤ ·)) :
    (keys.flatMap fun k => items.filter fun a => key a = k) = items := by
  induction keys generalizing items with
  | nil =>
    have hnone : items = [] :=
      List.eq_nil_iff_forall_not_mem.mpr fun a ha => absurd (hitems a ha) List.not_mem_nil
    rw [hnone]
    rfl
  | cons k keys ih =>
    obtain ⟨hk, hkeys⟩ := List.pairwise_cons.mp hkeys
    have hleast : ∀ a ∈ items, k ≤ key a := by
      intro a ha
      rcases List.mem_cons.mp (hitems a ha) with heq | hmem
      · exact heq.ge
      · exact (hk _ hmem).le
    have hothers : ∀ a ∈ items.filter fun a => !decide (key a = k), key a ∈ keys := by
      intro a ha
      obtain ⟨hmem, hne⟩ := List.mem_filter.mp ha
      exact (List.mem_cons.mp (hitems a hmem)).resolve_left (by simpa using hne)
    have hrest := ih hkeys hothers (hsorted.sublist (List.filter_sublist.map _))
    rw [List.flatMap_cons, flatMap_filter_others fun hmem => (hk k hmem).false, hrest]
    exact filter_append_filter_of_sorted hsorted hleast

end

/-! ## Sorting by a key -/

section
variable {κ : Type} [LinearOrder κ]

/-- Items in the order of their keys are determined by the items of each key. -/
theorem eq_of_filter_key_eq (key : α → κ) {l l' : List α}
    (hl : (l.map key).Pairwise (· ≤ ·)) (hl' : (l'.map key).Pairwise (· ≤ ·))
    (h : ∀ k, (l.filter fun a => key a = k) = l'.filter fun a => key a = k) : l = l' := by
  have hkeys : (l.map key).eraseReps.Pairwise (· < ·) :=
    (pairwise_eraseReps hl).imp fun hlt => lt_of_le_of_ne hlt.1 hlt.2
  have hmem : ∀ a ∈ l', key a ∈ (l.map key).eraseReps := by
    intro a ha
    have hclass : a ∈ l'.filter fun b => key b = key a :=
      List.mem_filter.mpr ⟨ha, decide_eq_true rfl⟩
    rw [← h] at hclass
    exact mem_eraseReps.mpr (List.mem_map_of_mem (List.mem_filter.mp hclass).1)
  calc l = (l.map key).eraseReps.flatMap fun k => l.filter fun a => key a = k :=
        (flatMap_filter_eq_self hkeys
          (fun a ha => mem_eraseReps.mpr (List.mem_map_of_mem ha)) hl).symm
    _ = (l.map key).eraseReps.flatMap fun k => l'.filter fun a => key a = k := by simp only [h]
    _ = l' := flatMap_filter_eq_self hkeys hmem hl'

theorem key_le_trans (key : α → κ) (a b c : α) (hab : decide (key a ≤ key b))
    (hbc : decide (key b ≤ key c)) : decide (key a ≤ key c) :=
  decide_eq_true ((of_decide_eq_true hab).trans (of_decide_eq_true hbc))

theorem key_le_total (key : α → κ) (a b : α) :
    decide (key a ≤ key b) || decide (key b ≤ key a) := by
  simpa using le_total (key a) (key b)

theorem pairwise_mergeSort_key (key : α → κ) (l : List α) :
    (l.mergeSort fun a b => key a ≤ key b).Pairwise fun a b => key a ≤ key b :=
  (List.pairwise_mergeSort (key_le_trans key) (key_le_total key) l).imp of_decide_eq_true

/-- The sort is stable: it leaves the items of one key as they are. -/
theorem filter_key_mergeSort (key : α → κ) (l : List α) (k : κ) :
    ((l.mergeSort fun a b => key a ≤ key b).filter fun a => key a = k) =
      l.filter fun a => key a = k := by
  have hkey : ∀ a ∈ l.filter (fun a => key a = k), key a = k := fun a ha =>
    of_decide_eq_true (List.mem_filter.mp ha).2
  have hsame : (l.filter fun a => key a = k).Pairwise fun a b => decide (key a ≤ key b) :=
    List.pairwise_of_forall_mem_list fun a ha b hb =>
      decide_eq_true ((hkey a ha).trans (hkey b hb).symm).le
  have hsub := List.sublist_mergeSort (key_le_trans key) (key_le_total key) hsame
    List.filter_sublist
  have hclass := hsub.filter fun a => key a = k
  rw [List.filter_eq_self.mpr fun a ha => decide_eq_true (hkey a ha)] at hclass
  exact (hclass.eq_of_length ((List.mergeSort_perm l _).filter _).length_eq.symm).symm

/-- **Leaving items out commutes with a stable sort.** -/
theorem filter_mergeSort (key : α → κ) (p : α → Bool) (l : List α) :
    (l.mergeSort fun a b => key a ≤ key b).filter p =
      (l.filter p).mergeSort fun a b => key a ≤ key b := by
  refine eq_of_filter_key_eq key
    (List.pairwise_map.mpr ((pairwise_mergeSort_key key l).sublist List.filter_sublist))
    (List.pairwise_map.mpr (pairwise_mergeSort_key key _)) fun k => ?_
  rw [filter_key_mergeSort, List.filter_comm, filter_key_mergeSort, List.filter_comm]

end

/-- Lists whose keys are strictly in order are equal if they have the same elements. -/
theorem eq_of_pairwise_key_lt {α κ : Type} [LinearOrder κ] (key : α → κ) {l l' : List α}
    (hl : l.Pairwise fun a b => key a < key b) (hl' : l'.Pairwise fun a b => key a < key b)
    (h : ∀ a, a ∈ l ↔ a ∈ l') : l = l' := by
  have hne : ∀ a b, key a < key b → a ≠ b := fun a b hlt heq => hlt.ne (congrArg key heq)
  have hperm : l.Perm l' :=
    (List.perm_ext_iff_of_nodup (hl.imp (hne _ _)) (hl'.imp (hne _ _))).mpr h
  exact hperm.eq_of_pairwise (fun a b _ _ hab hba => absurd hba hab.not_gt) hl hl'

/-- Lists that are strictly in order are equal if they have the same elements. -/
theorem eq_of_pairwise_lt {α : Type} [LinearOrder α] {l l' : List α} (hl : l.Pairwise (· < ·))
    (hl' : l'.Pairwise (· < ·)) (h : ∀ a, a ∈ l ↔ a ∈ l') : l = l' :=
  eq_of_pairwise_key_lt id hl hl' h

end Sorted
end Almanac
