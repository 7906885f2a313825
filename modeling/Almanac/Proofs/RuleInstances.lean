import Almanac.Proofs.Period
import Almanac.Proofs.Sorted
import Almanac.Recurrence.Instances

/-! # The instances of a rule set

Every instance that a rule set lists lies in the window it is asked for, and is placed by one
of its rules or written among its extra instants (`RuleSet.mem_between`).  For the rules this is
an invariant of the walk through the periods: one more instant is found only in the window
(`Walk.mem_step`), so a period adds only what the rule places in it (`Walk.mem_addPeriod`), and a
whole run finds nothing else (`Walk.mem_run`).

Times of rules count whole seconds, and so do the extra instants that are read from a text; so
all instances of a text are whole seconds (`RuleSet.nanos_of_mem_between`).
-/
namespace Almanac

/-- What is made of a list is made of its elements. -/
theorem exists_of_mem_mapM {ε α β : Type} {f : α → Except ε β} {xs : List α} {ys : List β}
    (h : xs.mapM f = .ok ys) {y : β} (hy : y ∈ ys) : ∃ x ∈ xs, f x = .ok y := by
  induction xs generalizing ys with
  | nil =>
    obtain rfl : [] = ys := Except.ok.inj h
    exact absurd hy List.not_mem_nil
  | cons x xs ih =>
    rw [List.mapM_cons] at h
    obtain ⟨z, hz, h⟩ := Range.bind_eq_ok h
    obtain ⟨zs, hzs, h⟩ := Range.bind_eq_ok h
    obtain rfl := Except.ok.inj h
    rcases List.mem_cons.mp hy with rfl | hy
    · exact ⟨x, List.mem_cons_self, hz⟩
    · obtain ⟨x', hx', hf⟩ := ih hzs hy
      exact ⟨x', List.mem_cons_of_mem x hx', hf⟩

/-! ## One rule -/

/-- Whether a rule places an instant in one of its periods. -/
def Rule.Offers (r : Rule) (zone : Zone) (t : Instant) : Prop :=
  ∃ c, ClockPlace.placed t ∈ r.places c zone

/-- Whether an instant lies in a window. -/
def Window.Holds (window : Window) (t : Instant) : Prop :=
  window.since ≤ t ∧ t ≤ window.upTo

theorem Rule.mem_of_accept {r : Rule} {start : Instant} {left left' : Option Nat}
    {places : List ClockPlace} {ts : List Instant}
    (h : r.accept start left places = .ok (ts, left')) {t : Instant} (ht : t ∈ ts) :
    .placed t ∈ places := by
  fun_induction accept r start left places generalizing ts left' with
  | case1 | case2 =>
    obtain ⟨rfl, -⟩ := Prod.mk.inj (Except.ok.inj h)
    exact absurd ht List.not_mem_nil
  | case3 => cases h
  | case4 left rest _ ih => exact List.mem_cons_of_mem _ (ih h ht)
  | case5 =>
    obtain ⟨rfl, -⟩ := Prod.mk.inj (Except.ok.inj h)
    exact absurd ht List.not_mem_nil
  | case6 left rest _ t' _ _ ih => exact List.mem_cons_of_mem _ (ih h ht)
  | case7 left rest _ t' _ _ ih =>
    cases hrest : accept r start (left.map (· - 1)) rest with
    | error fault =>
      rw [hrest] at h
      cases h
    | ok found =>
      rw [hrest] at h
      obtain ⟨rfl, -⟩ := Prod.mk.inj (Except.ok.inj h)
      rcases List.mem_cons.mp ht with rfl | ht
      · exact List.mem_cons_self
      · exact List.mem_cons_of_mem _ (ih hrest ht)

namespace Walk

variable {r : Rule} {zone : Zone} {start : Instant} {window : Window} {lastDay : Date}
  {w w' : Walk} {t u : Instant}

/-- One more instant is found only in the window. -/
theorem mem_step (ht : t ∈ (step window w u).found) : t ∈ w.found ∨ t = u ∧ window.Holds t := by
  unfold step at ht
  by_cases hpass : (w.closed || u ∈ window.excluded || u < window.since && u ≤ window.upTo) = true
  · rw [if_pos hpass] at ht
    exact .inl ht
  · rw [if_neg hpass] at ht
    by_cases hlate : window.upTo < u
    · rw [if_pos hlate] at ht
      exact .inl ht
    · rw [if_neg hlate] at ht
      rcases List.mem_cons.mp ht with rfl | ht
      · have hle := not_lt.mp hlate
        refine .inr ⟨rfl, ?_, hle⟩
        by_contra hearly
        refine hpass (Bool.or_eq_true_iff.mpr (.inr (Bool.and_eq_true_iff.mpr ?_)))
        exact ⟨decide_eq_true (not_le.mp hearly), decide_eq_true hle⟩
      · exact .inl ht

/-- A period adds instants of it that lie in the window. -/
theorem mem_addPeriod {instances : List Instant} {left : Option Nat}
    (ht : t ∈ (w.addPeriod window instances left).found) :
    t ∈ w.found ∨ t ∈ instances ∧ window.Holds t := by
  have hfold : ∀ (us : List Instant) (v : Walk), t ∈ (us.foldl (step window) v).found →
      t ∈ v.found ∨ t ∈ us ∧ window.Holds t := by
    intro us
    induction us with
    | nil => exact fun v hv => .inl hv
    | cons u us ih =>
      intro v hv
      rcases ih _ hv with hfound | ⟨hlater, hin⟩
      · rcases mem_step hfound with hbefore | ⟨rfl, hin⟩
        · exact .inl hbefore
        · exact .inr ⟨List.mem_cons_self, hin⟩
      · exact .inr ⟨List.mem_cons_of_mem u hlater, hin⟩
  exact hfold instances
    { w with left := left, idle := if instances = [] then w.idle + 1 else 0 } ht

/-- **A walk finds only instants of the window that the rule places**, beside those it begins
with. -/
theorem mem_run {periods : Nat} {c : Cursor}
    (h : run r zone start window lastDay periods c w = .ok w') (ht : t ∈ w'.found) :
    t ∈ w.found ∨ window.Holds t ∧ r.Offers zone t := by
  induction periods generalizing c w with
  | zero =>
    obtain rfl := Except.ok.inj h
    exact .inl ht
  | succ periods ih =>
    unfold run at h
    split at h
    · obtain rfl := Except.ok.inj h
      exact .inl ht
    · obtain ⟨⟨instances, left⟩, haccept, h⟩ := Range.bind_eq_ok h
      dsimp only at h
      -- What this period adds is placed in it.
      have hperiod : t ∈ (w.addPeriod window instances left).found →
          t ∈ w.found ∨ window.Holds t ∧ r.Offers zone t := by
        intro hfound
        rcases mem_addPeriod hfound with hbefore | ⟨hnew, hin⟩
        · exact .inl hbefore
        · exact .inr ⟨hin, c, Rule.mem_of_accept haccept hnew⟩
      split at h
      · obtain rfl := Except.ok.inj h
        exact hperiod ht
      · rcases ih h with hfound | hlater
        · exact hperiod hfound
        · exact .inr hlater

end Walk

theorem Rule.mem_between {r : Rule} {zone : Zone} {start t : Instant} {window : Window}
    {ts : List Instant} (h : r.between zone start window = .ok ts) (ht : t ∈ ts) :
    window.Holds t ∧ r.Offers zone t := by
  unfold between at h
  split at h
  · obtain rfl := Except.ok.inj h
    exact absurd ht List.not_mem_nil
  · dsimp only at h
    generalize hrun : Walk.run r zone start window (window.lastDay zone) _ _ _ = ran at h
    cases ran with
    | error fault => cases h
    | ok w =>
      obtain rfl := Except.ok.inj h
      rcases Walk.mem_run hrun (List.mem_reverse.mp ht) with hnone | hfound
      · exact absurd hnone List.not_mem_nil
      · exact hfound

/-! ## A set of rules -/

namespace RuleSet

variable {s : RuleSet} {since upTo t : Instant} {limit : Nat} {ts : List Instant}

theorem mem_foldl_merge {lists : List (List Instant)} {ts : List Instant}
    (ht : t ∈ lists.foldl merge ts) : t ∈ ts ∨ ∃ us ∈ lists, t ∈ us := by
  induction lists generalizing ts with
  | nil => exact .inl ht
  | cons us lists ih =>
    rcases ih ht with hmerged | ⟨vs, hvs, hin⟩
    · rw [merge, List.mem_merge] at hmerged
      rcases hmerged with hnew | hold
      · exact .inr ⟨us, List.mem_cons_self, hnew⟩
      · exact .inl hold
    · exact .inr ⟨vs, List.mem_cons_of_mem us hvs, hin⟩

/-- **What a rule set lists** lies in the window, and a rule places it or it is written as an
extra instant. -/
theorem mem_between (h : s.between since upTo limit = .ok ts) (ht : t ∈ ts) :
    (since ≤ t ∧ t ≤ upTo) ∧ (t ∈ s.extra ∨ ∃ r ∈ s.rules, r.Offers s.zone t) := by
  obtain ⟨lists, hlists, h⟩ := Range.bind_eq_ok h
  obtain rfl := Except.ok.inj h
  have hmerged := List.mem_of_mem_take ht
  rw [merge, List.mem_merge] at hmerged
  rcases hmerged with hextra | hrules
  · obtain ⟨hmem, hin⟩ := List.mem_filter.mp hextra
    obtain ⟨hin, -⟩ := Bool.and_eq_true_iff.mp hin
    obtain ⟨hsince, hupTo⟩ := Bool.and_eq_true_iff.mp hin
    exact ⟨⟨of_decide_eq_true hsince, of_decide_eq_true hupTo⟩,
      .inl ((List.mergeSort_perm _ _).mem_iff.mp hmem)⟩
  · rcases mem_foldl_merge hrules with hnone | ⟨us, hus, hin⟩
    · exact absurd hnone List.not_mem_nil
    · obtain ⟨r, hr, hbetween⟩ := exists_of_mem_mapM hlists hus
      obtain ⟨hholds, hoffers⟩ := Rule.mem_between hbetween hin
      exact ⟨hholds, .inr ⟨r, hr, hoffers⟩⟩

end RuleSet

/-! ## Whole seconds -/

variable {t : Instant} {zone : Zone}

theorem Instant.nanos_addSeconds (h : t.nanos = 0) (n : Int) : (t.addSeconds n).nanos = 0 := by
  have hpart : ((nanosPerSecond : Int) * n).tmod nanosPerSecond = 0 := Int.mul_tmod_right _ _
  have hwhole : t.inLeapSecond = false := by
    rw [inLeapSecond, h]
    rfl
  rw [addSeconds, addNanos, hpart, hwhole, h]
  rfl

theorem Zone.nanos_of_single? {w : WallTime} (h : zone.single? w = some t) :
    t.nanos = w.nanos := by
  unfold single? at h
  split at h
  · split at h
    · rw [← Option.some.inj h]
    · cases h
  · cases h

theorem Zone.nanos_of_place {d : Date} {time : TimeOfDay} (htime : time.nanos = 0)
    (h : zone.place d time = .placed t) : t.nanos = 0 := by
  unfold place at h
  split at h
  · rename_i hsingle
    rw [← ClockPlace.placed.inj h, nanos_of_single? hsingle]
    exact htime
  · split at h
    · cases h
    · split at h
      · rename_i hmidnight
        rw [← ClockPlace.placed.inj h]
        exact Instant.nanos_addSeconds (nanos_of_single? hmidnight) _
      · cases h

theorem Rule.nanos_of_mem_times {r : Rule} {c : Cursor} {time : TimeOfDay}
    (h : time ∈ r.times c) : time.nanos = 0 := by
  simp only [times, List.mem_flatMap, List.mem_map] at h
  obtain ⟨_, -, _, -, _, -, rfl⟩ := h
  rfl

theorem mem_of_atPosition? {α : Type} {xs : List α} {position : Int} {x : α}
    (h : atPosition? xs position = some x) : x ∈ xs := by
  unfold atPosition? at h
  split at h
  · exact List.mem_of_getElem? h
  · split at h
    · cases h
    · exact List.mem_of_getElem? h

/-- A place of a rule is that of one of its pairs of a day and a time. -/
theorem Rule.exists_of_mem_places {r : Rule} {c : Cursor}
    (h : ClockPlace.placed t ∈ r.places c zone) :
    ∃ pair ∈ r.pairs c, zone.place pair.1 pair.2 = .placed t := by
  unfold places at h
  dsimp only at h
  split at h
  · exact List.mem_map.mp h
  · split at h
    · rename_i skipped hfound
      obtain rfl := List.mem_singleton.mp h
      cases List.find?_some hfound
    · obtain ⟨u, hu, heq⟩ := List.mem_map.mp h
      obtain rfl := ClockPlace.placed.inj heq
      rw [inOrder, Sorted.mem_eraseReps, List.mem_mergeSort] at hu
      obtain ⟨chosen, hchosen, hinstant⟩ := List.mem_filterMap.mp hu
      obtain ⟨pair, hpair, rfl⟩ := List.mem_map.mp hchosen
      obtain ⟨position, -, hposition⟩ := List.mem_filterMap.mp hpair
      refine ⟨pair, mem_of_atPosition? hposition, ?_⟩
      cases hplace : zone.place pair.1 pair.2 with
      | placed v =>
        rw [hplace] at hinstant
        rw [Option.some.inj hinstant]
      | missing | skipped _ =>
        rw [hplace] at hinstant
        cases hinstant

/-- **Rules count whole seconds.** -/
theorem Rule.nanos_of_offers {r : Rule} (h : r.Offers zone t) : t.nanos = 0 := by
  obtain ⟨c, hplaced⟩ := h
  obtain ⟨⟨d, time⟩, hpair, hplace⟩ := exists_of_mem_places hplaced
  obtain ⟨_, -, hmem⟩ := List.mem_flatMap.mp hpair
  obtain ⟨time', htime, heq⟩ := List.mem_map.mp hmem
  obtain ⟨-, rfl⟩ := Prod.mk.inj heq
  exact Zone.nanos_of_place (nanos_of_mem_times htime) hplace

theorem RuleText.nanos_of_stamp? {cs : List Char} {w : WallTime} {universal : Bool}
    (h : stamp? cs = some (w, universal)) : w.nanos = 0 := by
  simp only [stamp?, bind, pure, Option.bind_eq_some_iff] at h
  obtain ⟨_, -, _, -, _, -, date, -, h⟩ := h
  split at h
  · rw [← (Prod.mk.inj (Option.some.inj h)).1]
    rfl
  · simp only [Option.bind_eq_some_iff] at h
    obtain ⟨_, -, _, -, _, -, h⟩ := h
    split at h
    · cases h
    · split at h
      · rw [← (Prod.mk.inj (Option.some.inj h)).1]
        rfl
      · rw [← (Prod.mk.inj (Option.some.inj h)).1]
        rfl
      · cases h
  · cases h

theorem RuleText.nanos_of_instant {cs : List Char} (h : instant zone cs = .ok t) :
    t.nanos = 0 := by
  unfold instant at h
  split at h
  · cases h
  · rename_i hstamp
    rw [← Except.ok.inj h]
    exact nanos_of_stamp? hstamp
  · rename_i hstamp
    split at h
    · rename_i hsingle
      rw [← Except.ok.inj h, Zone.nanos_of_single? hsingle]
      exact nanos_of_stamp? hstamp
    · cases h

theorem RuleLine.nanos_of_instants {zones : Zones} {l : RuleLine} {ts : List Instant}
    (h : l.instants zones = .ok ts) (ht : t ∈ ts) : t.nanos = 0 := by
  obtain ⟨zone, -, h⟩ := Range.bind_eq_ok h
  obtain ⟨cs, -, hcs⟩ := exists_of_mem_mapM h ht
  exact RuleText.nanos_of_instant hcs

/-- The extra instants of a line that is read. -/
theorem RuleLine.nanos_of_content {zones : Zones} {l : RuleLine} {ts : List Instant}
    (h : l.content zones = .ok (.extra ts)) (ht : t ∈ ts) : t.nanos = 0 := by
  unfold content at h
  split at h
  · obtain ⟨r, -, h⟩ := Range.bind_eq_ok h
    cases h
  · obtain ⟨r, -, h⟩ := Range.bind_eq_ok h
    cases h
  · obtain ⟨us, hus, h⟩ := Range.bind_eq_ok h
    cases h
    exact nanos_of_instants hus ht
  · obtain ⟨us, -, h⟩ := Range.bind_eq_ok h
    cases h
  · cases h

namespace RuleSet

/-- The extra instants of a set with what a line says. -/
theorem mem_extra_add {start : WallTime} {s s' : RuleSet} {content : LineContent}
    (h : s.add start content = .ok s') (ht : t ∈ s'.extra) :
    t ∈ s.extra ∨ ∃ ts, content = .extra ts ∧ t ∈ ts := by
  unfold add at h
  split at h
  · obtain ⟨_, -, h⟩ := Range.bind_eq_ok h
    obtain rfl := Except.ok.inj h
    exact .inl ht
  · obtain rfl := Except.ok.inj h
    rcases List.mem_append.mp ht with hold | hnew
    · exact .inl hold
    · exact .inr ⟨_, rfl, hnew⟩
  · obtain rfl := Except.ok.inj h
    exact .inl ht
  · obtain rfl := Except.ok.inj h
    exact .inl ht

theorem mem_extra_foldlM {start : WallTime} {contents : List LineContent} {s s' : RuleSet}
    (h : contents.foldlM (add start) s = .ok s') (ht : t ∈ s'.extra) :
    t ∈ s.extra ∨ ∃ ts, .extra ts ∈ contents ∧ t ∈ ts := by
  induction contents generalizing s with
  | nil =>
    obtain rfl := Except.ok.inj h
    exact .inl ht
  | cons content contents ih =>
    rw [List.foldlM_cons] at h
    obtain ⟨next, hnext, h⟩ := Range.bind_eq_ok h
    rcases ih h with hadded | ⟨ts, hts, hin⟩
    · rcases mem_extra_add hnext hadded with hold | ⟨ts, rfl, hin⟩
      · exact .inl hold
      · exact .inr ⟨ts, List.mem_cons_self, hin⟩
    · exact .inr ⟨ts, List.mem_cons_of_mem content hts, hin⟩

theorem nanos_of_mem_extra {zones : Zones} {start : Instant} {text : String} {s : RuleSet}
    (h : read zones zone start text = .ok s) (ht : t ∈ s.extra) : t.nanos = 0 := by
  unfold read at h
  dsimp only at h
  split at h
  · cases h
  · split at h
    · obtain ⟨lines, -, h⟩ := Range.bind_eq_ok h
      obtain ⟨contents, hcontents, h⟩ := Range.bind_eq_ok h
      rcases mem_extra_foldlM h ht with hnone | ⟨ts, hts, hin⟩
      · exact absurd hnone List.not_mem_nil
      · obtain ⟨l, -, hl⟩ := exists_of_mem_mapM hcontents hts
        exact RuleLine.nanos_of_content hl hin
    · cases h

/-- **The instances of a text** lie in the window and are whole seconds. -/
theorem mem_between_of_read {zones : Zones} {start since upTo : Instant} {text : String}
    {s : RuleSet} {limit : Nat} {ts : List Instant} (hread : read zones zone start text = .ok s)
    (h : s.between since upTo limit = .ok ts) (ht : t ∈ ts) :
    (since ≤ t ∧ t ≤ upTo) ∧ t.nanos = 0 := by
  obtain ⟨hin, hextra | ⟨r, -, hoffers⟩⟩ := mem_between h ht
  · exact ⟨hin, nanos_of_mem_extra hread hextra⟩
  · exact ⟨hin, Rule.nanos_of_offers hoffers⟩

end RuleSet
end Almanac
