import Almanac.Proofs.Period
import Almanac.Proofs.StoredBounds
import Almanac.Proofs.TimestampText

/-! # What stored texts mean

A stored text has one of several forms, and they are tried one after another.  No form takes the
text of a later one: a run of digits has no separators, a timestamp has an offset behind its time of
day, a wall-clock time has a time of day behind its date.  So each text means what it was written
for (`storedInstant?_forms`): a timestamp and a number of seconds an instant, whatever the zones
and the bound, a reading of the storage zone the first instant at which its clocks show it, and a
date the first instant at which the clocks of the display zone show its first or its last second.

All dates are far from the bounds of the calendar, so finding these instants never leaves it.
-/
namespace Almanac

/-! ## Texts with blanks inside -/

namespace Text

/-- A text that begins and ends with characters that are no blanks is not trimmed. -/
theorem trim_eq_self_of_ends {s : String} {front middle back : List Char}
    (hs : s.toList = front ++ (middle ++ back))
    (hfront : front ≠ [] ∧ ∀ c ∈ front, isBlank c = false)
    (hback : back ≠ [] ∧ ∀ c ∈ back, isBlank c = false) : trim s = s := by
  have hkeep {cs : List Char} (hcs : cs ≠ [] ∧ ∀ c ∈ cs, isBlank c = false) (rest : List Char) :
      skipBlanks (cs ++ rest) = cs ++ rest := by
    obtain ⟨c, later, rfl⟩ := List.exists_cons_of_ne_nil hcs.1
    rw [List.cons_append, skipBlanks, List.dropWhile_cons_of_neg]
    rw [hcs.2 c List.mem_cons_self]
    exact Bool.false_ne_true
  have hreverse : back.reverse ≠ [] ∧ ∀ c ∈ back.reverse, isBlank c = false :=
    ⟨mt List.reverse_eq_nil_iff.mp hback.1, fun c hc => hback.2 c (List.mem_reverse.mp hc)⟩
  rw [trim, trimChars, hs, hkeep hfront, List.reverse_append, List.reverse_append,
    List.append_assoc, hkeep hreverse, ← List.append_assoc, ← List.reverse_append,
    ← List.reverse_append, List.reverse_reverse, ← hs, String.ofList_toList]

end Text

namespace WallTime

theorem hyphen_mem_clockChars (w : WallTime) (sep : Char) : '-' ∈ w.clockChars sep :=
  List.mem_append_left _ (Fields.dateText_text w.date).hyphen_mem

/-- A written reading is not trimmed, nor is what begins with one and has no blanks behind it. -/
theorem trim_clockChars {w : WallTime} {sep : Char} {s : String} {rest : List Char}
    (hs : s.toList = w.clockChars sep ++ rest) (hrest : ∀ c ∈ rest, Text.isBlank c = false) :
    Text.trim s = s := by
  have hsplit : s.toList = w.date.text.toList ++ ([sep] ++ (w.time.clockText.toList ++ rest)) := by
    rw [hs, clockChars, List.append_assoc, List.cons_append, List.singleton_append]
  refine Text.trim_eq_self_of_ends hsplit
    ⟨List.ne_nil_of_mem (Fields.dateText_text w.date).hyphen_mem,
      fun c hc => Date.isBlank_eq_false_of_mem_text hc⟩
    ⟨List.append_ne_nil_of_left_ne_nil w.time.clockText_ne_nil rest, fun c hc => ?_⟩
  rcases List.mem_append.mp hc with hc | hc
  · exact TimeOfDay.isBlank_eq_false_of_mem_clockText hc
  · exact hrest c hc

end WallTime

namespace Instant

variable {t : Instant} {s : String} {cs : List Char}

theorem TimestampText.hyphen_mem (h : TimestampText t cs) : '-' ∈ cs := by
  obtain ⟨-, -, -, -⟩ := h
  exact List.mem_append_left _ (WallTime.hyphen_mem_clockChars _ _)

theorem TimestampText.trim_eq_self (h : TimestampText t s.toList) : Text.trim s = s := by
  generalize hs : s.toList = cs at h
  obtain ⟨-, -, hfraction, hoffset⟩ := h
  refine WallTime.trim_clockChars hs fun c hc => ?_
  rcases List.mem_append.mp hc with hc | hc
  · exact hfraction.isBlank_eq_false hc
  · exact hoffset.isBlank_eq_false hc

end Instant

/-! ## The first instant of a reading -/

namespace Zone

variable {z : Zone} {w : WallTime} {t u : Instant}

/-- Whether an instant is the first at which the clocks of a zone show a reading. -/
def FirstShows (z : Zone) (w : WallTime) (u : Instant) : Prop :=
  z.wall u = w ∧ ∀ s, z.wall s = w → u ≤ s

/-- A reading with an earliest instant is looked up within the calendar. -/
theorem canResolve_of_earliest? (h : z.earliest? w = some t) : z.canResolve w = true := by
  rw [canResolve, List.all_eq_true]
  intro k _
  rw [Bool.or_eq_true]
  refine .inl (List.any_eq_true.mpr ⟨0, List.mem_range.mpr k.succ_pos, ?_⟩)
  rw [probe_zero, h]
  rfl

/-- **A reading that the clocks show** is resolved to the first instant at which they do. -/
theorem firstShows_resolve (hz : z.Regular) (ht : z.wall t = w)
    (hy : 0 ≤ w.date.year ∧ w.date.year ≤ 9999) :
    z.FirstShows w (z.resolve w) ∧ z.canResolve w = true := by
  have hmargin := Date.margin_of_year hy
  have hfirst : Instant.firstSecond = 86400 * Date.first.dayNumber := WallTime.seconds_dayStart _
  have hclock : z.clock t.seconds = w.seconds := by rw [← seconds_wall, ht]
  rw [WallTime.dayNumber_date] at hmargin
  obtain ⟨u, hu⟩ := exists_earliest? hz hclock (by rw [lastSecond_eq]; omega)
  obtain ⟨hshown, -, hleast⟩ := (earliest?_eq_some hz).mp hu
  rw [resolve_of_earliest? hu]
  refine ⟨⟨hshown, fun s hs => ?_⟩, canResolve_of_earliest? hu⟩
  have hle := hleast s.seconds (by rw [← seconds_wall, hs])
  have hnanos : u.nanos = s.nanos := by rw [← nanos_wall z u, ← nanos_wall z s, hshown, hs]
  rw [Instant.le_def]
  omega

end Zone

/-! ## Forms -/

namespace StorageForm

open Text (Writes)

variable {t : Instant} {w : WallTime} {sep : Char} {s : String}

/-- **A timestamp is taken for its instant.** -/
theorem ofTrimmed?_of_timestampText (h : Instant.TimestampText t s.toList) (ht : t.nanos = 0) :
    ofTrimmed? s = some (.absolute t) := by
  rw [ofTrimmed?, if_neg (not_digits_of_hyphen h.hyphen_mem), Instant.read?_timestampText h ht]

/-- **Digits are taken for a number of seconds**, unless there are eight. -/
theorem ofTrimmed?_of_writes {k : Nat} (h : Writes k t.seconds.toNat s.toList) (hk : k ≠ 8)
    (hpos : 0 ≤ t.seconds) (ht : t.nanos = 0) (hin : t.inCalendar = true) :
    ofTrimmed? s = some (.absolute t) := by
  have hwhole : (⟨t.seconds, 0⟩ : Instant) = t := by rw [← ht]
  have hlast : Instant.lastSecond ≤ maxSeconds := by decide
  have hbounds := (Instant.inCalendar_iff.mp hin).2
  have hvalue : ((Text.digitsValue s.toList : Nat) : Int) = t.seconds := by
    rw [h.value]
    omega
  rw [ofTrimmed?, if_pos ⟨List.all_eq_true.mpr h.digits, h.length ▸ hk⟩, ofDigits?,
    if_pos (by omega), hvalue, Instant.ofUnix?, hwhole, if_pos hin]
  rfl

/-- **A written reading is taken for the reading.** -/
theorem ofTrimmed?_of_clockChars (h : s.toList = w.clockChars sep) (hsep : sep = 'T' ∨ sep = ' ')
    (hy : 0 ≤ w.date.year ∧ w.date.year ≤ 9999) (hw : w.nanos = 0) :
    ofTrimmed? s = some (.wallTime w) := by
  have hd := Date.inCalendar_of_year hy
  have hhyphen : '-' ∈ s.toList := h ▸ w.hyphen_mem_clockChars sep
  have hinstant : Instant.read? s = none :=
    Instant.read?_clockChars h (hsep.imp_right .inr) hy
  have hread := WallTime.read?_clockChars h hsep hd hw
  rw [ofTrimmed?, if_neg (not_digits_of_hyphen hhyphen), hinstant]
  rcases hsep with rfl | rfl
  · rw [hread]
    rfl
  · rw [WallTime.read?_T_clockChars h hd, hread]
    rfl

end StorageForm

/-! ## Meanings -/

section
variable {bound : Bound} {storage display : Zone} {s : String} {t : Instant}

/-- Whether a text means an instant: it is read as the instant, also in blanks, and the calendar is
not left to find it. -/
def Means (bound : Bound) (storage display : Zone) (s : String) (t : Instant) : Prop :=
  ∀ text, Text.trim text = Text.trim s →
    storedFits bound storage display text = true ∧
      storedInstant? bound storage display text = some t

/-- A text that is taken for a form means the instant of the form. -/
theorem means_of_ofTrimmed? {form : StorageForm} (hform : StorageForm.ofTrimmed? s = some form)
    (htrim : Text.trim s = s) (hne : s.toList ≠ [])
    (hfits : form.fits bound storage display = true) :
    Means bound storage display s (form.instant bound storage display) := by
  intro text htext
  have hne' : s ≠ "" := by
    rintro rfl
    exact hne rfl
  have hread : StorageForm.read? text = some form := by
    rw [StorageForm.read?, htext, htrim, if_neg hne', hform]
  rw [storedFits, storedInstant?, hread]
  exact ⟨hfits, rfl⟩

/-- **The texts of an instant in decimal seconds** since 1970, in any number of digits but eight. -/
inductive Instant.UnixText (t : Instant) : List Char → Prop
  | mk {k : Nat} {ds : List Char} (hpos : 0 ≤ t.seconds) (hk : 1 ≤ k ∧ k ≠ 8)
      (hds : Text.Writes k t.seconds.toNat ds) : UnixText t ds

/-- **The texts of a reading**, cut to whole seconds and with four digits in the year. -/
inductive WallTime.ClockText (w : WallTime) : List Char → Prop
  | mk {sep : Char} (hyear : 0 ≤ w.date.year ∧ w.date.year ≤ 9999) (hsep : sep = 'T' ∨ sep = ' ') :
      ClockText w (w.clockChars sep)

/-- **The texts of a date** with four digits in the year: with hyphens or in eight digits, and
without blanks around them. -/
structure Date.StoredText (d : Date) (s : String) : Prop where
  year : 0 ≤ d.year ∧ d.year ≤ 9999
  trimmed : Text.trim s = s
  text : Fields.DateText d s.toList ∨ Fields.CompactText d s.toList

theorem means_of_timestampText (h : Instant.TimestampText t s.toList) (ht : t.nanos = 0) :
    Means bound storage display s t :=
  means_of_ofTrimmed? (StorageForm.ofTrimmed?_of_timestampText h ht) h.trim_eq_self
    (List.ne_nil_of_mem h.hyphen_mem) rfl

theorem means_of_unixText (h : t.UnixText s.toList) (ht : t.nanos = 0)
    (hin : t.inCalendar = true) : Means bound storage display s t := by
  generalize hs : s.toList = cs at h
  obtain ⟨hpos, hk, hds⟩ := h
  subst hs
  exact means_of_ofTrimmed? (StorageForm.ofTrimmed?_of_writes hds hk.2 hpos ht hin)
    (Text.trim_eq_self fun c hc => Text.isBlank_eq_false_of_isDigit (hds.digits c hc))
    (hds.ne_nil hk.1) rfl

/-- A reading that the storage clocks show means the first instant at which they do. -/
theorem exists_means_of_clockText (hstorage : storage.Regular) (ht : t.nanos = 0)
    (h : (storage.wall t).ClockText s.toList) :
    ∃ u, storage.FirstShows (storage.wall t) u ∧ Means bound storage display s u := by
  generalize hs : s.toList = cs at h
  obtain ⟨hyear, hsep⟩ := h
  obtain ⟨hfirst, hfits⟩ := Zone.firstShows_resolve hstorage rfl hyear
  have hw : (storage.wall t).nanos = 0 := by rw [Zone.nanos_wall, ht]
  have htrim : Text.trim s = s :=
    WallTime.trim_clockChars (hs.trans (List.append_nil _).symm)
      fun c hc => absurd hc List.not_mem_nil
  have hne : s.toList ≠ [] := List.ne_nil_of_mem (hs ▸ WallTime.hyphen_mem_clockChars _ _)
  exact ⟨_, hfirst,
    means_of_ofTrimmed? (StorageForm.ofTrimmed?_of_clockChars hs hsep hyear hw) htrim hne hfits⟩

/-- A date whose bound the display clocks show means the first instant at which they do. -/
theorem exists_means_of_storedText {d : Date} (hdisplay : display.Regular) (h : d.StoredText s)
    (hshown : ∃ t, display.wall t = StorageForm.dayBound bound d) :
    ∃ u, display.FirstShows (StorageForm.dayBound bound d) u ∧
      Means bound storage display s u := by
  have hd := Date.inCalendar_of_year h.year
  have hdate : (StorageForm.dayBound bound d).date = d := by
    cases bound with
    | start => exact WallTime.date_dayStart d
    | finish => exact WallTime.date_dayEnd d
  obtain ⟨t, ht⟩ := hshown
  obtain ⟨hfirst, hfits⟩ := Zone.firstShows_resolve hdisplay ht (hdate.symm ▸ h.year)
  refine ⟨_, hfirst, ?_⟩
  rcases h.text with htext | htext
  · exact means_of_ofTrimmed? (StorageForm.ofTrimmed?_of_dateText htext hd) h.trimmed
      (List.ne_nil_of_mem htext.hyphen_mem) hfits
  · exact means_of_ofTrimmed? (StorageForm.ofTrimmed?_of_compactText htext hd) h.trimmed
      (List.ne_nil_of_length_pos (htext.length ▸ by decide)) hfits

end

/-- **What stored texts mean.**  A timestamp of an instant, with any offset, and its decimal seconds
mean the instant.  What the storage clocks show at an instant means the first instant at which they
show it.  All three do so for all zones and bounds.  A date whose bound the display clocks show
means the first instant at which they show it, for all storage zones. -/
theorem storedInstant?_forms {storage display : Zone} (hstorage : storage.Regular)
    (hdisplay : display.Regular) (bound : Bound) :
    (∀ (t : Instant) (s : String), t.nanos = 0 → t.TimestampText s.toList →
        Means bound storage display s t) ∧
      (∀ (t : Instant) (s : String), t.nanos = 0 → t.inCalendar = true →
        t.UnixText s.toList → Means bound storage display s t) ∧
      (∀ (t : Instant) (s : String), t.nanos = 0 → (storage.wall t).ClockText s.toList →
        ∃ u, storage.FirstShows (storage.wall t) u ∧ Means bound storage display s u) ∧
      ∀ (d : Date) (s : String), d.StoredText s →
        (∃ t, display.wall t = StorageForm.dayBound bound d) →
          ∃ u, display.FirstShows (StorageForm.dayBound bound d) u ∧
            Means bound storage display s u :=
  ⟨fun _ _ ht h => means_of_timestampText h ht, fun _ _ ht hin h => means_of_unixText h ht hin,
    fun _ _ ht h => exists_means_of_clockText hstorage ht h,
    fun _ _ h hshown => exists_means_of_storedText hdisplay h hshown⟩

/-- In New York the clocks show half past one twice on November 3, 2024; this is the second time. -/
theorem storedInstant?_forms_november :
    ((Zone.newYork.Regular ∧ Zone.newYork.Regular) ∧
        (⟨1730615400, 0⟩ : Instant).TimestampText "2024-11-03T01:30:00-05:00".toList ∧
        (⟨1730615400, 0⟩ : Instant).UnixText "1730615400".toList ∧
        (Zone.newYork.wall ⟨1730615400, 0⟩).ClockText "2024-11-03 01:30:00".toList ∧
        (⟨20030⟩ : Date).StoredText "20241103" ∧
        Zone.newYork.wall ⟨1730696399, 0⟩ = StorageForm.dayBound .finish ⟨20030⟩) ∧
      Means .finish .newYork .newYork "2024-11-03T01:30:00-05:00" ⟨1730615400, 0⟩ ∧
      Means .finish .newYork .newYork "1730615400" ⟨1730615400, 0⟩ ∧
      (∃ u, Zone.newYork.FirstShows (Zone.newYork.wall ⟨1730615400, 0⟩) u ∧
        Means .finish .newYork .newYork "2024-11-03 01:30:00" u) ∧
      ∃ u, Zone.newYork.FirstShows (StorageForm.dayBound .finish ⟨20030⟩) u ∧
        Means .finish .newYork .newYork "20241103" u := by
  have hz : Zone.newYork.Regular := by decide +kernel
  have hstamp : (⟨1730615400, 0⟩ : Instant).TimestampText
      "2024-11-03T01:30:00-05:00".toList := by
    have htext : "2024-11-03T01:30:00-05:00".toList =
        ((⟨1730615400, 0⟩ : Instant).utc.shift
            (-(3600 * (5 : Nat) + 60 * (0 : Nat)))).clockChars 'T' ++
          ([] ++ '-' :: (['0', '5'] ++ ':' :: ['0', '0'])) := by decide +kernel
    rw [htext]
    exact .mk (by decide) (.inl rfl) .none
      (.behind ⟨rfl, List.all_eq_true.mp rfl, rfl⟩ ⟨rfl, List.all_eq_true.mp rfl, rfl⟩
        (by decide))
  have hunix : (⟨1730615400, 0⟩ : Instant).UnixText "1730615400".toList :=
    .mk (by decide) (by decide : 1 ≤ 10 ∧ 10 ≠ 8)
      ⟨rfl, List.all_eq_true.mp (by decide +kernel), by decide +kernel⟩
  have hclock : (Zone.newYork.wall ⟨1730615400, 0⟩).ClockText "2024-11-03 01:30:00".toList := by
    have htext : "2024-11-03 01:30:00".toList =
        (Zone.newYork.wall ⟨1730615400, 0⟩).clockChars ' ' := by decide +kernel
    rw [htext]
    exact .mk (by decide +kernel) (.inr rfl)
  have hdate : (⟨20030⟩ : Date).StoredText "20241103" := by
    have hcompact : Fields.CompactText ⟨20030⟩
        (['2', '0', '2', '4'] ++ (['1', '1'] ++ ['0', '3'])) :=
      .mk ⟨rfl, List.all_eq_true.mp rfl, rfl⟩
        ⟨rfl, List.all_eq_true.mp rfl, by decide +kernel⟩
        ⟨rfl, List.all_eq_true.mp rfl, by decide +kernel⟩ (by decide +kernel)
    exact ⟨by decide +kernel, by decide +kernel, .inr hcompact⟩
  have hbound : Zone.newYork.wall ⟨1730696399, 0⟩ = StorageForm.dayBound .finish ⟨20030⟩ := by
    decide +kernel
  obtain ⟨hstamps, hseconds, hclocks, hdates⟩ := storedInstant?_forms hz hz .finish
  exact ⟨⟨⟨hz, hz⟩, hstamp, hunix, hclock, hdate, hbound⟩, hstamps _ _ rfl hstamp,
    hseconds _ _ rfl (by decide) hunix, hclocks _ _ rfl hclock, hdates _ _ hdate ⟨_, hbound⟩⟩

end Almanac
