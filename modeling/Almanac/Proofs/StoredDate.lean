import Almanac.Proofs.Civil.DateText
import Almanac.Record.StorageValue

/-! # Dates as stored text

The forms of stored values are tried one after another, and no form before those of dates takes a
text of a date.  A text with hyphens is no run of digits, it is no timestamp because it has no
colon, and it ends where a wall-clock time has a time of day (`StorageForm.ofTrimmed?_of_dateText`).
A text of eight digits is taken for no number of seconds, and it has no hyphens
(`StorageForm.ofTrimmed?_of_compactText`).

A date is written as its year, its month and its day with hyphens between, so the reader of
stored values takes that text for the date (`StorageForm.read?_text`).
-/
namespace Almanac

/-! ## Timestamps and wall-clock times -/

namespace Fields

open Text (Writes)

variable {width n : Nat} {cs rest : List Char} {d : Date}

/-- A field of exactly as many digits as a number has takes the number. -/
theorem exactly?_of_writes (h : Writes width n cs) :
    exactly? width (cs ++ rest) = some (n, rest) := by
  rw [exactly?, h.digitRun_append le_rfl (.inl rfl)]
  dsimp only
  rw [if_pos h.length, h.value]

theorem exists_of_exactly? (h : exactly? width cs = some (n, rest)) :
    ∃ ds, Writes width n ds ∧ cs = ds ++ rest := by
  unfold exactly? at h
  cases hrun : Text.digitRun width cs with
  | mk ds later =>
    rw [hrun] at h
    dsimp only at h
    split at h
    · rename_i hlength
      obtain ⟨rfl, rfl⟩ := Prod.mk.inj (Option.some.inj h)
      obtain ⟨hds, -, happend⟩ := Text.writes_of_digitRun hrun
      exact ⟨ds, hlength ▸ hds, happend⟩
    · cases h

/-- What is read as a date has a hyphen. -/
theorem hyphen_mem_of_date? (h : date? false cs = some (d, rest)) : '-' ∈ cs := by
  obtain ⟨⟨y, _⟩, hyear, h⟩ := Option.bind_eq_some_iff.mp h
  obtain ⟨_, hhyphen, -⟩ := Option.bind_eq_some_iff.mp h
  obtain rfl := char?_eq_some_iff.mp hhyphen
  obtain ⟨ys, -, rfl⟩ := exists_of_year? hyear
  exact List.mem_append_right _ List.mem_cons_self

end Fields

/-- What is read as a timestamp has hyphens and colons. -/
theorem Instant.mem_of_timestamp? {cs rest : List Char} {t : Instant}
    (h : timestamp? cs = some (t, rest)) : '-' ∈ cs ∧ ':' ∈ cs := by
  obtain ⟨⟨y, _⟩, hyear, h⟩ := Option.bind_eq_some_iff.mp h
  obtain ⟨_, hhyphen, h⟩ := Option.bind_eq_some_iff.mp h
  obtain ⟨⟨month, _⟩, hmonth, h⟩ := Option.bind_eq_some_iff.mp h
  obtain ⟨_, hlater, h⟩ := Option.bind_eq_some_iff.mp h
  obtain ⟨⟨day, later⟩, hday, h⟩ := Option.bind_eq_some_iff.mp h
  obtain ⟨_, hseparator, h⟩ := Option.bind_eq_some_iff.mp h
  obtain ⟨⟨hour, _⟩, hhour, h⟩ := Option.bind_eq_some_iff.mp h
  obtain ⟨_, hcolon, -⟩ := Option.bind_eq_some_iff.mp h
  obtain rfl := Fields.char?_eq_some_iff.mp hhyphen
  obtain rfl := Fields.char?_eq_some_iff.mp hlater
  obtain rfl := Fields.char?_eq_some_iff.mp hcolon
  obtain ⟨ys, -, rfl⟩ := Fields.exists_of_exactly? hyear
  obtain ⟨ms, -, rfl⟩ := Fields.exists_of_exactly? hmonth
  obtain ⟨ds, -, rfl⟩ := Fields.exists_of_exactly? hday
  obtain ⟨hs, -, rfl⟩ := Fields.exists_of_exactly? hhour
  cases later with
  | nil => cases hseparator
  | cons c later =>
    rw [dateTimeSeparator?] at hseparator
    split at hseparator
    · obtain rfl := Option.some.inj hseparator
      simp
    · cases hseparator

/-- A text whose date fields take everything, or nothing, is no wall-clock time. -/
theorem WallTime.read?_eq_none {sep : Char} {s : String}
    (h : ∀ d rest, Fields.date? false s.toList = some (d, rest) → rest = []) :
    WallTime.read? sep s = none := by
  rw [WallTime.read?, Fields.whole?]
  cases hdate : Fields.date? false s.toList with
  | none => rfl
  | some found =>
    obtain ⟨d, rest⟩ := found
    obtain rfl := h d rest hdate
    by_cases hsep : Text.isBlank sep = true
    · simp only [bind, Option.bind_some, hsep, if_true]
      rfl
    · simp only [bind, Option.bind_some, hsep]
      rfl

/-! ## Texts of dates -/

namespace StorageForm

open Fields (CompactText DateText)

variable {s : String} {d : Date}

/-- A text with a hyphen is no run of digits. -/
theorem not_digits_of_hyphen (h : '-' ∈ s.toList) :
    ¬(s.toList.all Char.isDigit = true ∧ s.toList.length ≠ 8) := by
  rintro ⟨hall, -⟩
  exact absurd (List.all_eq_true.mp hall '-' h) (by decide)

/-- **A text of a date is taken for the date.** -/
theorem ofTrimmed?_of_dateText (h : DateText d s.toList) (hd : d.inCalendar = true) :
    ofTrimmed? s = some (.date d) := by
  have hinstant : Instant.read? s = none :=
    Option.eq_none_iff_forall_ne_some.mpr fun t ht =>
      h.colon_notMem (Instant.mem_of_timestamp? (Fields.eq_some_of_whole? ht)).2
  have hwall (sep : Char) : WallTime.read? sep s = none := by
    refine WallTime.read?_eq_none fun d' rest hread => ?_
    rw [Fields.date?_eq_some_iff.mpr ⟨h, hd⟩] at hread
    exact (Prod.mk.inj (Option.some.inj hread)).2.symm
  rw [ofTrimmed?, if_neg (not_digits_of_hyphen h.hyphen_mem), hinstant, hwall, hwall,
    Date.read?_eq_some_iff.mpr ⟨h, hd⟩]
  rfl

/-- **Eight digits are taken for a date.** -/
theorem ofTrimmed?_of_compactText (h : CompactText d s.toList) (hd : d.inCalendar = true) :
    ofTrimmed? s = some (.date d) := by
  have hhyphen : '-' ∉ s.toList := fun hmem => absurd (h.digits '-' hmem) (by decide)
  have hdate : ∀ d' rest, Fields.date? false s.toList ≠ some (d', rest) :=
    fun d' rest hread => hhyphen (Fields.hyphen_mem_of_date? hread)
  have hinstant : Instant.read? s = none :=
    Option.eq_none_iff_forall_ne_some.mpr fun t ht =>
      hhyphen (Instant.mem_of_timestamp? (Fields.eq_some_of_whole? ht)).1
  have hwall (sep : Char) : WallTime.read? sep s = none :=
    WallTime.read?_eq_none fun d' rest hread => absurd hread (hdate d' rest)
  have hplain : Date.read? s = none :=
    Option.eq_none_iff_forall_ne_some.mpr fun d' hd' =>
      hdate d' [] (Fields.eq_some_of_whole? hd')
  rw [ofTrimmed?, if_neg fun hrun => hrun.2 h.length, hinstant, hwall, hwall, hplain,
    (Date.readCompact?_eq_some_iff h.length h.digits).mpr ⟨h, hd⟩]
  rfl

end StorageForm

theorem Date.isBlank_eq_false_of_mem_text {d : Date} {c : Char} (h : c ∈ d.text.toList) :
    Text.isBlank c = false := by
  have hnumber : ∀ width n, c ∈ Text.padChars width n → Text.isBlank c = false :=
    fun width n hc => Text.isBlank_eq_false_of_isDigit (Text.isDigit_of_mem_padChars hc)
  rw [toList_text, List.mem_append, List.mem_cons, List.mem_append, List.mem_cons] at h
  rcases h with hyear | rfl | hmonth | rfl | hday
  · rw [Text.yearText] at hyear
    split at hyear
    · rw [Text.pad, String.toList_ofList] at hyear
      exact hnumber _ _ hyear
    · rw [String.toList_append, List.mem_append, Text.pad, String.toList_ofList] at hyear
      rcases hyear with hsign | hdigits
      · split at hsign
        · obtain rfl := List.mem_singleton.mp hsign
          decide
        · obtain rfl := List.mem_singleton.mp hsign
          decide
      · exact hnumber _ _ hdigits
  · decide
  · exact hnumber _ _ hmonth
  · decide
  · exact hnumber _ _ hday

/-- **A written date is read as the date.** -/
theorem StorageForm.read?_text {d : Date} (hd : d.inCalendar = true) :
    read? d.text = some (.date d) := by
  have htrim : Text.trim d.text = d.text :=
    Text.trim_eq_self fun c hc => Date.isBlank_eq_false_of_mem_text hc
  have hne : d.text ≠ "" := by
    intro hempty
    have hhyphen := (Fields.dateText_text d).hyphen_mem
    rw [hempty] at hhyphen
    exact absurd hhyphen List.not_mem_nil
  rw [read?, htrim, if_neg hne, ofTrimmed?_of_dateText (Fields.dateText_text d) hd]

end Almanac
