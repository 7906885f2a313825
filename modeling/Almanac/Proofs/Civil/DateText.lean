import Almanac.Proofs.Civil.ReadDates
import Mathlib.Data.List.DropRight

/-! # Texts of dates

The reader of dates takes more texts than are written; `Fields.DateText` states them all.  The
month and the day have one digit or two, the year has one to four, or any number of digits behind
a sign, and blanks may stand in front of each of them.  The reader takes the texts of the dates of
the calendar and nothing else (`Date.read?_eq_some_iff`).

Eight digits are a year of four and a month and a day of two (`Fields.CompactText`,
`Date.readCompact?_eq_some_iff`).

A written date, with all digits, is one of its texts (`Fields.dateText_text`).
-/
namespace Almanac

namespace Text

theorem skipBlanks_append {blanks : List Char} (h : ∀ c ∈ blanks, isBlank c = true)
    (cs : List Char) : skipBlanks (blanks ++ cs) = skipBlanks cs :=
  List.dropWhile_append_of_pos h

theorem exists_skipBlanks (cs : List Char) :
    ∃ blanks, (∀ c ∈ blanks, isBlank c = true) ∧ cs = blanks ++ skipBlanks cs :=
  ⟨cs.takeWhile isBlank, fun _ hc => List.mem_takeWhile_imp hc,
    List.takeWhile_append_dropWhile.symm⟩

theorem Writes.ne_nil {k n : Nat} {ds : List Char} (h : Writes k n ds) (hk : 1 ≤ k) : ds ≠ [] :=
  List.ne_nil_of_length_pos (by rw [h.length]; exact hk)

/-- A number is not skipped. -/
theorem Writes.skipBlanks {k n : Nat} {ds : List Char} (h : Writes k n ds) (hk : 1 ≤ k)
    (rest : List Char) : skipBlanks (ds ++ rest) = ds ++ rest := by
  obtain ⟨c, cs, rfl⟩ := List.exists_cons_of_ne_nil (h.ne_nil hk)
  rw [List.cons_append, Text.skipBlanks, List.dropWhile_cons_of_neg]
  rw [isBlank_eq_false_of_isDigit (h.digits c List.mem_cons_self)]
  exact Bool.false_ne_true

/-- Digits begin with a number of every width that they have. -/
theorem exists_writes_append (width : Nat) {cs : List Char} (h : ∀ c ∈ cs, c.isDigit = true)
    (hle : width ≤ cs.length) :
    ∃ n ds rest, cs = ds ++ rest ∧ Writes width n ds ∧ ∀ c ∈ rest, c.isDigit = true :=
  ⟨_, cs.take width, cs.drop width, (List.take_append_drop width cs).symm,
    ⟨List.length_take_of_le hle, fun c hc => h c (List.mem_of_mem_take hc), rfl⟩,
    fun c hc => h c (List.mem_of_mem_drop hc)⟩

/-- A run of digits is a number in front of the text. -/
theorem writes_of_digitRun {width : Nat} {cs ds rest : List Char}
    (h : digitRun width cs = (ds, rest)) :
    Writes ds.length (digitsValue ds) ds ∧ ds.length ≤ width ∧ cs = ds ++ rest := by
  obtain ⟨hlength, hdigits⟩ := digitRun_spec width cs
  have happend := digitRun_fst_append_snd width cs
  rw [h] at hlength hdigits happend
  exact ⟨⟨rfl, hdigits, rfl⟩, hlength, happend.symm⟩

end Text

namespace Fields

open Text (Writes)

/-- A number field: a number of one to `width` digits behind blanks. -/
inductive NumberText (width n : Nat) : List Char → Prop
  | mk {k : Nat} {blanks ds : List Char} (hblanks : ∀ c ∈ blanks, Text.isBlank c = true)
      (hk : 1 ≤ k ∧ k ≤ width) (hds : Writes k n ds) : NumberText width n (blanks ++ ds)

/-- A year field: a number of at most four digits, or one of any length behind a sign. -/
inductive YearText : Int → List Char → Prop
  | plain {n : Nat} {cs : List Char} (h : NumberText 4 n cs) : YearText n cs
  | plus {k n : Nat} {blanks ds : List Char} (hblanks : ∀ c ∈ blanks, Text.isBlank c = true)
      (hk : 1 ≤ k) (hds : Writes k n ds) : YearText n (blanks ++ '+' :: ds)
  | minus {k n : Nat} {blanks ds : List Char} (hblanks : ∀ c ∈ blanks, Text.isBlank c = true)
      (hk : 1 ≤ k) (hds : Writes k n ds) : YearText (-n) (blanks ++ '-' :: ds)

/-- **The texts of a date**: its year, its month and its day with hyphens between. -/
inductive DateText (d : Date) : List Char → Prop
  | mk {ys ms ds : List Char} (hyear : YearText d.year ys) (hmonth : NumberText 2 d.month ms)
      (hday : NumberText 2 d.day ds) : DateText d (ys ++ '-' :: (ms ++ '-' :: ds))

/-- **A text of a date in eight digits.** -/
inductive CompactText (d : Date) : List Char → Prop
  | mk {y : Nat} {ys ms ds : List Char} (hyear : Writes 4 y ys) (hmonth : Writes 2 d.month ms)
      (hday : Writes 2 d.day ds) (hy : d.year = y) : CompactText d (ys ++ (ms ++ ds))

variable {width k n : Nat} {cs ds rest blanks : List Char} {y : Int} {d : Date}

/-- A number without blanks. -/
theorem NumberText.of_writes (hk : 1 ≤ k ∧ k ≤ width) (hds : Writes k n ds) :
    NumberText width n ds :=
  show NumberText width n ([] ++ ds) from .mk (by simp) hk hds

/-- A text of a date has hyphens. -/
theorem DateText.hyphen_mem (h : DateText d cs) : '-' ∈ cs := by
  obtain ⟨hyear, hmonth, hday⟩ := h
  exact List.mem_append_right _ List.mem_cons_self

/-- A number field has only digits and blanks. -/
theorem NumberText.notMem {c : Char} (h : NumberText width n cs) (hblank : Text.isBlank c = false)
    (hdigit : c.isDigit = false) : c ∉ cs := by
  obtain ⟨hblanks, -, hds⟩ := h
  intro hc
  rcases List.mem_append.mp hc with hc | hc
  · exact Bool.false_ne_true (hblank.symm.trans (hblanks c hc))
  · exact Bool.false_ne_true (hdigit.symm.trans (hds.digits c hc))

/-- A year has a sign besides. -/
theorem YearText.notMem {c : Char} (h : YearText y cs) (hblank : Text.isBlank c = false)
    (hdigit : c.isDigit = false) (hsign : c ≠ '+' ∧ c ≠ '-') : c ∉ cs := by
  have hsigned {sign : Char} {k n : Nat} {blanks ds : List Char}
      (hblanks : ∀ c ∈ blanks, Text.isBlank c = true) (hds : Writes k n ds) (hne : c ≠ sign) :
      c ∉ blanks ++ sign :: ds := by
    intro hc
    rcases List.mem_append.mp hc with hc | hc
    · exact Bool.false_ne_true (hblank.symm.trans (hblanks c hc))
    · rcases List.mem_cons.mp hc with rfl | hc
      · exact hne rfl
      · exact Bool.false_ne_true (hdigit.symm.trans (hds.digits c hc))
  cases h with
  | plain h => exact h.notMem hblank hdigit
  | plus hblanks _ hds => exact hsigned hblanks hds hsign.1
  | minus hblanks _ hds => exact hsigned hblanks hds hsign.2

/-- Besides digits, blanks and signs a text of a date has no characters. -/
theorem DateText.notMem {c : Char} (h : DateText d cs) (hblank : Text.isBlank c = false)
    (hdigit : c.isDigit = false) (hsign : c ≠ '+' ∧ c ≠ '-') : c ∉ cs := by
  obtain ⟨hyear, hmonth, hday⟩ := h
  intro hc
  rcases List.mem_append.mp hc with hc | hc
  · exact hyear.notMem hblank hdigit hsign hc
  · rcases List.mem_cons.mp hc with hc | hc
    · exact hsign.2 hc
    · rcases List.mem_append.mp hc with hc | hc
      · exact hmonth.notMem hblank hdigit hc
      · rcases List.mem_cons.mp hc with hc | hc
        · exact hsign.2 hc
        · exact hday.notMem hblank hdigit hc

/-- A text of a date has no colon. -/
theorem DateText.colon_notMem (h : DateText d cs) : ':' ∉ cs :=
  h.notMem (by decide) (by decide) (by decide)

theorem CompactText.length (h : CompactText d cs) : cs.length = 8 := by
  obtain ⟨hyear, hmonth, hday, -⟩ := h
  rw [List.length_append, List.length_append, hyear.length, hmonth.length, hday.length]

theorem CompactText.digits (h : CompactText d cs) : ∀ c ∈ cs, c.isDigit = true := by
  obtain ⟨hyear, hmonth, hday, -⟩ := h
  intro c hc
  rcases List.mem_append.mp hc with hc | hc
  · exact hyear.digits c hc
  · rcases List.mem_append.mp hc with hc | hc
    · exact hmonth.digits c hc
    · exact hday.digits c hc

/-- Text behind a number that does not begin with a digit. -/
theorem isDigit_head_eq_false {c : Char} (h : c.isDigit = false) :
    ∀ d ∈ (c :: rest).head?, d.isDigit = false := by
  rintro d ⟨⟩
  exact h

/-! ## Numbers -/

/-- What is taken of a run of digits, if there are any. -/
theorem run_eq_some_iff {run : List Char × List Char} :
    (match run with
      | ([], _) => none
      | (ds, rest) => some (Text.digitsValue ds, rest)) = some (n, rest) ↔
      ∃ ds, ds ≠ [] ∧ run = (ds, rest) ∧ Text.digitsValue ds = n := by
  obtain ⟨_ | ⟨c, cs⟩, rest'⟩ := run
  · simp
  · constructor
    · rintro ⟨⟩
      exact ⟨c :: cs, List.cons_ne_nil c cs, rfl, rfl⟩
    · rintro ⟨_, -, ⟨⟩, rfl⟩
      rfl

theorem number?_eq_some_iff : number? width cs = some (n, rest) ↔
    ∃ ds, ds ≠ [] ∧ Text.digitRun width (Text.skipBlanks cs) = (ds, rest) ∧
      Text.digitsValue ds = n :=
  run_eq_some_iff

theorem digits?_eq_some_iff : digits? cs = some (n, rest) ↔
    ∃ ds, ds ≠ [] ∧ Text.digitRun cs.length cs = (ds, rest) ∧ Text.digitsValue ds = n :=
  run_eq_some_iff

theorem number?_blanks_append (hblanks : ∀ c ∈ blanks, Text.isBlank c = true) (cs : List Char) :
    number? width (blanks ++ cs) = number? width cs := by
  rw [number?, number?, Text.skipBlanks_append hblanks]

/-- A number field takes the digits of a number. -/
theorem number?_of_writes (hk : 1 ≤ k ∧ k ≤ width) (hds : Writes k n ds)
    (hend : k = width ∨ ∀ c ∈ rest.head?, c.isDigit = false) :
    number? width (ds ++ rest) = some (n, rest) := by
  rw [number?_eq_some_iff, hds.skipBlanks hk.1, hds.digitRun_append hk.2 hend]
  exact ⟨ds, hds.ne_nil hk.1, rfl, hds.value⟩

theorem NumberText.number?_append (h : NumberText width n cs)
    (hend : ∀ c ∈ rest.head?, c.isDigit = false) :
    number? width (cs ++ rest) = some (n, rest) := by
  obtain ⟨hblanks, hk, hds⟩ := h
  rw [List.append_assoc, number?_blanks_append hblanks]
  exact number?_of_writes hk hds (.inr hend)

theorem exists_of_number? (h : number? width cs = some (n, rest)) :
    ∃ field, NumberText width n field ∧ cs = field ++ rest := by
  obtain ⟨ds, hne, hrun, rfl⟩ := number?_eq_some_iff.mp h
  obtain ⟨hds, hle, happend⟩ := Text.writes_of_digitRun hrun
  obtain ⟨blanks, hblanks, hcs⟩ := Text.exists_skipBlanks cs
  refine ⟨blanks ++ ds, .mk hblanks ⟨List.length_pos_of_ne_nil hne, hle⟩ hds, ?_⟩
  rw [List.append_assoc, ← happend, ← hcs]

theorem digits?_append (hk : 1 ≤ k) (hds : Writes k n ds)
    (hend : ∀ c ∈ rest.head?, c.isDigit = false) : digits? (ds ++ rest) = some (n, rest) := by
  have hle : k ≤ (ds ++ rest).length := by
    rw [List.length_append, hds.length]
    exact Nat.le_add_right k _
  rw [digits?_eq_some_iff, hds.digitRun_append hle (.inr hend)]
  exact ⟨ds, hds.ne_nil hk, rfl, hds.value⟩

theorem exists_of_digits? (h : digits? cs = some (n, rest)) :
    ∃ k ds, 1 ≤ k ∧ Writes k n ds ∧ cs = ds ++ rest := by
  obtain ⟨ds, hne, hrun, rfl⟩ := digits?_eq_some_iff.mp h
  obtain ⟨hds, -, happend⟩ := Text.writes_of_digitRun hrun
  exact ⟨_, ds, List.length_pos_of_ne_nil hne, hds, happend⟩

/-! ## Years -/

/-- Blanks in front of a number are skipped once. -/
theorem number?_skipBlanks (width : Nat) (cs : List Char) :
    number? width (Text.skipBlanks cs) = number? width cs := by
  rw [number?, number?, Text.skipBlanks, Text.skipBlanks, List.dropWhile_idempotent]

/-- A number of at most four digits is read as a year. -/
theorem year?_of_number? (h : number? 4 cs = some (n, rest)) :
    year? cs = some ((n : Int), rest) := by
  obtain ⟨ds, hne, hrun, -⟩ := number?_eq_some_iff.mp h
  obtain ⟨hds, -, happend⟩ := Text.writes_of_digitRun hrun
  obtain ⟨c, later, rfl⟩ := List.exists_cons_of_ne_nil hne
  have hc := hds.digits c List.mem_cons_self
  rw [year?]
  -- A number begins with a digit, so there is no sign in front of it.
  split
  · rename_i heq
    rw [happend] at heq
    obtain ⟨rfl, -⟩ := List.cons.inj heq
    exact absurd hc (by decide)
  · rename_i heq
    rw [happend] at heq
    obtain ⟨rfl, -⟩ := List.cons.inj heq
    exact absurd hc (by decide)
  · rw [number?_skipBlanks, h, Option.map_some]

/-- The year field takes every text of a year. -/
theorem YearText.year?_append (h : YearText y cs)
    (hend : ∀ c ∈ rest.head?, c.isDigit = false) : year? (cs ++ rest) = some (y, rest) := by
  cases h with
  | plain h => exact year?_of_number? (h.number?_append hend)
  | @plus k n blanks ds hblanks hk hds =>
    rw [year?, List.append_assoc, Text.skipBlanks_append hblanks]
    show (digits? (ds ++ rest)).map _ = _
    rw [digits?_append hk hds hend, Option.map_some]
  | @minus k n blanks ds hblanks hk hds =>
    rw [year?, List.append_assoc, Text.skipBlanks_append hblanks]
    show (digits? (ds ++ rest)).map _ = _
    rw [digits?_append hk hds hend, Option.map_some]

theorem exists_of_year? (h : year? cs = some (y, rest)) :
    ∃ field, YearText y field ∧ cs = field ++ rest := by
  obtain ⟨blanks, hblanks, hcs⟩ := Text.exists_skipBlanks cs
  rw [year?] at h
  split at h
  · rename_i signed hskip
    obtain ⟨⟨n, _⟩, hread, heq⟩ := Option.map_eq_some_iff.mp h
    obtain ⟨rfl, rfl⟩ := Prod.mk.inj heq
    obtain ⟨k, ds, hk, hds, rfl⟩ := exists_of_digits? hread
    refine ⟨blanks ++ '-' :: ds, .minus hblanks hk hds, ?_⟩
    rw [hcs, hskip, List.append_assoc, List.cons_append]
  · rename_i signed hskip
    obtain ⟨⟨n, _⟩, hread, heq⟩ := Option.map_eq_some_iff.mp h
    obtain ⟨rfl, rfl⟩ := Prod.mk.inj heq
    obtain ⟨k, ds, hk, hds, rfl⟩ := exists_of_digits? hread
    refine ⟨blanks ++ '+' :: ds, .plus hblanks hk hds, ?_⟩
    rw [hcs, hskip, List.append_assoc, List.cons_append]
  · obtain ⟨⟨n, _⟩, hread, heq⟩ := Option.map_eq_some_iff.mp h
    obtain ⟨rfl, rfl⟩ := Prod.mk.inj heq
    rw [number?_skipBlanks] at hread
    obtain ⟨field, hfield, hcs⟩ := exists_of_number? hread
    exact ⟨field, .plain hfield, hcs⟩

/-! ## Dates -/

theorem char?_eq_some_iff {c : Char} : char? c cs = some rest ↔ cs = c :: rest := by
  cases cs with
  | nil => simp [char?]
  | cons d later =>
    rw [char?, List.cons.injEq]
    by_cases hd : d = c
    · rw [if_pos hd, Option.some.injEq, and_iff_right hd]
    · rw [if_neg hd]
      simp [hd]

/-- The date fields take a text of a date of the calendar from the front of a text. -/
theorem DateText.date?_append (h : DateText d cs) (hd : d.inCalendar = true)
    (hend : ∀ c ∈ rest.head?, c.isDigit = false) : date? false (cs ++ rest) = some (d, rest) := by
  obtain ⟨hyear, hmonth, hday⟩ := h
  rename_i ys ms ds
  have hmiddle : number? 2 (ms ++ '-' :: (ds ++ rest)) = some (d.month, '-' :: (ds ++ rest)) :=
    hmonth.number?_append (isDigit_head_eq_false (by decide))
  have hlast : number? 2 (ds ++ rest) = some (d.day, rest) := hday.number?_append hend
  have hdate : Date.ofYMD? d.year d.month d.day = some d :=
    Date.ofYMD?_eq_some.mpr ⟨⟨rfl, rfl, rfl⟩, Date.inCalendar_iff.mp hd⟩
  rw [date?, List.append_assoc, List.cons_append, List.append_assoc, List.cons_append,
    hyear.year?_append (isDigit_head_eq_false (by decide))]
  simp only [separator?, char?, Bool.false_eq_true, if_false, if_true, bind, Option.bind_some,
    hmiddle, hlast, hdate, pure]

/-- **A text of a date names no other date**, also in front of other text. -/
theorem DateText.eq_of_append {e : Date} {cs' rest' : List Char} (h : DateText d cs)
    (h' : DateText e cs') (hend : ∀ c ∈ rest.head?, c.isDigit = false)
    (hend' : ∀ c ∈ rest'.head?, c.isDigit = false) (heq : cs ++ rest = cs' ++ rest') :
    d = e ∧ rest = rest' := by
  obtain ⟨hyear, hmonth, hday⟩ := h
  obtain ⟨hyear', hmonth', hday'⟩ := h'
  simp only [List.append_assoc, List.cons_append] at heq
  -- The fields are read one after the other, each from what the one before it leaves.
  have hread := congrArg year? heq
  rw [hyear.year?_append (isDigit_head_eq_false (by decide)),
    hyear'.year?_append (isDigit_head_eq_false (by decide))] at hread
  obtain ⟨hy, hlater⟩ := Prod.mk.inj (Option.some.inj hread)
  have hread := congrArg (number? 2) (List.cons.inj hlater).2
  rw [hmonth.number?_append (isDigit_head_eq_false (by decide)),
    hmonth'.number?_append (isDigit_head_eq_false (by decide))] at hread
  obtain ⟨hm, hlater⟩ := Prod.mk.inj (Option.some.inj hread)
  have hread := congrArg (number? 2) (List.cons.inj hlater).2
  rw [hday.number?_append hend, hday'.number?_append hend'] at hread
  obtain ⟨hn, hrest⟩ := Prod.mk.inj (Option.some.inj hread)
  refine ⟨?_, hrest⟩
  calc
    d = .ofYMD d.year d.month d.day := d.parts_mem.2.2.symm
    _ = .ofYMD e.year e.month e.day := by rw [hy, hm, hn]
    _ = e := e.parts_mem.2.2

/-- The date fields take the texts of a date of the calendar. -/
theorem date?_eq_some_iff :
    date? false cs = some (d, []) ↔ DateText d cs ∧ d.inCalendar = true := by
  constructor
  · intro h
    have hd := inCalendar_of_date? h
    simp only [date?, separator?, Bool.false_eq_true, if_false, bind, pure,
      Option.bind_eq_some_iff, char?_eq_some_iff, Option.some.injEq, Prod.mk.injEq] at h
    obtain ⟨⟨y, _⟩, hyear, _, rfl, ⟨m, _⟩, hmonth, _, rfl, ⟨n, _⟩, hday, _, hdate, rfl, rfl⟩ := h
    obtain ⟨⟨rfl, rfl, rfl⟩, -⟩ := Date.ofYMD?_eq_some.mp hdate
    obtain ⟨ys, hys, rfl⟩ := exists_of_year? hyear
    obtain ⟨ms, hms, rfl⟩ := exists_of_number? hmonth
    obtain ⟨ds, hds, rfl⟩ := exists_of_number? hday
    rw [List.append_nil]
    exact ⟨.mk hys hms hds, hd⟩
  · rintro ⟨h, hd⟩
    rw [← cs.append_nil]
    exact h.date?_append hd (by simp)

/-- Eight digits are a year, a month and a day. -/
theorem compactDate?_append {m : Nat} {ys ms ns : List Char} {year : Nat} (hyear : Writes 4 year ys)
    (hmonth : Writes 2 m ms) (hday : Writes 2 n ns) :
    compactDate? (ys ++ (ms ++ ns)) = (Date.ofYMD? year m n).map fun d => (d, []) := by
  have hfirst : number? 4 (ys ++ (ms ++ ns)) = some (year, ms ++ ns) :=
    number?_of_writes (by decide) hyear (.inl rfl)
  have hmiddle : number? 2 (ms ++ ns) = some (m, ns) :=
    number?_of_writes (by decide) hmonth (.inl rfl)
  have hlast : number? 2 (ns ++ []) = some (n, []) :=
    number?_of_writes (by decide) hday (.inl rfl)
  rw [List.append_nil] at hlast
  rw [compactDate?, year?_of_number? hfirst]
  simp only [bind, Option.bind_some, hmiddle, hlast, pure]
  cases Date.ofYMD? year m n <;> rfl

end Fields

namespace Date

open Fields (CompactText DateText)
open Text (Writes)

variable {s : String} {d : Date}

/-- **What is read as a date.** -/
theorem read?_eq_some_iff : read? s = some d ↔ DateText d s.toList ∧ d.inCalendar = true := by
  rw [← Fields.date?_eq_some_iff]
  constructor
  · exact Fields.eq_some_of_whole?
  · intro h
    rw [read?, Fields.whole?, h]

/-- **What is read as a date in eight digits.** -/
theorem readCompact?_eq_some_iff (hlength : s.toList.length = 8)
    (hdigits : ∀ c ∈ s.toList, c.isDigit = true) :
    readCompact? s = some d ↔ CompactText d s.toList ∧ d.inCalendar = true := by
  constructor
  · intro h
    obtain ⟨y, ys, later, hs, hyear, hlater⟩ :=
      Text.exists_writes_append 4 hdigits (by omega)
    have hlength' : later.length = 4 := by
      rw [hs, List.length_append, hyear.length] at hlength
      omega
    obtain ⟨m, ms, ns, rfl, hmonth, hns⟩ :=
      Text.exists_writes_append 2 hlater (by omega)
    have hday : Writes 2 (Text.digitsValue ns) ns := by
      rw [List.length_append, hmonth.length] at hlength'
      exact ⟨by omega, hns, rfl⟩
    have hread := Fields.eq_some_of_whole? h
    rw [hs, Fields.compactDate?_append hyear hmonth hday, Option.map_eq_some_iff] at hread
    obtain ⟨_, hdate, heq⟩ := hread
    rw [(Prod.mk.inj heq).1, ofYMD?_eq_some, ← inCalendar_iff] at hdate
    obtain ⟨⟨hy, rfl, hn⟩, hin⟩ := hdate
    rw [← hn] at hday
    exact ⟨hs ▸ .mk hyear hmonth hday hy, hin⟩
  · rintro ⟨hcompact, hin⟩
    generalize hs : s.toList = cs at hcompact
    obtain ⟨hyear, hmonth, hday, hy⟩ := hcompact
    rw [readCompact?, Fields.whole?, hs, Fields.compactDate?_append hyear hmonth hday,
      ofYMD?_eq_some.mpr ⟨⟨hy, rfl, rfl⟩, inCalendar_iff.mp hin⟩]
    rfl

end Date

/-! ## Written dates -/

namespace Text

theorem length_padChars {width n : Nat} (h : (natChars n).length ≤ width) :
    (padChars width n).length = width := by
  rw [padChars, List.length_append, List.length_replicate]
  omega

theorem length_padChars_two {n : Nat} (h : n < 100) : (padChars 2 n).length = 2 := by
  rw [padChars_two h]
  rfl

theorem length_padChars_four {n : Nat} (h : n ≤ 9999) : (padChars 4 n).length = 4 :=
  length_padChars ((Nat.length_toDigits_le_iff (by decide) (by decide)).mpr (by omega))

theorem writes_padChars {width k n : Nat} (h : (padChars width n).length = k) :
    Writes k n (padChars width n) :=
  ⟨h, fun _ hc => isDigit_of_mem_padChars hc, digitsValue_padChars width n⟩

end Text

namespace Fields

open Text (Writes)

theorem numberText_padChars {width n : Nat} (hwidth : 0 < width)
    (hlength : (Text.padChars width n).length = width) :
    NumberText width n (Text.padChars width n) :=
  .of_writes ⟨hwidth, le_rfl⟩ (Text.writes_padChars hlength)

/-- A written year is the text of the year. -/
theorem yearText_yearText (y : Int) : YearText y (Text.yearText y).toList := by
  have hpos : 1 ≤ (Text.padChars 4 y.natAbs).length := by
    rw [Text.padChars, List.length_append]
    exact Nat.le_add_left_of_le Nat.length_toDigits_pos
  have hdigits : Writes _ y.natAbs (Text.padChars 4 y.natAbs) := Text.writes_padChars rfl
  rw [Text.yearText]
  split
  · rename_i hplain
    have hnumber : NumberText 4 y.natAbs (Text.padChars 4 y.natAbs) :=
      numberText_padChars (by decide) (Text.length_padChars_four (by omega))
    have hyear := YearText.plain hnumber
    rwa [Int.natAbs_of_nonneg hplain.1, ← String.toList_ofList (l := Text.padChars 4 _)] at hyear
  · rename_i hsigned
    rw [String.toList_append, Text.pad, String.toList_ofList]
    by_cases hneg : y < 0
    · rw [if_pos hneg]
      have hyear : YearText (-(y.natAbs : Int)) ([] ++ '-' :: Text.padChars 4 y.natAbs) :=
        .minus (by simp) hpos hdigits
      rwa [show -(y.natAbs : Int) = y by omega] at hyear
    · rw [if_neg hneg]
      have hyear : YearText (y.natAbs : Int) ([] ++ '+' :: Text.padChars 4 y.natAbs) :=
        .plus (by simp) hpos hdigits
      rwa [show (y.natAbs : Int) = y by omega] at hyear

end Fields

theorem Date.toList_text (d : Date) :
    d.text.toList = (Text.yearText d.year).toList ++
      '-' :: (Text.padChars 2 d.month ++ '-' :: Text.padChars 2 d.day) := by
  simp only [text, Text.pad, String.toList_append, String.toList_ofList, List.append_assoc]
  rfl

/-- A written date is a text of the date. -/
theorem Fields.dateText_text (d : Date) : DateText d d.text.toList := by
  obtain ⟨⟨hone, htwelve⟩, ⟨hday, hdays⟩, -⟩ := d.parts_mem
  have hle := daysInMonth_le d.year htwelve
  rw [Date.toList_text]
  exact .mk (yearText_yearText d.year)
    (numberText_padChars (by decide) (Text.length_padChars_two (by omega)))
    (numberText_padChars (by decide) (Text.length_padChars_two (by omega)))

end Almanac
