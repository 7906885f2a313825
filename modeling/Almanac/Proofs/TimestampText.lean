import Almanac.Proofs.Civil.TimeText
import Almanac.Proofs.RangeOfArgument
import Almanac.Proofs.StoredDate

/-! # Texts of timestamps

A reading of a clock is written as its date and its time of day with a character between
(`WallTime.clockChars`).  With a `T` or a blank between it is read as the reading
(`WallTime.read?_clockChars`), and with an offset behind it as an instant: the one at which a clock
that is ahead of universal time by the offset shows the reading.  So every text of an instant, on
whatever clock, is read as the instant (`Instant.read?_timestampText`).
-/
namespace Almanac

namespace WallTime

variable {w : WallTime} {sep : Char} {s : String} {rest : List Char}

/-- A reading as text, cut to whole seconds: its date, a character and its time of day. -/
def clockChars (w : WallTime) (sep : Char) : List Char :=
  w.date.text.toList ++ sep :: w.time.clockText.toList

/-- A reading of whole seconds is that of its date and its time of day. -/
theorem ofTime_date_time (hw : w.nanos = 0) : .ofTime w.date ⟨w.time.second, 0⟩ = w := by
  refine WallTime.ext ?_ hw.symm
  rw [ofTime, dayNumber_date, time, secondsPerDay]
  dsimp only
  omega

/-- The date fields take the date of a written reading. -/
theorem date?_clockChars (hd : w.date.inCalendar = true) (hsep : sep.isDigit = false) :
    Fields.date? false (w.clockChars sep) = some (w.date, sep :: w.time.clockText.toList) :=
  (Fields.dateText_text w.date).date?_append hd (Fields.isDigit_head_eq_false hsep)

/-- A time of day does not begin with a blank. -/
theorem skipBlanks_clockText (t : TimeOfDay) :
    Text.skipBlanks t.clockText.toList = t.clockText.toList :=
  Text.skipBlanks_eq_self fun _ hc => TimeOfDay.isBlank_eq_false_of_mem_clockText hc

/-- **A written reading is read as the reading**, with its own character between. -/
theorem read?_clockChars (hs : s.toList = w.clockChars sep) (hsep : sep = 'T' ∨ sep = ' ')
    (hd : w.date.inCalendar = true) (hw : w.nanos = 0) : WallTime.read? sep s = some w := by
  have htime := Fields.time?_clockText w.second_time_lt
  have hwhole := congrArg some (ofTime_date_time hw)
  rw [WallTime.read?, Fields.whole?, hs]
  rcases hsep with rfl | rfl
  · rw [date?_clockChars hd (by decide)]
    simp only [bind, Option.bind_some, show Text.isBlank 'T' = false from by decide,
      Bool.false_eq_true, if_false, Fields.char?, if_true, htime, pure]
    exact hwhole
  · rw [date?_clockChars hd (by decide)]
    have hblank : Text.isBlank ' ' = true := by decide
    have hskip : Text.skipBlanks (' ' :: w.time.clockText.toList) = w.time.clockText.toList := by
      rw [Text.skipBlanks, List.dropWhile_cons_of_pos hblank]
      exact skipBlanks_clockText _
    simp only [bind, Option.bind_some, hblank, if_true, hskip, htime, pure]
    exact hwhole

/-- A reading with a blank between its parts is none with a `T`. -/
theorem read?_T_clockChars (hs : s.toList = w.clockChars ' ') (hd : w.date.inCalendar = true) :
    WallTime.read? 'T' s = none := by
  rw [WallTime.read?, Fields.whole?, hs, date?_clockChars hd (by decide)]
  rfl

end WallTime

namespace Instant

open Text (Writes)

variable {t : Instant} {w : WallTime} {offset : Int} {s : String} {cs rest : List Char}

/-! ## Offsets -/

/-- **The texts of an offset** from universal time, in seconds. -/
inductive OffsetText : Int → List Char → Prop
  | universal {c : Char} (hc : c = 'Z' ∨ c = 'z') : OffsetText 0 [c]
  | ahead {h m : Nat} {hs ms : List Char} (hhour : Writes 2 h hs) (hminute : Writes 2 m ms)
      (hclock : h < 24 ∧ m < 60) : OffsetText (3600 * h + 60 * m) ('+' :: (hs ++ ':' :: ms))
  | behind {h m : Nat} {hs ms : List Char} (hhour : Writes 2 h hs) (hminute : Writes 2 m ms)
      (hclock : h < 24 ∧ m < 60) : OffsetText (-(3600 * h + 60 * m)) ('-' :: (hs ++ ':' :: ms))

/-- The texts of a fraction of no second: none, or zeros behind a point. -/
inductive NoFraction : List Char → Prop
  | none : NoFraction []
  | zeros (k : Nat) : NoFraction ('.' :: List.replicate (k + 1) '0')

theorem offset?_of_offsetText (h : OffsetText offset cs) : offset? cs = some (offset, []) := by
  -- Both signs are followed by the same fields.
  have hfields {hour minute : Nat} {hs ms : List Char} (hhour : Writes 2 hour hs)
      (hminute : Writes 2 minute ms) :
      offsetField? (hs ++ ':' :: ms) = some (hour, ':' :: ms) ∧
        offsetField? ms = some (minute, []) := by
    have hlast : Fields.exactly? 2 (ms ++ []) = some (minute, []) :=
      Fields.exactly?_of_writes hminute
    rw [List.append_nil] at hlast
    exact ⟨Fields.exactly?_of_writes hhour, hlast⟩
  cases h with
  | universal hc => rw [offset?, if_pos hc]
  | ahead hhour hminute hclock =>
    obtain ⟨hfront, hback⟩ := hfields hhour hminute
    rw [offset?, if_neg (by decide), if_pos (.inl rfl)]
    simp only [bind, Option.bind_some, hfront, Fields.char?, if_true, hback, hclock, and_self,
      pure]
  | behind hhour hminute hclock =>
    obtain ⟨hfront, hback⟩ := hfields hhour hminute
    rw [offset?, if_neg (by decide), if_pos (.inr (.inl rfl))]
    simp only [bind, Option.bind_some, hfront, Fields.char?, if_true, hback, hclock, and_self,
      pure]
    rfl

/-- An offset begins neither with a digit nor with a point. -/
theorem OffsetText.head (h : OffsetText offset cs) :
    ∃ c later, cs = c :: later ∧ c.isDigit = false ∧ c ≠ '.' := by
  cases h with
  | universal hc =>
    refine ⟨_, _, rfl, ?_⟩
    rcases hc with rfl | rfl <;> decide
  | ahead => exact ⟨_, _, rfl, by decide⟩
  | behind => exact ⟨_, _, rfl, by decide⟩

theorem OffsetText.isBlank_eq_false (h : OffsetText offset cs) {c : Char} (hc : c ∈ cs) :
    Text.isBlank c = false := by
  -- Behind a sign stand two numbers with a colon between.
  have hfields {hs ms : List Char} {hour minute : Nat} (hhour : Writes 2 hour hs)
      (hminute : Writes 2 minute ms) (hc : c ∈ hs ++ ':' :: ms) : Text.isBlank c = false := by
    rcases List.mem_append.mp hc with hc | hc
    · exact Text.isBlank_eq_false_of_isDigit (hhour.digits c hc)
    · rcases List.mem_cons.mp hc with rfl | hc
      · decide
      · exact Text.isBlank_eq_false_of_isDigit (hminute.digits c hc)
  cases h with
  | universal huniversal =>
    rw [List.mem_singleton.mp hc]
    rcases huniversal with rfl | rfl <;> decide
  | ahead hhour hminute _ =>
    rcases List.mem_cons.mp hc with rfl | hc
    · decide
    · exact hfields hhour hminute hc
  | behind hhour hminute _ =>
    rcases List.mem_cons.mp hc with rfl | hc
    · decide
    · exact hfields hhour hminute hc

theorem NoFraction.isBlank_eq_false (h : NoFraction cs) {c : Char} (hc : c ∈ cs) :
    Text.isBlank c = false := by
  cases h with
  | none => exact absurd hc List.not_mem_nil
  | zeros k =>
    rcases List.mem_cons.mp hc with rfl | hc
    · decide
    · rw [List.eq_of_mem_replicate hc]
      decide

theorem digitsValue_zeros (k : Nat) : Text.digitsValue (List.replicate k '0') = 0 := by
  induction k with
  | zero => rfl
  | succ k ih =>
    rw [Text.digitsValue, List.replicate_succ, List.foldl_cons]
    exact ih

/-- A fraction of no second is read as none. -/
theorem NoFraction.fraction?_append (h : NoFraction cs) (hoffset : OffsetText offset rest) :
    Fields.fraction? (cs ++ rest) = some (0, rest) := by
  obtain ⟨c, later, rfl, hc, hpoint⟩ := hoffset.head
  cases h with
  | none =>
    rw [List.nil_append, Fields.fraction?]
    rintro _ ⟨⟩
    exact hpoint rfl
  | zeros k =>
    have hzeros : ∀ c ∈ List.replicate (k + 1) '0', c.isDigit = true := by
      intro c hc
      rw [List.eq_of_mem_replicate hc]
      rfl
    have hrun : Text.digitRun 9 (List.replicate (k + 1) '0' ++ c :: later) =
        (List.replicate (min 9 (k + 1)) '0', List.replicate (k + 1 - 9) '0' ++ c :: later) := by
      rw [Text.digitRun_append hzeros (.inr (Fields.isDigit_head_eq_false hc)),
        List.take_replicate, List.drop_replicate]
    have hlater : (List.replicate (k + 1 - 9) '0' ++ c :: later).dropWhile Char.isDigit =
        c :: later := by
      rw [List.dropWhile_append_of_pos fun d hd => by rw [List.eq_of_mem_replicate hd]; rfl,
        List.dropWhile_cons_of_neg (by rw [hc]; exact Bool.false_ne_true)]
    show Fields.nanos? (List.replicate (k + 1) '0' ++ c :: later) = _
    rw [Fields.nanos?, hrun]
    obtain ⟨j, hj⟩ : ∃ j, min 9 (k + 1) = j + 1 := ⟨min 9 (k + 1) - 1, by omega⟩
    rw [hj, List.replicate_succ]
    dsimp only
    rw [← List.replicate_succ, digitsValue_zeros, Nat.zero_mul, hlater]

/-! ## Timestamps -/

/-- The digits of a written reading, field by field. -/
theorem clockChars_eq {y : Nat} (hy : w.date.year = y) (hlast : y ≤ 9999) (sep : Char) :
    w.clockChars sep ++ rest = Text.padChars 4 y ++ '-' ::
      (Text.padChars 2 w.date.month ++ '-' :: (Text.padChars 2 w.date.day ++ sep ::
        (Text.padChars 2 w.time.hour ++ ':' :: (Text.padChars 2 w.time.minute ++ ':' ::
          (Text.padChars 2 w.time.secondOfMinute ++ rest))))) := by
  have hyear : (Text.yearText w.date.year).toList = Text.padChars 4 y := by
    rw [Text.yearText, hy, if_pos (by omega), Text.pad, String.toList_ofList, Int.natAbs_natCast]
  rw [WallTime.clockChars, Date.toList_text, TimeOfDay.toList_clockText, hyear]
  simp only [List.append_assoc, List.cons_append, List.append_nil]

/-- What follows a field that is taken. -/
theorem bind_of_eq_some {α β : Type} {x : Option α} {a : α} {f : α → Option β} {result : Option β}
    (hx : x = some a) (hf : f a = result) : x.bind f = result := by
  rw [hx, Option.bind_some, hf]

/-- **The fields of a timestamp** up to the second are those of a written reading. -/
theorem timestamp?_clockChars (hy : 0 ≤ w.date.year ∧ w.date.year ≤ 9999) {sep : Char}
    (hsep : sep = 'T' ∨ sep = 't' ∨ sep = ' ') (rest : List Char) :
    timestamp? (w.clockChars sep ++ rest) = (do
      let (nanos, cs) ← Fields.fraction? rest
      let (offset, cs) ← offset? cs
      let time ← Fields.timeOfDay? w.time.hour w.time.minute w.time.secondOfMinute nanos
      return (.ofUtc ((WallTime.ofTime w.date time).shift (-offset)), cs)) := by
  obtain ⟨y, hyear⟩ := Int.eq_ofNat_of_zero_le hy.1
  obtain ⟨⟨hone, htwelve⟩, ⟨hday, hdays⟩, -⟩ := w.date.parts_mem
  have hmonth := daysInMonth_le w.date.year htwelve
  obtain ⟨hhour, hminute, hsecond⟩ := Fields.parts_lt w.second_time_lt
  have hfour (rest : List Char) :
      Fields.exactly? 4 (Text.padChars 4 y ++ rest) = some (y, rest) :=
    Fields.exactly?_of_writes (Text.writes_padChars (Text.length_padChars_four (by omega)))
  have htwo {n : Nat} (hn : n < 100) (rest : List Char) :
      Fields.exactly? 2 (Text.padChars 2 n ++ rest) = some (n, rest) :=
    Fields.exactly?_of_writes (Text.writes_padChars (Text.length_padChars_two hn))
  have hseparator (rest : List Char) : dateTimeSeparator? (sep :: rest) = some rest := by
    rw [dateTimeSeparator?, if_pos hsep]
  have hdate : Date.ofYMD? y w.date.month w.date.day = some w.date := by
    have hmargin := Date.margin_of_year hy
    exact Date.ofYMD?_eq_some.mpr
      ⟨⟨hyear, rfl, rfl⟩, Date.le_def.mpr (by omega), Date.le_def.mpr (by omega)⟩
  have hchar (c : Char) (rest : List Char) : Fields.char? c (c :: rest) = some rest :=
    Fields.char?_eq_some_iff.mpr rfl
  rw [clockChars_eq hyear (by omega)]
  -- One step for each field, then the date, which no field behind it changes.
  refine bind_of_eq_some (hfour _) (bind_of_eq_some (hchar _ _) ?_)
  refine bind_of_eq_some (htwo (by omega) _) (bind_of_eq_some (hchar _ _) ?_)
  refine bind_of_eq_some (htwo (by omega) _) (bind_of_eq_some (hseparator _) ?_)
  refine bind_of_eq_some (htwo (by omega) _) (bind_of_eq_some (hchar _ _) ?_)
  refine bind_of_eq_some (htwo (by omega) _) (bind_of_eq_some (hchar _ _) ?_)
  refine bind_of_eq_some (htwo (by omega) _) ?_
  dsimp only
  rw [hdate]
  rfl

/-- **The texts of an instant**, cut to whole seconds: what a clock shows that is ahead of
universal time by an offset, and the offset.  The year has four digits. -/
inductive TimestampText (t : Instant) : List Char → Prop
  | mk {offset : Int} {sep : Char} {fraction chars : List Char}
      (hyear : 0 ≤ (t.utc.shift offset).date.year ∧ (t.utc.shift offset).date.year ≤ 9999)
      (hsep : sep = 'T' ∨ sep = 't' ∨ sep = ' ') (hfraction : NoFraction fraction)
      (hoffset : OffsetText offset chars) :
      TimestampText t ((t.utc.shift offset).clockChars sep ++ (fraction ++ chars))

/-- **A text of an instant is read as the instant.** -/
theorem read?_timestampText (h : TimestampText t s.toList) (ht : t.nanos = 0) :
    Instant.read? s = some t := by
  rw [Instant.read?, Fields.whole?]
  generalize s.toList = cs at h
  obtain ⟨hyear, hsep, hfraction, hoffset⟩ := h
  rename_i offset sep fraction chars
  have hwhole : (t.utc.shift offset).nanos = 0 := ht
  have hback : ofUtc ((t.utc.shift offset).shift (-offset)) = t := by
    rw [WallTime.shift, WallTime.shift]
    exact Instant.ext (Int.add_neg_cancel_right _ _) rfl
  rw [timestamp?_clockChars hyear hsep, hfraction.fraction?_append hoffset]
  simp only [bind, Option.bind_some, offset?_of_offsetText hoffset,
    Fields.timeOfDay?_parts (t.utc.shift offset).second_time_lt, pure,
    WallTime.ofTime_date_time hwhole, hback]

/-- A written reading without an offset is no timestamp. -/
theorem read?_clockChars (hs : s.toList = w.clockChars sep)
    (hsep : sep = 'T' ∨ sep = 't' ∨ sep = ' ')
    (hy : 0 ≤ w.date.year ∧ w.date.year ≤ 9999) : Instant.read? s = none := by
  have hnone := timestamp?_clockChars hy hsep []
  rw [List.append_nil] at hnone
  rw [Instant.read?, Fields.whole?, hs, hnone]
  rfl

end Instant
end Almanac
