import Almanac.Proofs.Numerals
import Almanac.Proofs.Toml.Texts

/-! # Values that are written and read

Texts, truth values, numbers and lists of texts are read back from what is written, up to the end
of the line (`Toml.Reads`).
-/
namespace Almanac.Toml

open Text (natChars digitRun digitsValue strip? isDigit_of_mem_natChars)

variable {c : Char} {cs ds rest tail : List Char} {n : Nat}

/-- **What is written for a value is read as that value**, on a line of its own: it does not begin
with a blank, and steps for twice its length are enough. -/
structure Reads (text : List Char) (v : Value) : Prop where
  skipSpace_eq : ∀ rest, skipSpace (text ++ rest) = text ++ rest
  value?_eq : ∀ steps tail, 2 * text.length < steps →
    value? steps depthLimit (text ++ '\n' :: tail) = some (v, '\n' :: tail)

/-! ## Texts and truth values -/

theorem strip?_of_ne {a : Char} (h : a ≠ c) (head rest : List Char) :
    strip? (a :: head) (c :: rest) = none :=
  if_neg h

theorem scalar?_textChars (h : Unmarked rest) (cs : List Char) :
    scalar? (textChars cs ++ rest) = some (.string (String.ofList cs), rest) := by
  have hread := string?_textChars h cs
  unfold scalar?
  obtain ⟨tail, htail | htail⟩ := exists_textChars cs
  · rw [htail, List.cons_append] at hread ⊢
    show (string? _).map _ = _
    rw [hread]
    rfl
  · rw [htail, List.cons_append] at hread ⊢
    show (string? _).map _ = _
    rw [hread]
    rfl

theorem scalar?_boolChars (b : Bool) (rest : List Char) :
    scalar? (boolChars b ++ rest) = some (.bool b, rest) := by
  cases b <;> rfl

/-- A value without parts takes one step. -/
theorem value?_of_scalar {steps depth : Nat} (hbracket : c ≠ '[') (hbrace : c ≠ '\x7b')
    (rest : List Char) (h : 0 < steps) : value? steps depth (c :: rest) = scalar? (c :: rest) := by
  obtain ⟨steps, rfl⟩ := Nat.exists_eq_succ_of_ne_zero h.ne'
  rw [value?]
  · exact fun _ heq => hbracket (List.cons.inj heq).1
  · exact fun _ heq => hbrace (List.cons.inj heq).1

theorem value?_textChars {steps depth : Nat} (hrest : Unmarked rest) (hsteps : 0 < steps)
    (cs : List Char) :
    value? steps depth (textChars cs ++ rest) = some (.string (String.ofList cs), rest) := by
  rw [← scalar?_textChars hrest]
  obtain ⟨tail, htail | htail⟩ := exists_textChars cs
  · rw [htail, List.cons_append, value?_of_scalar (by decide) (by decide) _ hsteps]
  · rw [htail, List.cons_append, value?_of_scalar (by decide) (by decide) _ hsteps]

theorem skipSpace_of_not_space (h : isSpace c = false) (rest : List Char) :
    skipSpace (c :: rest) = c :: rest :=
  List.dropWhile_cons_of_neg (by simp [h])

theorem reads_textChars (s : String) : Reads (textChars s.toList) (.string s) where
  skipSpace_eq rest := by
    obtain ⟨tail, htail | htail⟩ := exists_textChars s.toList
    · rw [htail, List.cons_append, skipSpace_of_not_space (by decide)]
    · rw [htail, List.cons_append, skipSpace_of_not_space (by decide)]
  value?_eq steps tail hsteps := by
    have hend : Unmarked ('\n' :: tail) := by simp [Unmarked]
    rw [value?_textChars hend (by omega), String.ofList_toList]

theorem reads_boolChars (b : Bool) : Reads (boolChars b) (.bool b) where
  skipSpace_eq rest := by
    cases b
    · rfl
    · rfl
  value?_eq steps tail hsteps := by
    rw [← scalar?_boolChars]
    cases b
    · exact value?_of_scalar (by decide) (by decide) _ (by omega)
    · exact value?_of_scalar (by decide) (by decide) _ (by omega)

/-! ## Numbers -/

/-- Only the digits of zero begin with a zero. -/
theorem natChars_eq_zero_cons (h : natChars n = '0' :: ds) : ds = [] := by
  induction n using Nat.strongRecOn generalizing ds with
  | ind n ih =>
    by_cases hsmall : n < 10
    · rw [natChars, Nat.toDigits_of_lt_base hsmall] at h
      exact (List.cons.inj h).2.symm
    · rw [natChars, Nat.toDigits_of_base_le (by decide) (by omega)] at h
      exfalso
      obtain ⟨front, hfront⟩ : ∃ front, natChars (n / 10) = '0' :: front := by
        cases hdigits : natChars (n / 10) with
        | nil => exact absurd hdigits Nat.toDigits_ne_nil
        | cons c front =>
          rw [natChars] at hdigits
          rw [hdigits] at h
          exact ⟨front, by rw [(List.cons.inj h).1]⟩
      -- A number of one digit that is zero comes from no larger number.
      have hone := ih (n / 10) (by omega) hfront
      have hzero := Text.digitsValue_natChars (n / 10)
      rw [hfront, hone] at hzero
      have : n / 10 = 0 := hzero.symm
      omega

/-- A mark that is no digit does not stand behind some of the digits of a number. -/
theorem mark?_of_fixed? (mark : Char) {width min max : Nat} (hds : ∀ d ∈ ds, d.isDigit)
    (hmark : mark.isDigit = false) (hne : mark ≠ '\n')
    (h : fixed? width min max (ds ++ '\n' :: tail) = some (n, rest)) : mark? mark rest = none := by
  rw [fixed?, Text.digitRun_append hds (.inr (by simp))] at h
  dsimp only at h
  split at h
  · obtain ⟨-, rfl⟩ := Prod.mk.inj (Option.some.inj h)
    cases hdrop : ds.drop width with
    | nil => exact if_neg hne.symm
    | cons d more =>
      refine if_neg ?_
      rintro rfl
      have hdigit := hds d (List.mem_of_mem_drop (hdrop ▸ List.mem_cons_self))
      rw [hmark] at hdigit
      exact absurd hdigit (by decide)
  · cases h

theorem readMoment?_digits (hds : ∀ d ∈ ds, d.isDigit) :
    readMoment? (ds ++ '\n' :: tail) = none := by
  have hdate : readDate? (ds ++ '\n' :: tail) = none := by
    rw [readDate?]
    cases hyear : fixed? 4 0 9999 (ds ++ '\n' :: tail) with
    | none => rfl
    | some found =>
      have hmark := mark?_of_fixed? '-' hds (by decide) (by decide) hyear
      simp [hmark]
  have htime : readTime? (ds ++ '\n' :: tail) = none := by
    rw [readTime?]
    cases hhour : fixed? 2 0 23 (ds ++ '\n' :: tail) with
    | none => rfl
    | some found =>
      have hmark := mark?_of_fixed? ':' hds (by decide) (by decide) hhour
      simp [hmark]
  rw [readMoment?, hdate, htime]
  rfl

theorem moreDigits_append (hds : ∀ d ∈ ds, d.isDigit) (tail : List Char) :
    moreDigits Char.isDigit (ds ++ '\n' :: tail) = some (ds, '\n' :: tail) := by
  induction ds with
  | nil => rfl
  | cons d ds ih =>
    have hd := hds d List.mem_cons_self
    rw [List.cons_append, moreDigits.eq_def]
    split
    · rename_i heq
      rw [(List.cons.inj heq).1] at hd
      exact absurd hd (by decide)
    · rename_i heq
      obtain ⟨rfl, rfl⟩ := List.cons.inj heq
      rw [if_pos hd, ih fun d hd => hds d (List.mem_cons_of_mem _ hd)]
      rfl
    · rename_i heq
      cases heq

theorem decimal?_natChars (n : Nat) (tail : List Char) :
    decimal? (natChars n ++ '\n' :: tail) = some (natChars n, '\n' :: tail) := by
  cases hdigits : natChars n with
  | nil => exact absurd hdigits Nat.toDigits_ne_nil
  | cons d ds =>
    have hds : ∀ c ∈ d :: ds, c.isDigit := fun c hc => isDigit_of_mem_natChars (hdigits ▸ hc)
    by_cases hzero : d = '0'
    · rw [hzero] at hdigits ⊢
      rw [natChars_eq_zero_cons hdigits]
      rfl
    · rw [List.cons_append, decimal?, digits?, if_pos (hds d List.mem_cons_self),
        moreDigits_append fun c hc => hds c (List.mem_cons_of_mem _ hc)]
      · rfl
      · exact fun _ heq => hzero (List.cons.inj heq).1

/-- Digits do not begin with a character that is none. -/
theorem ne_of_digits {a : Char} (hds : ∀ d ∈ ds, d.isDigit) (ha : a.isDigit = false)
    (hline : a ≠ '\n') : ds ++ '\n' :: tail ≠ a :: rest := by
  intro heq
  cases ds with
  | nil => exact hline (List.cons.inj heq).1.symm
  | cons d ds =>
    have hd := hds d List.mem_cons_self
    rw [(List.cons.inj heq).1, ha] at hd
    exact absurd hd (by decide)

theorem sign_digits (hds : ∀ d ∈ ds, d.isDigit) :
    sign (ds ++ '\n' :: tail) = (false, ds ++ '\n' :: tail) := by
  rw [sign]
  · exact fun _ => ne_of_digits hds (by decide) (by decide)
  · exact fun _ => ne_of_digits hds (by decide) (by decide)

theorem strip?_digits {a : Char} {head : List Char} (hds : ∀ d ∈ ds, d.isDigit)
    (ha : a.isDigit = false) (hline : a ≠ '\n') :
    strip? (a :: head) (ds ++ '\n' :: tail) = none := by
  cases hcs : ds ++ '\n' :: tail with
  | nil => rfl
  | cons c cs =>
    refine strip?_of_ne ?_ head cs
    rintro rfl
    exact ne_of_digits hds ha hline hcs

theorem readFraction?_natChars (n : Nat) (tail : List Char) :
    readFraction? (natChars n ++ '\n' :: tail) = none := by
  have hds : ∀ d ∈ natChars n, d.isDigit := fun d => isDigit_of_mem_natChars
  have hinf : strip? "inf".toList (natChars n ++ '\n' :: tail) = none :=
    strip?_digits hds (by decide) (by decide)
  have hnan : strip? "nan".toList (natChars n ++ '\n' :: tail) = none :=
    strip?_digits hds (by decide) (by decide)
  rw [readFraction?, sign_digits hds]
  dsimp only
  rw [hinf, hnan]
  dsimp only
  rw [decimal?_natChars]
  rfl

/-- The mark of a base stands behind a zero. -/
theorem natChars_ne_base {a : Char} (ha : a ≠ '\n') (n : Nat) :
    natChars n ++ '\n' :: tail ≠ '0' :: a :: rest := by
  intro heq
  cases hdigits : natChars n with
  | nil => exact Nat.toDigits_ne_nil hdigits
  | cons d ds =>
    rw [hdigits, List.cons_append] at heq
    obtain ⟨rfl, htail⟩ := List.cons.inj heq
    rw [natChars_eq_zero_cons hdigits] at htail
    exact ha (List.cons.inj htail).1.symm

theorem readInteger?_natChars (h : (n : Int) ≤ Int64.maxValue.toInt) (tail : List Char) :
    readInteger? (natChars n ++ '\n' :: tail) = some (.nat n, '\n' :: tail) := by
  have hds : ∀ d ∈ natChars n, d.isDigit := fun d => isDigit_of_mem_natChars
  have hbounds : Int64.minValue.toInt ≤ (n : Int) ∧ (n : Int) ≤ Int64.maxValue.toInt := by
    have hmin : Int64.minValue.toInt ≤ 0 := by decide
    omega
  rw [readInteger?, sign_digits hds]
  · dsimp only
    rw [decimal?_natChars, Option.bind_eq_bind, Option.bind_some, Text.digitsValue_natChars,
      if_neg Bool.false_ne_true, integer?, if_pos hbounds]
    rfl
  · exact fun _ => natChars_ne_base (by decide) n
  · exact fun _ => natChars_ne_base (by decide) n
  · exact fun _ => natChars_ne_base (by decide) n

theorem scalar?_natChars (h : (n : Int) ≤ Int64.maxValue.toInt) (tail : List Char) :
    scalar? (natChars n ++ '\n' :: tail) = some (.nat n, '\n' :: tail) := by
  have hds : ∀ d ∈ natChars n, d.isDigit := fun d => isDigit_of_mem_natChars
  have htrue : strip? "true".toList (natChars n ++ '\n' :: tail) = none :=
    strip?_digits hds (by decide) (by decide)
  have hfalse : strip? "false".toList (natChars n ++ '\n' :: tail) = none :=
    strip?_digits hds (by decide) (by decide)
  have hnumber : numeric? (natChars n ++ '\n' :: tail) = some (.nat n, '\n' :: tail) := by
    rw [numeric?, readMoment?_digits hds, readFraction?_natChars, readInteger?_natChars h]
    rfl
  rw [scalar?, htrue, hfalse]
  dsimp only
  rw [hnumber]
  · exact fun _ => ne_of_digits hds (by decide) (by decide)
  · exact fun _ => ne_of_digits hds (by decide) (by decide)

theorem reads_natChars (h : (n : Int) ≤ Int64.maxValue.toInt) : Reads (natChars n) (.nat n) := by
  have hnil : natChars n ≠ [] := Nat.toDigits_ne_nil
  obtain ⟨d, ds, hdigits⟩ := List.exists_cons_of_ne_nil hnil
  have hd : d.isDigit := isDigit_of_mem_natChars (hdigits ▸ List.mem_cons_self)
  have hne : ∀ c, c.isDigit = false → d ≠ c := by
    rintro c hc rfl
    rw [hc] at hd
    exact absurd hd (by decide)
  refine ⟨fun rest => ?_, fun steps tail hsteps => ?_⟩
  · have hspace : isSpace d = false := by
      simp [isSpace, hne ' ' (by decide), hne '\t' (by decide)]
    rw [hdigits, List.cons_append, skipSpace_of_not_space hspace]
  · rw [← scalar?_natChars h, hdigits, List.cons_append]
    exact value?_of_scalar (hne '[' (by decide)) (hne '\x7b' (by decide)) _ (by omega)

/-! ## Lists of texts -/

/-- An item on a line of its own. -/
def itemLine (s : String) : List Char :=
  "\n    ".toList ++ textChars s.toList ++ [',']

/-- Two and more items stand on lines of their own. -/
theorem listChars_itemLines (s next : String) (items : List String) :
    listChars (s :: next :: items) =
      '[' :: (s :: next :: items).flatMap itemLine ++ ['\n', ']'] :=
  rfl

/-- What stands before an item does not count. -/
theorem skipFiller?_textChars (cs rest : List Char) :
    skipFiller? false (textChars cs ++ rest) = some (textChars cs ++ rest) := by
  obtain ⟨tail, htail | htail⟩ := exists_textChars cs
  · rw [htail]
    rfl
  · rw [htail]
    rfl

theorem skipFiller?_itemLine (s : String) (rest : List Char) :
    skipFiller? false (itemLine s ++ rest) = some (textChars s.toList ++ ',' :: rest) := by
  rw [itemLine, List.append_assoc, List.append_assoc, List.singleton_append]
  exact skipFiller?_textChars s.toList (',' :: rest)

/-- A text does not begin with what closes a list. -/
theorem textChars_ne_bracket : textChars cs ++ rest ≠ ']' :: tail := by
  intro heq
  obtain ⟨more, hmore | hmore⟩ := exists_textChars cs
  · rw [hmore] at heq
    exact absurd (List.cons.inj heq).1 (by decide)
  · rw [hmore] at heq
    exact absurd (List.cons.inj heq).1 (by decide)

/-- One item with a comma behind it. -/
theorem items?_item {steps depth : Nat} (s : String) (hsteps : 0 < steps) (more : List Char) :
    items? (steps + 1) depth (textChars s.toList ++ ',' :: more) =
      match skipFiller? false more with
      | some (']' :: rest) => some ([.string s], rest)
      | some rest => (items? steps depth rest).map fun (vs, rest) => (.string s :: vs, rest)
      | none => none := by
  have hcomma : Unmarked (',' :: more) := by simp [Unmarked]
  rw [items?, value?_textChars hcomma hsteps, String.ofList_toList]
  rfl

/-- The items of a list from one item on. -/
theorem items?_itemLines {steps depth : Nat} (s : String) (items : List String)
    (hsteps : items.length + 1 < steps) (rest : List Char) :
    items? steps depth
        (textChars s.toList ++ ',' :: (items.flatMap itemLine ++ '\n' :: ']' :: rest)) =
      some ((s :: items).map .string, rest) := by
  induction items generalizing s steps with
  | nil =>
    obtain ⟨steps, rfl⟩ := Nat.exists_eq_succ_of_ne_zero (show steps ≠ 0 by omega)
    rw [items?_item s (by simpa using hsteps)]
    rfl
  | cons next items ih =>
    rw [List.length_cons] at hsteps
    obtain ⟨steps, rfl⟩ := Nat.exists_eq_succ_of_ne_zero (show steps ≠ 0 by omega)
    rw [items?_item s (by omega), List.flatMap_cons, List.append_assoc, skipFiller?_itemLine]
    split
    · rename_i heq
      exact absurd (Option.some.inj heq) textChars_ne_bracket
    · rename_i later _ heq
      rw [← Option.some.inj heq, ih next (by omega)]
      rfl
    · rename_i heq
      cases heq

/-- A list that is not empty is read from its first item. -/
theorem value?_array {steps depth : Nat} {more later : List Char}
    (hfiller : skipFiller? false more = some later) (hlater : ∀ tail, later ≠ ']' :: tail) :
    value? (steps + 1) (depth + 1) ('[' :: more) =
      (items? steps depth later).map fun (vs, rest) => (.array vs, rest) :=
  value?.eq_3 steps more depth later hlater hfiller

theorem length_le_flatMap_itemLine (items : List String) :
    items.length ≤ (items.flatMap itemLine).length := by
  induction items with
  | nil => exact Nat.zero_le _
  | cons s items ih =>
    rw [List.flatMap_cons, List.length_append, List.length_cons, itemLine]
    simp only [List.length_append, List.length_singleton]
    omega

theorem reads_listChars (items : List String) : Reads (listChars items) (.ofStrings items) where
  skipSpace_eq rest := by
    match items with
    | [] => rfl
    | [s] => rfl
    | s :: next :: items => rfl
  value?_eq steps tail hsteps := by
    obtain ⟨steps, rfl⟩ := Nat.exists_eq_succ_of_ne_zero (show steps ≠ 0 by omega)
    match items with
    | [] => rfl
    | [s] =>
      have hbracket : Unmarked (']' :: '\n' :: tail) := by simp [Unmarked]
      have hlength : 0 < (textChars s.toList).length := by
        obtain ⟨more, hmore | hmore⟩ := exists_textChars s.toList
        · simp [hmore]
        · simp [hmore]
      have hshape : listChars [s] ++ '\n' :: tail =
          '[' :: (textChars s.toList ++ ']' :: '\n' :: tail) := by
        simp [listChars]
      rw [listChars, List.length_append, List.length_cons] at hsteps
      obtain ⟨steps, rfl⟩ := Nat.exists_eq_succ_of_ne_zero (show steps ≠ 0 by omega)
      rw [hshape, depthLimit,
        value?_array (skipFiller?_textChars _ _) fun _ => textChars_ne_bracket,
        items?, value?_textChars hbracket (by omega), String.ofList_toList]
      rfl
    | s :: next :: items =>
      have hshape : listChars (s :: next :: items) ++ '\n' :: tail =
          '[' ::
            (itemLine s ++ ((next :: items).flatMap itemLine ++ '\n' :: ']' :: '\n' :: tail)) := by
        rw [listChars_itemLines, List.flatMap_cons]
        simp
      have hlength := length_le_flatMap_itemLine (s :: next :: items)
      have htext : (listChars (s :: next :: items)).length =
          ((s :: next :: items).flatMap itemLine).length + 3 := by
        rw [listChars_itemLines, List.length_append, List.length_cons]
        rfl
      rw [List.length_cons] at hlength
      rw [hshape, depthLimit, value?_array (skipFiller?_itemLine s _) fun _ => textChars_ne_bracket,
        items?_itemLines s _ (by omega)]
      rfl

end Almanac.Toml
