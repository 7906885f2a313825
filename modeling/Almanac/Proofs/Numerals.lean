import Almanac.Text.Blank
import Almanac.Text.Digits
import Mathlib.Algebra.Group.Nat.Defs
import Mathlib.Tactic.ByContra

/-! # Numbers in text

Numbers are written with the digits `0 … 9`, and the reader of digits takes a number back
from them (`Text.readNat?_padChars`).  The texts of a number in a given width are stated by
`Text.Writes`; a run of digits takes them from the front of a text (`Text.Writes.digitRun_append`).

No other character stands in a written number but the minus sign of a negative one, so two numbers
with the same text are equal (`Text.intText_injective`) and a written number has no blanks to trim.
-/
namespace Almanac
namespace Text

/-! ## The digits of a number -/

theorem isDigit_of_mem_natChars {n : Nat} {c : Char} (h : c ∈ natChars n) : c.isDigit :=
  Nat.isDigit_of_mem_toDigits (by decide) (by decide) h

theorem isDigit_of_mem_padChars {width n : Nat} {c : Char} (h : c ∈ padChars width n) :
    c.isDigit := by
  rcases List.mem_append.mp h with hzero | hdigit
  · obtain rfl := List.eq_of_mem_replicate hzero
    decide
  · exact isDigit_of_mem_natChars hdigit

theorem notMem_pad {width n : Nat} {c : Char} (h : c.isDigit = false) :
    c ∉ (pad width n).toList := by
  intro hc
  rw [pad, String.toList_ofList] at hc
  rw [isDigit_of_mem_padChars hc] at h
  exact Bool.noConfusion h

theorem padChars_zero (n : Nat) : padChars 0 n = natChars n := by
  rw [padChars, Nat.zero_sub, List.replicate_zero, List.nil_append]

/-- A number below a hundred has two digits. -/
theorem padChars_two {n : Nat} (h : n < 100) :
    padChars 2 n = [(n / 10).digitChar, (n % 10).digitChar] := by
  have hall : ∀ m < 100, padChars 2 m = [(m / 10).digitChar, (m % 10).digitChar] := by decide
  exact hall n h

/-- Numbers of four digits. -/
theorem length_natChars_eq_four {n : Nat} : (natChars n).length = 4 ↔ 1000 ≤ n ∧ n ≤ 9999 := by
  have hthree : (natChars n).length ≤ 3 ↔ n < 10 ^ 3 :=
    Nat.length_toDigits_le_iff (by decide) (by decide)
  have hfour : (natChars n).length ≤ 4 ↔ n < 10 ^ 4 :=
    Nat.length_toDigits_le_iff (by decide) (by decide)
  omega

/-! ## Runs of digits -/

/-- A run of digits has no more digits than its width. -/
theorem digitRun_spec (width : Nat) (cs : List Char) :
    (digitRun width cs).1.length ≤ width ∧
      ∀ c ∈ (digitRun width cs).1, c.isDigit = true := by
  fun_induction digitRun width cs with
  | case1 => exact ⟨Nat.le_refl _, fun _ hc => absurd hc List.not_mem_nil⟩
  | case2 => exact ⟨Nat.zero_le _, fun _ hc => absurd hc List.not_mem_nil⟩
  | case3 width c cs hc ds rest hrun ih =>
    rw [hrun] at ih
    refine ⟨Nat.succ_le_succ ih.1, fun d hd => ?_⟩
    rcases List.mem_cons.mp hd with rfl | hd
    · exact hc
    · exact ih.2 d hd
  | case4 => exact ⟨Nat.zero_le _, fun _ hc => absurd hc List.not_mem_nil⟩

/-- A run of digits ends at its width or with the digits. -/
theorem digitRun_append {width : Nat} {ds rest : List Char} (hds : ∀ c ∈ ds, c.isDigit = true)
    (hend : width ≤ ds.length ∨ ∀ c ∈ rest.head?, c.isDigit = false) :
    digitRun width (ds ++ rest) = (ds.take width, ds.drop width ++ rest) := by
  induction width generalizing ds with
  | zero => rfl
  | succ width ih =>
    cases ds with
    | nil =>
      cases rest with
      | nil => rfl
      | cons c rest =>
        have hc : c.isDigit = false := hend.resolve_left (Nat.not_succ_le_zero width) c rfl
        rw [List.nil_append, digitRun, if_neg (by rw [hc]; exact Bool.false_ne_true)]
        rfl
    | cons d ds =>
      rw [List.cons_append, digitRun, if_pos (hds d List.mem_cons_self),
        ih (fun c hc => hds c (List.mem_cons_of_mem d hc)) (hend.imp_left Nat.le_of_succ_le_succ)]
      rfl

/-- Nothing is lost behind a run of digits. -/
theorem digitRun_fst_append_snd (width : Nat) (cs : List Char) :
    (digitRun width cs).1 ++ (digitRun width cs).2 = cs := by
  fun_induction digitRun width cs with
  | case1 => rfl
  | case2 => rfl
  | case3 width c cs hc ds rest hrun ih =>
    rw [hrun] at ih
    exact congrArg (c :: ·) ih
  | case4 => rfl

/-! ## Numbers of a fixed width -/

/-- A run of digits writes a number below the power of ten of its length. -/
theorem digitsValue_lt {cs : List Char} (h : ∀ c ∈ cs, c.isDigit = true) :
    digitsValue cs < 10 ^ cs.length := by
  have hrun : ∀ (cs : List Char) (n : Nat), (∀ c ∈ cs, c.isDigit = true) →
      cs.foldl (fun n c => 10 * n + digitValue c) n < (n + 1) * 10 ^ cs.length := by
    intro cs
    induction cs with
    | nil =>
      intro n _
      simp
    | cons c cs ih =>
      intro n hdigits
      have hvalue : digitValue c ≤ 9 := by
        have hrange : 48 ≤ c.toNat ∧ c.toNat ≤ 57 :=
          Char.isDigit_iff_toNat.mp (hdigits c List.mem_cons_self)
        rw [digitValue, show '0'.toNat = 48 from rfl]
        omega
      rw [List.foldl_cons, List.length_cons, Nat.pow_succ']
      refine Nat.lt_of_lt_of_le (ih _ fun d hd => hdigits d (List.mem_cons_of_mem c hd)) ?_
      rw [← Nat.mul_assoc]
      exact Nat.mul_le_mul_right _ (by omega)
  have hlt := hrun cs 0 h
  rwa [Nat.zero_add, Nat.one_mul] at hlt

/-- Whether a text is a number of a given width in the digits `0 … 9`. -/
structure Writes (width n : Nat) (cs : List Char) : Prop where
  length : cs.length = width
  digits : ∀ c ∈ cs, c.isDigit = true
  value : digitsValue cs = n

section Writes

variable {width n : Nat} {cs : List Char}

theorem readNat?_eq_some_iff :
    readNat? cs = some n ↔ cs ≠ [] ∧ (∀ c ∈ cs, c.isDigit = true) ∧ digitsValue cs = n := by
  rw [readNat?, ← List.all_eq_true, ← and_assoc]
  by_cases h : cs ≠ [] ∧ cs.all Char.isDigit = true
  · rw [if_pos h, and_iff_right h, Option.some.injEq]
  · rw [if_neg h]
    constructor
    · intro hread
      cases hread
    · exact fun hread => absurd hread.1 h

/-- A text of a fixed length is read as the number it writes. -/
theorem writes_iff (hwidth : 0 < width) :
    Writes width n cs ↔ cs.length = width ∧ readNat? cs = some n := by
  rw [readNat?_eq_some_iff]
  constructor
  · rintro ⟨hlength, hdigits, hvalue⟩
    exact ⟨hlength, List.ne_nil_of_length_pos (hlength ▸ hwidth), hdigits, hvalue⟩
  · rintro ⟨hlength, -, hdigits, hvalue⟩
    exact ⟨hlength, hdigits, hvalue⟩

theorem Writes.lt (h : Writes width n cs) : n < 10 ^ width := by
  rw [← h.length, ← h.value]
  exact digitsValue_lt h.digits

/-- A number does not begin with a hyphen. -/
theorem Writes.ne_hyphen (h : Writes width n cs) (rest : List Char) : cs ≠ '-' :: rest := by
  rintro rfl
  exact absurd (h.digits '-' List.mem_cons_self) (by decide)

/-- A run of digits takes a number that fills its width or is followed by no digit. -/
theorem Writes.digitRun_append {k : Nat} {rest : List Char} (h : Writes k n cs) (hk : k ≤ width)
    (hend : k = width ∨ ∀ c ∈ rest.head?, c.isDigit = false) :
    digitRun width (cs ++ rest) = (cs, rest) := by
  have hlength := h.length
  rw [Text.digitRun_append h.digits (hend.imp_left fun heq => by omega),
    List.take_of_length_le (by omega), List.drop_of_length_le (by omega), List.nil_append]

end Writes

/-! ## Reading a number back -/

theorem digitsValue_natChars (n : Nat) : digitsValue (natChars n) = n :=
  Nat.ofDigitChars_ten_toDigits

/-- Zeros in front do not count. -/
theorem digitsValue_padChars (width n : Nat) : digitsValue (padChars width n) = n := by
  have hzeros : ∀ k, digitsValue (List.replicate k '0') = 0 := by
    intro k
    induction k with
    | zero => rfl
    | succ k ih =>
      rw [digitsValue, List.replicate_succ, List.foldl_cons]
      exact ih
  have hvalue := digitsValue_natChars n
  rw [digitsValue] at hvalue
  rw [padChars, digitsValue, List.foldl_append, ← digitsValue, hzeros, hvalue]

/-- **The digits of a number are read as the number.** -/
theorem readNat?_padChars (width n : Nat) : readNat? (padChars width n) = some n := by
  have hne : padChars width n ≠ [] :=
    List.append_ne_nil_of_right_ne_nil _ (List.ne_nil_of_length_pos Nat.length_toDigits_pos)
  have hdigits : (padChars width n).all Char.isDigit :=
    List.all_eq_true.mpr fun _ => isDigit_of_mem_padChars
  rw [readNat?, if_pos ⟨hne, hdigits⟩, digitsValue_padChars]

theorem pad_injective {width m n : Nat} (h : pad width m = pad width n) : m = n := by
  rw [pad, pad, String.ofList_inj] at h
  rw [← digitsValue_padChars width m, h, digitsValue_padChars]

/-! ## Numbers with a sign -/

theorem notMem_intText {i : Int} {c : Char} (h : c.isDigit = false) (hsign : c ≠ '-') :
    c ∉ (intText i).toList := by
  unfold intText
  split
  · rw [String.toList_append, List.mem_append, not_or]
    exact ⟨by simpa using hsign, notMem_pad h⟩
  · exact notMem_pad h

theorem toList_intText_natCast (n : Nat) : (intText n).toList = natChars n := by
  rw [intText, if_neg (by omega), Int.natAbs_natCast, pad, padChars_zero, String.toList_ofList]

theorem toList_intText_of_neg {i : Int} (h : i < 0) :
    (intText i).toList = '-' :: natChars i.natAbs := by
  rw [intText, if_pos h, String.toList_append, pad, padChars_zero, String.toList_ofList,
    String.toList_ofList, List.singleton_append]

theorem intText_injective {i j : Int} (h : intText i = intText j) : i = j := by
  have hsign (n : Nat) (k : Int) : pad 0 n ≠ "-" ++ pad 0 k.natAbs := by
    intro heq
    have hmem : '-' ∈ (pad 0 n).toList := by
      rw [heq, String.toList_append]
      exact List.mem_append_left _ (by decide)
    exact notMem_pad (by decide) hmem
  unfold intText at h
  split at h <;> split at h
  · have := pad_injective ((String.append_right_inj _).mp h)
    omega
  · exact absurd h.symm (hsign _ _)
  · exact absurd h (hsign _ _)
  · have := pad_injective h
    omega

/-! ## Written numbers have no blanks -/

theorem isBlank_eq_false_of_isDigit {c : Char} (h : c.isDigit) : isBlank c = false := by
  have hrange : 48 ≤ c.toNat ∧ c.toNat ≤ 57 := Char.isDigit_iff_toNat.mp h
  simp only [isBlank, Bool.or_eq_false_iff, Bool.and_eq_false_iff, decide_eq_false_iff_not,
    beq_eq_false_iff_ne]
  omega

theorem skipBlanks_eq_self {cs : List Char} (h : ∀ c ∈ cs, isBlank c = false) :
    skipBlanks cs = cs := by
  cases cs with
  | nil => rfl
  | cons c cs =>
    rw [skipBlanks, List.dropWhile_cons_of_neg]
    rw [h c List.mem_cons_self]
    exact Bool.false_ne_true

/-- A text without blanks is not trimmed. -/
theorem trim_eq_self {s : String} (h : ∀ c ∈ s.toList, isBlank c = false) : trim s = s := by
  rw [trim, trimChars, skipBlanks_eq_self h,
    skipBlanks_eq_self fun c hc => h c (List.mem_reverse.mp hc), List.reverse_reverse,
    String.ofList_toList]

theorem isBlank_eq_false_of_mem_intText {i : Int} {c : Char} (h : c ∈ (intText i).toList) :
    isBlank c = false := by
  by_cases hdigit : c.isDigit
  · exact isBlank_eq_false_of_isDigit hdigit
  · have hsign : c = '-' := by
      by_contra hne
      exact notMem_intText (Bool.eq_false_iff.mpr hdigit) hne h
    rw [hsign]
    decide

/-! ## Two numbers with nothing between -/

theorem toList_intText_append_pad (i : Int) (width n : Nat) :
    (intText i ++ pad width n).toList = (intText i).toList ++ padChars width n := by
  rw [String.toList_append, pad, String.toList_ofList]

theorem trim_intText_append_pad (i : Int) (width n : Nat) :
    trim (intText i ++ pad width n) = intText i ++ pad width n := by
  refine trim_eq_self fun c hc => ?_
  rw [toList_intText_append_pad] at hc
  rcases List.mem_append.mp hc with hfront | hback
  · exact isBlank_eq_false_of_mem_intText hfront
  · exact isBlank_eq_false_of_isDigit (isDigit_of_mem_padChars hback)

end Text
end Almanac
