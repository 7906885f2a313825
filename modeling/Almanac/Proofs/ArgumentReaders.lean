import Almanac.Proofs.Numerals
import Almanac.Range.Argument

/-! # Years, months and weeks in arguments

A year is read from four digits, a month from a year and two digits from 1 to 12, and a week from
a year and two digits from 1 to 53.  The two numbers stand side by side or with a hyphen between
them, behind which the number of a week has a `W` of either case (`year?_eq_some_iff`,
`yearMonth?_eq_some_iff`, `yearWeek?_eq_some_iff`).
-/
namespace Almanac
namespace Argument

open Text (Writes)

variable {cs : List Char} {y : Int} {max m n : Nat}

theorem year?_eq_some_iff : year? cs = some y ↔ ∃ k : Nat, y = k ∧ Writes 4 k cs := by
  simp only [year?, Text.writes_iff (show 0 < 4 by decide)]
  by_cases hlength : cs.length = 4
  · rw [if_pos hlength]
    cases Text.readNat? cs with
    | none => simp
    | some k =>
      constructor
      · rintro ⟨⟩
        exact ⟨k, rfl, hlength, rfl⟩
      · rintro ⟨_, rfl, -, hread⟩
        obtain rfl := Option.some.inj hread
        rfl
  · rw [if_neg hlength]
    simp [hlength]

theorem numberUpTo?_eq_some_iff :
    numberUpTo? max cs = some n ↔ Writes 2 n cs ∧ 1 ≤ n ∧ n ≤ max := by
  rw [numberUpTo?, Text.writes_iff (by decide)]
  by_cases hlength : cs.length = 2
  · rw [if_pos hlength, and_iff_right hlength]
    cases Text.readNat? cs with
    | none => simp
    | some k =>
      dsimp only
      by_cases hk : 1 ≤ k ∧ k ≤ max
      · rw [if_pos hk]
        constructor
        · rintro ⟨⟩
          exact ⟨rfl, hk⟩
        · exact fun h => h.1
      · rw [if_neg hk]
        constructor
        · intro h
          cases h
        · rintro ⟨hread, hn⟩
          obtain rfl := Option.some.inj hread
          exact absurd hn hk
  · rw [if_neg hlength]
    simp [hlength]

/-- A month is read behind the four digits of the year, with or without a hyphen. -/
theorem yearMonth?_append {ys ms hyphen : List Char} (hyear : ys.length = 4)
    (hyphen_mem : hyphen = [] ∨ hyphen = ['-']) (hne : ∀ rest, ms ≠ '-' :: rest) :
    yearMonth? (ys ++ (hyphen ++ ms)) =
      (year? ys).bind fun y => (numberUpTo? 12 ms).bind fun m => some (y, m) := by
  rw [yearMonth?, List.take_left' hyear, List.drop_left' hyear]
  rcases hyphen_mem with rfl | rfl
  · rw [List.nil_append]
    split
    · exact absurd rfl (hne _)
    · rfl
  · rfl

theorem yearMonth?_eq_some_iff :
    yearMonth? cs = some (y, m) ↔ ∃ (k : Nat) (ys ms hyphen : List Char), y = k ∧
      cs = ys ++ (hyphen ++ ms) ∧ (Writes 4 k ys ∧ Writes 2 m ms) ∧
        (hyphen = [] ∨ hyphen = ['-']) ∧ 1 ≤ m ∧ m ≤ 12 := by
  constructor
  · intro h
    simp only [yearMonth?, bind, pure, Option.bind_eq_some_iff, Option.some.injEq,
      Prod.mk.injEq] at h
    obtain ⟨_, hread, _, hmonth, rfl, rfl⟩ := h
    obtain ⟨k, rfl, hyear⟩ := year?_eq_some_iff.mp hread
    obtain ⟨hmonth, hm⟩ := numberUpTo?_eq_some_iff.mp hmonth
    have hcs := List.take_append_drop 4 cs
    split at hmonth
    · rename_i ms hrest
      rw [hrest] at hcs
      exact ⟨k, _, ms, ['-'], rfl, hcs.symm, ⟨hyear, hmonth⟩, .inr rfl, hm⟩
    · exact ⟨k, _, _, [], rfl, hcs.symm, ⟨hyear, hmonth⟩, .inl rfl, hm⟩
  · rintro ⟨k, ys, ms, hyphen, rfl, rfl, ⟨hyear, hmonth⟩, hyphen_mem, hm⟩
    rw [yearMonth?_append hyear.length hyphen_mem hmonth.ne_hyphen,
      year?_eq_some_iff.mpr ⟨k, rfl, hyear⟩, numberUpTo?_eq_some_iff.mpr ⟨hmonth, hm⟩]
    rfl

/-- A week is read behind the four digits of the year, with or without a mark. -/
theorem yearWeek?_append {ys ws mark : List Char} (hyear : ys.length = 4)
    (mark_mem : mark = [] ∨ mark = ['-', 'W'] ∨ mark = ['-', 'w'])
    (hne : ∀ rest, ws ≠ '-' :: rest) :
    yearWeek? (ys ++ (mark ++ ws)) =
      (year? ys).bind fun y => (numberUpTo? 53 ws).bind fun w => some (y, w) := by
  rw [yearWeek?, List.take_left' hyear, List.drop_left' hyear]
  rcases mark_mem with rfl | rfl | rfl
  · rw [List.nil_append]
    split
    · exact absurd rfl (hne _)
    · exact absurd rfl (hne _)
    · rfl
  · rfl
  · rfl

theorem yearWeek?_eq_some_iff :
    yearWeek? cs = some (y, n) ↔ ∃ (k : Nat) (ys ws mark : List Char), y = k ∧
      cs = ys ++ (mark ++ ws) ∧ (Writes 4 k ys ∧ Writes 2 n ws) ∧
        (mark = [] ∨ mark = ['-', 'W'] ∨ mark = ['-', 'w']) ∧ 1 ≤ n ∧ n ≤ 53 := by
  constructor
  · intro h
    simp only [yearWeek?, bind, pure, Option.bind_eq_some_iff, Option.some.injEq,
      Prod.mk.injEq] at h
    obtain ⟨_, hread, _, hweek, rfl, rfl⟩ := h
    obtain ⟨k, rfl, hyear⟩ := year?_eq_some_iff.mp hread
    obtain ⟨hweek, hn⟩ := numberUpTo?_eq_some_iff.mp hweek
    have hcs := List.take_append_drop 4 cs
    split at hweek
    · rename_i ws hrest
      rw [hrest] at hcs
      exact ⟨k, _, ws, ['-', 'W'], rfl, hcs.symm, ⟨hyear, hweek⟩, .inr (.inl rfl), hn⟩
    · rename_i ws hrest
      rw [hrest] at hcs
      exact ⟨k, _, ws, ['-', 'w'], rfl, hcs.symm, ⟨hyear, hweek⟩, .inr (.inr rfl), hn⟩
    · exact ⟨k, _, _, [], rfl, hcs.symm, ⟨hyear, hweek⟩, .inl rfl, hn⟩
  · rintro ⟨k, ys, ws, mark, rfl, rfl, ⟨hyear, hweek⟩, mark_mem, hn⟩
    rw [yearWeek?_append hyear.length mark_mem hweek.ne_hyphen,
      year?_eq_some_iff.mpr ⟨k, rfl, hyear⟩, numberUpTo?_eq_some_iff.mpr ⟨hweek, hn⟩]
    rfl

/-! ## The numbers that are read -/

/-- A year of an argument has four digits. -/
theorem mem_of_year? (h : year? cs = some y) : 0 ≤ y ∧ y ≤ 9999 := by
  obtain ⟨k, rfl, hyear⟩ := year?_eq_some_iff.mp h
  have hlt := hyear.lt
  omega

theorem mem_of_yearMonth? (h : yearMonth? cs = some (y, m)) :
    (0 ≤ y ∧ y ≤ 9999) ∧ 1 ≤ m ∧ m ≤ 12 := by
  obtain ⟨k, ys, ms, hyphen, rfl, -, ⟨hyear, -⟩, -, hm⟩ := yearMonth?_eq_some_iff.mp h
  have hlt := hyear.lt
  exact ⟨by omega, hm⟩

theorem mem_of_yearWeek? (h : yearWeek? cs = some (y, n)) : 0 ≤ y ∧ y ≤ 9999 := by
  obtain ⟨k, ys, ws, mark, rfl, -, ⟨hyear, -⟩, -⟩ := yearWeek?_eq_some_iff.mp h
  have hlt := hyear.lt
  omega

end Argument
end Almanac
