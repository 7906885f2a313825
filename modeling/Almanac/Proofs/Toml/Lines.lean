import Almanac.Proofs.Toml.Values

/-! # Lines that are written and read

A line that gives a value to a key is read as that statement (`Toml.ReadAs.assign`), and a header
as the header of its names (`Toml.ReadAs.header`).  What lines are read as does not depend on what
stands behind them, so the lines of a document can be read piece by piece
(`Toml.ReadAs.append`), and a document that is nothing but such pieces is read as their statements
(`Toml.documentStatements?_eq`).
-/
namespace Almanac.Toml

variable {a : Char} {cs more rest tail text : List Char} {name : String} {v : Value}

/-! ## Names -/

/-- A name begins with a mark or is bare. -/
theorem exists_nameChars (cs : List Char) :
    ∃ c tail, nameChars cs = c :: tail ∧ (c = '"' ∨ c = '\'' ∨ isBareKeyChar c = true) := by
  unfold nameChars
  dsimp only
  split_ifs with hbare
  · obtain ⟨c, tail, rfl⟩ := List.exists_cons_of_ne_nil hbare.1
    exact ⟨c, tail, rfl, .inr (.inr (List.all_eq_true.1 hbare.2 c List.mem_cons_self))⟩
  · exact ⟨'"', _, rfl, .inl rfl⟩
  · exact ⟨'\'', _, rfl, .inr (.inl rfl)⟩
  · exact ⟨'"', _, rfl, .inl rfl⟩

/-- What no name begins with. -/
structure Outside (a : Char) : Prop where
  not_quote : a ≠ '"'
  not_mark : a ≠ '\''
  not_bare : isBareKeyChar a = false

theorem nameChars_ne (h : Outside a) (cs : List Char) : nameChars cs ++ rest ≠ a :: tail := by
  intro heq
  obtain ⟨c, more, hmore, hc⟩ := exists_nameChars cs
  rw [hmore] at heq
  obtain ⟨rfl, -⟩ := List.cons.inj heq
  rcases hc with hquote | hmark | hbare
  · exact h.not_quote hquote
  · exact h.not_mark hmark
  · rw [h.not_bare] at hbare
    exact Bool.false_ne_true hbare

theorem nameChars_append_ne_nil (cs rest : List Char) : nameChars cs ++ rest ≠ [] := by
  obtain ⟨c, tail, htail, -⟩ := exists_nameChars cs
  rw [htail]
  exact List.cons_ne_nil _ _

theorem skipSpace_nameChars (cs rest : List Char) :
    skipSpace (nameChars cs ++ rest) = nameChars cs ++ rest := by
  have hspace : Outside ' ' := ⟨by decide, by decide, by decide⟩
  have htab : Outside '\t' := ⟨by decide, by decide, by decide⟩
  cases hcs : nameChars cs ++ rest with
  | nil => rfl
  | cons c tail =>
    refine skipSpace_of_not_space ?_ tail
    rw [isSpace, Bool.or_eq_false_iff, beq_eq_false_iff_ne, beq_eq_false_iff_ne]
    constructor
    · rintro rfl
      exact nameChars_ne hspace cs hcs
    · rintro rfl
      exact nameChars_ne htab cs hcs

/-- The names of a key with points between them. -/
def namesChars (names : List String) : List Char :=
  ['.'].intercalate (names.map fun name => nameChars name.toList)

theorem namesChars_cons_cons (name next : String) (names : List String) :
    namesChars (name :: next :: names) =
      nameChars name.toList ++ '.' :: namesChars (next :: names) := by
  simp [namesChars, List.intercalate_cons_cons]

theorem namesChars_singleton (name : String) : namesChars [name] = nameChars name.toList := by
  simp [namesChars]

/-- Names are read, and the blanks behind them, up to what is neither a name nor a point. -/
theorem names?_namesChars {limit : Nat} {names : List String} (hnil : names ≠ [])
    (hlimit : names.length ≤ limit) (hbare : ∀ c ∈ rest.head?, isBareKeyChar c = false)
    (hpoint : ∀ tail, skipSpace rest ≠ '.' :: tail) :
    names? limit (namesChars names ++ rest) = some (names, skipSpace rest) := by
  induction names generalizing limit with
  | nil => exact absurd rfl hnil
  | cons name names ih =>
    obtain ⟨limit, rfl⟩ := Nat.exists_eq_succ_of_ne_zero
      (Nat.ne_of_gt (Nat.lt_of_lt_of_le (Nat.succ_pos _) hlimit))
    cases names with
    | nil =>
      rw [namesChars_singleton, names?, skipSpace_nameChars, name?_nameChars hbare,
        String.ofList_toList]
      dsimp only
      split
      · rename_i heq
        exact absurd heq (hpoint _)
      · rfl
    | cons next names =>
      have hdot : ∀ c ∈ ('.' :: (namesChars (next :: names) ++ rest)).head?,
          isBareKeyChar c = false := by
        intro c hc
        obtain rfl : '.' = c := Option.some.inj hc
        decide
      rw [namesChars_cons_cons, List.append_assoc, List.cons_append, names?, skipSpace_nameChars,
        name?_nameChars hdot, String.ofList_toList]
      dsimp only
      rw [skipSpace_of_not_space (by decide)]
      show (names? limit _).map _ = _
      rw [ih (List.cons_ne_nil _ _) (Nat.le_of_succ_le_succ hlimit)]
      rfl

theorem path?_namesChars {parents : List String} (hlimit : parents.length < depthLimit)
    (hbare : ∀ c ∈ rest.head?, isBareKeyChar c = false)
    (hpoint : ∀ tail, skipSpace rest ≠ '.' :: tail) :
    path? (namesChars (parents ++ [name]) ++ rest) = some (⟨parents, name⟩, skipSpace rest) := by
  have hnil : parents ++ [name] ≠ [] :=
    List.append_ne_nil_of_right_ne_nil parents (List.cons_ne_nil name [])
  have hlength : (parents ++ [name]).length ≤ depthLimit := by
    rw [List.length_append]
    exact hlimit
  rw [path?, names?_namesChars hnil hlength hbare hpoint]
  simp

/-! ## One line -/

theorem lineEnd?_newline (tail : List Char) : lineEnd? ('\n' :: tail) = some tail :=
  rfl

/-- A line with a name is not empty. -/
theorem lineEnd?_nameChars (cs rest : List Char) : lineEnd? (nameChars cs ++ rest) = none := by
  have hcomment : Outside '#' := ⟨by decide, by decide, by decide⟩
  have hline : Outside '\n' := ⟨by decide, by decide, by decide⟩
  have hreturn : Outside '\r' := ⟨by decide, by decide, by decide⟩
  rw [lineEnd?, skipSpace_nameChars]
  split
  · rename_i heq
    exact absurd heq (nameChars_ne hcomment cs)
  · rw [newline?]
    · exact if_neg (nameChars_append_ne_nil cs rest)
    · exact fun _ => nameChars_ne hline cs
    · exact fun _ => nameChars_ne hreturn cs

theorem assignment?_assignLine (h : Reads text v) (tail : List Char) :
    assignment? (nameChars name.toList ++ ' ' :: '=' :: ' ' :: (text ++ '\n' :: tail)) =
      some (.assign ⟨[], name⟩ v, '\n' :: tail) := by
  have hpath : path? (nameChars name.toList ++ ' ' :: '=' :: ' ' :: (text ++ '\n' :: tail)) =
      some (⟨[], name⟩, '=' :: ' ' :: (text ++ '\n' :: tail)) := by
    rw [← namesChars_singleton, ← List.nil_append [name], path?_namesChars (by decide)]
    · rfl
    · intro c hc
      obtain rfl : ' ' = c := Option.some.inj hc
      decide
    · intro more heq
      exact absurd (List.cons.inj heq).1 (by decide)
  have hvalue := h.value?_eq (2 * (' ' :: (text ++ '\n' :: tail)).length + 1) tail
    (by simp only [List.length_cons, List.length_append]; omega)
  have hspace : skipSpace (' ' :: (text ++ '\n' :: tail)) = text ++ '\n' :: tail :=
    h.skipSpace_eq _
  rw [assignment?, hpath]
  show (value? _ depthLimit (skipSpace (' ' :: (text ++ '\n' :: tail)))).map _ = _
  rw [hspace, hvalue]
  rfl

/-- A line that begins with a name gives a value to a key. -/
theorem statement?_nameChars (cs rest : List Char) :
    statement? (nameChars cs ++ rest) =
      (assignment? (nameChars cs ++ rest)).map fun (s, rest) => (some s, rest) := by
  have hbracket : Outside '[' := ⟨by decide, by decide, by decide⟩
  rw [statement?, lineEnd?_nameChars]
  · rfl
  · exact fun _ => nameChars_ne hbracket cs
  · exact fun _ => nameChars_ne hbracket cs

theorem statement?_header {parents : List String} (name : String)
    (hlimit : parents.length < depthLimit) (tail : List Char) :
    statement? ('[' :: (namesChars (parents ++ [name]) ++ ']' :: '\n' :: tail)) =
      some (some (.header ⟨parents, name⟩), '\n' :: tail) := by
  have hbracket : Outside '[' := ⟨by decide, by decide, by decide⟩
  have hfirst : ∀ more, namesChars (parents ++ [name]) ++ ']' :: '\n' :: tail ≠ '[' :: more := by
    intro more
    cases parents with
    | nil =>
      rw [List.nil_append, namesChars_singleton]
      exact nameChars_ne hbracket name.toList
    | cons first parents =>
      rw [List.cons_append]
      cases hnext : parents ++ [name] with
      | nil =>
        exact absurd hnext (List.append_ne_nil_of_right_ne_nil parents (List.cons_ne_nil _ _))
      | cons next names =>
        rw [namesChars_cons_cons, List.append_assoc]
        exact nameChars_ne hbracket first.toList
  rw [statement?, path?_namesChars hlimit]
  · rfl
  · intro c hc
    obtain rfl : ']' = c := Option.some.inj hc
    decide
  · intro more heq
    exact absurd (List.cons.inj heq).1 (by decide)
  · exact hfirst

/-! ## Line after line -/

/-- **Lines are read as statements**, and then what stands behind them is read. -/
def ReadAs (cs : List Char) (found : List Statement) : Prop :=
  ∃ count ≤ cs.length, ∀ steps tail later, statements? steps tail = some later →
    statements? (count + steps) (cs ++ tail) = some (found ++ later)

/-- One line. -/
theorem statements?_line {s : Option Statement} {steps : Nat} {later : List Statement}
    (hnil : cs ≠ []) (hspace : skipSpace cs = cs) (hstatement : statement? cs = some (s, rest))
    (hend : lineEnd? rest = some tail) (hlater : statements? steps tail = some later) :
    statements? (1 + steps) cs = some (s.toList ++ later) := by
  rw [Nat.add_comm, statements?, hspace, hstatement, Option.bind_eq_bind, Option.bind_some]
  · dsimp only
    rw [hend, Option.bind_eq_bind, Option.bind_some, hlater]
    rfl
  · exact hnil

namespace ReadAs

theorem nil : ReadAs [] [] :=
  ⟨0, Nat.le_refl 0, fun steps tail later h => by rwa [Nat.zero_add]⟩

theorem append {found later : List Statement} (h : ReadAs cs found) (hmore : ReadAs more later) :
    ReadAs (cs ++ more) (found ++ later) := by
  obtain ⟨count, hcount, hread⟩ := h
  obtain ⟨further, hfurther, hthen⟩ := hmore
  refine ⟨count + further, ?_, fun steps tail rest hrest => ?_⟩
  · rw [List.length_append]
    omega
  · rw [List.append_assoc, List.append_assoc, Nat.add_assoc]
    exact hread _ _ _ (hthen _ _ _ hrest)

/-- A line that gives a value to a key. -/
theorem assign (name : String) (h : Reads text v) :
    ReadAs (assignLine name text) [.assign ⟨[], name⟩ v] := by
  refine ⟨1, ?_, fun steps tail later hlater => ?_⟩
  · rw [assignLine, List.length_append]
    exact Nat.le_add_left 1 _
  · have hshape : assignLine name text ++ tail =
        nameChars name.toList ++ ' ' :: '=' :: ' ' :: (text ++ '\n' :: tail) := by
      simp [assignLine]
    have hstatement :=
      statement?_nameChars name.toList (' ' :: '=' :: ' ' :: (text ++ '\n' :: tail))
    rw [assignment?_assignLine h] at hstatement
    rw [hshape]
    exact statements?_line (nameChars_append_ne_nil _ _) (skipSpace_nameChars _ _) hstatement
      (lineEnd?_newline tail) hlater

/-- A header behind an empty line. -/
theorem header (parents : List String) (name : String) (hlimit : parents.length < depthLimit) :
    ReadAs (headerLine (parents ++ [name])) [.header ⟨parents, name⟩] := by
  refine ⟨2, ?_, fun steps tail later hlater => ?_⟩
  · simp [headerLine]
  · have hshape : headerLine (parents ++ [name]) ++ tail =
        '\n' :: '[' :: (namesChars (parents ++ [name]) ++ ']' :: '\n' :: tail) := by
      simp [headerLine, namesChars]
    have hheader := statements?_line (List.cons_ne_nil _ _) rfl
      (statement?_header name hlimit tail) (lineEnd?_newline tail) hlater
    rw [hshape, show 2 + steps = 1 + (1 + steps) by omega]
    exact statements?_line (s := none) (List.cons_ne_nil _ _) rfl rfl (lineEnd?_newline _) hheader

end ReadAs

/-- **A document is read as the statements of its lines**, if it begins with no byte order
mark. -/
theorem documentStatements?_eq {found : List Statement} (h : ReadAs cs found)
    (hmark : ∀ tail, cs ≠ '\uFEFF' :: tail) : documentStatements? cs = some found := by
  obtain ⟨count, hcount, hread⟩ := h
  have hdone : statements? (cs.length - count + 1) [] = some [] := rfl
  have hall := hread _ _ _ hdone
  rw [List.append_nil, List.append_nil,
    show count + (cs.length - count + 1) = cs.length + 1 by omega] at hall
  rw [documentStatements?]
  · exact hall
  · exact fun _ => hmark _

end Almanac.Toml
