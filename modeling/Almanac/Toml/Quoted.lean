import Almanac.Text.Hex
import Almanac.Text.Pieces

/-! # Texts in TOML

The four ways to write a text: between quotes or apostrophes, on one line or between
tripled ones over several.  Between quotes a backslash starts an escape; between
apostrophes every character stands for itself.
-/
namespace Almanac.Toml

/-- A character that may stand in a text as it is: no control character but the tab. -/
def isPlain (c : Char) : Bool :=
  c == '\t' || 32 ≤ c.toNat && c != '\x7f'

/-- The character whose code is a run of hexadecimal digits. -/
def codeChar? (digits : List Char) : Option Char :=
  match Text.hexNumber? digits with
  | some n => if n < 0xD800 ∨ 0xE000 ≤ n ∧ n < 0x110000 then some (Char.ofNat n) else none
  | none => none

/-- The character of an escape with a letter. -/
def letterEscape? : Char → Option Char
  | 'b' => some '\x08'
  | 't' => some '\t'
  | 'n' => some '\n'
  | 'f' => some '\x0c'
  | 'r' => some '\r'
  | '"' => some '"'
  | '\\' => some '\\'
  | _ => none

/-- The character of an escape, behind its backslash, with the rest. -/
def escape? : List Char → Option (Char × List Char)
  | 'u' :: rest =>
    if 4 ≤ rest.length then (codeChar? (rest.take 4)).map fun c => (c, rest.drop 4) else none
  | 'U' :: rest =>
    if 8 ≤ rest.length then (codeChar? (rest.take 8)).map fun c => (c, rest.drop 8) else none
  | c :: rest => (letterEscape? c).map fun c => (c, rest)
  | [] => none

theorem length_of_escape {cs rest : List Char} {c : Char} (h : escape? cs = some (c, rest)) :
    rest.length < cs.length := by
  unfold escape? at h
  split at h
  · split at h
    · obtain ⟨_, _, h⟩ := Option.map_eq_some_iff.1 h
      obtain ⟨rfl, rfl⟩ := Prod.mk.inj h
      simp only [List.length_drop, List.length_cons]
      omega
    · cases h
  · split at h
    · obtain ⟨_, _, h⟩ := Option.map_eq_some_iff.1 h
      obtain ⟨rfl, rfl⟩ := Prod.mk.inj h
      simp only [List.length_drop, List.length_cons]
      omega
    · cases h
  · obtain ⟨_, _, h⟩ := Option.map_eq_some_iff.1 h
    obtain ⟨rfl, rfl⟩ := Prod.mk.inj h
    exact Nat.lt_succ_self _
  · cases h

/-- A text behind its quote, up to the closing one. -/
def basic? (cs : List Char) : Option (List Char × List Char) :=
  match cs with
  | [] => none
  | '"' :: rest => some ([], rest)
  | '\\' :: rest =>
    match _h : escape? rest with
    | some (c, rest) => (basic? rest).map fun (cs, rest) => (c :: cs, rest)
    | none => none
  | c :: rest =>
    if isPlain c then (basic? rest).map fun (cs, rest) => (c :: cs, rest) else none
termination_by cs.length
decreasing_by
  · have := length_of_escape _h
    simp only [List.length_cons]
    omega
  · exact Nat.lt_succ_self _

/-- A text behind its apostrophe, up to the closing one. -/
def literal? : List Char → Option (List Char × List Char)
  | [] => none
  | '\'' :: rest => some ([], rest)
  | c :: rest =>
    if isPlain c then (literal? rest).map fun (cs, rest) => (c :: cs, rest) else none

/-- A text without the line end in front. -/
def newline? : List Char → Option (List Char)
  | '\n' :: rest => some rest
  | '\r' :: '\n' :: rest => some rest
  | _ => none

/-- A text without the line end in front, if there is one. -/
def skipNewline (cs : List Char) : List Char :=
  (newline? cs).getD cs

/-- Blanks within a line. -/
def isSpace (c : Char) : Bool :=
  c == ' ' || c == '\t'

/-- A text without the blanks in front that do not end the line. -/
def skipSpace (cs : List Char) : List Char :=
  cs.dropWhile isSpace

/-- Blanks and line ends in front of a text are dropped; a carriage return counts only
before a line feed. -/
def skipLines : List Char → List Char
  | [] => []
  | '\r' :: '\n' :: rest => skipLines rest
  | c :: rest => if isSpace c ∨ c = '\n' then skipLines rest else c :: rest

/-- What a backslash at the end of a line hides: the line end and all blanks after it. -/
def lineJoin? (cs : List Char) : Option (List Char) :=
  (newline? (skipSpace cs)).map skipLines

theorem length_skipSpace (cs : List Char) : (skipSpace cs).length ≤ cs.length :=
  (List.dropWhile_suffix _).sublist.length_le

theorem length_skipLines (cs : List Char) : (skipLines cs).length ≤ cs.length := by
  fun_induction skipLines cs with
  | case1 => exact Nat.le_refl _
  | case2 rest ih => exact Nat.le_trans ih (Nat.le_add_right _ 2)
  | case3 c rest _ _ ih => exact Nat.le_trans ih (Nat.le_add_right _ 1)
  | case4 => exact Nat.le_refl _

theorem length_of_newline {cs rest : List Char} (h : newline? cs = some rest) :
    rest.length < cs.length := by
  unfold newline? at h
  split at h
  · cases h
    exact Nat.lt_succ_self _
  · cases h
    simp only [List.length_cons]
    omega
  · cases h

theorem length_of_lineJoin {cs rest : List Char} (h : lineJoin? cs = some rest) :
    rest.length < cs.length := by
  obtain ⟨r, hr, rfl⟩ := Option.map_eq_some_iff.1 h
  have := length_of_newline hr
  have := length_skipSpace cs
  have := length_skipLines r
  omega

/-- The end of a text between tripled marks: the closing three, with up to two marks of
the text before them.  Returned are the marks of the text and the rest. -/
def closing? (mark : Char) : List Char → Option (List Char × List Char)
  | a :: b :: c :: rest =>
    if a = mark ∧ b = mark ∧ c = mark then
      match rest with
      | d :: e :: rest =>
        if d = mark ∧ e = mark then some ([mark, mark], rest)
        else if d = mark then some ([mark], e :: rest)
        else some ([], d :: e :: rest)
      | [d] => if d = mark then some ([mark], []) else some ([], [d])
      | [] => some ([], [])
    else none
  | _ => none

/-- A text over several lines behind its tripled quotes, up to the closing ones.  A line
end is always a line feed in the text. -/
def multiBasic? (cs : List Char) : Option (List Char × List Char) :=
  match closing? '"' cs with
  | some end_ => some end_
  | none =>
    match cs with
    | [] => none
    | '\r' :: '\n' :: rest => (multiBasic? rest).map fun (cs, rest) => ('\n' :: cs, rest)
    | '\\' :: rest =>
      match _h : escape? rest with
      | some (c, rest) => (multiBasic? rest).map fun (cs, rest) => (c :: cs, rest)
      | none =>
        match _h : lineJoin? rest with
        | some rest => multiBasic? rest
        | none => none
    | c :: rest =>
      if c = '\n' ∨ isPlain c then (multiBasic? rest).map fun (cs, rest) => (c :: cs, rest)
      else none
termination_by cs.length
decreasing_by
  · simp only [List.length_cons]
    omega
  · have := length_of_escape _h
    simp only [List.length_cons]
    omega
  · have := length_of_lineJoin _h
    simp only [List.length_cons]
    omega
  · exact Nat.lt_succ_self _

/-- A text over several lines behind its tripled apostrophes, up to the closing ones. -/
def multiLiteral? (cs : List Char) : Option (List Char × List Char) :=
  match closing? '\'' cs with
  | some end_ => some end_
  | none =>
    match cs with
    | [] => none
    | '\r' :: '\n' :: rest => (multiLiteral? rest).map fun (cs, rest) => ('\n' :: cs, rest)
    | c :: rest =>
      if c = '\n' ∨ isPlain c then (multiLiteral? rest).map fun (cs, rest) => (c :: cs, rest)
      else none
termination_by cs.length
decreasing_by
  · simp only [List.length_cons]
    omega
  · exact Nat.lt_succ_self _

/-- A text in any of the four ways.  A line end right behind tripled marks does not
count. -/
def string? : List Char → Option (List Char × List Char)
  | '"' :: '"' :: '"' :: rest => multiBasic? (skipNewline rest)
  | '"' :: rest => basic? rest
  | '\'' :: '\'' :: '\'' :: rest => multiLiteral? (skipNewline rest)
  | '\'' :: rest => literal? rest
  | _ => none

end Almanac.Toml
