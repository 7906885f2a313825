import Almanac.Toml.Writer
import Mathlib.Data.List.Infix

/-! # Texts that are written and read

A text is written in one of five ways, and each is read back as that text, whatever stands
behind it but another mark (`Toml.string?_textChars`); and so is a name
(`Toml.name?_nameChars`).

Between quotes every character is written as itself or as an escape, and the reader takes one
character for each (`Toml.basic?_encode`, `Toml.multiBasic?_encode`).  Only quotes are written two
in a row between tripled ones: the reader has to see what comes behind a run of quotes before it
knows whose they are, so they are read as a run (`Toml.multiBasic?_quotes`).  Between tripled
apostrophes nothing is escaped, but the writer takes them only for texts without three in a row
(`Toml.not_three_of_longestRun`).
-/
namespace Almanac.Toml

variable {c : Char} {cs rest : List Char}

/-- What is read in front of what is read later. -/
def prepend (front : List Char) (found : List Char × List Char) : List Char × List Char :=
  (front ++ found.1, found.2)

theorem prepend_nil : prepend [] = id :=
  funext fun _ => rfl

/-- Whether a text begins with neither of the two marks. -/
def Unmarked (rest : List Char) : Prop :=
  ∀ c ∈ rest.head?, c ≠ '"' ∧ c ≠ '\''

/-! ## Escapes -/

theorem codeChar?_hexChars {n : Nat} (h : n < 128) :
    codeChar? (Text.hexChars 4 n) = some (Char.ofNat n) ∧ (Text.hexChars 4 n).length = 4 := by
  have hall : ∀ n < 128,
      codeChar? (Text.hexChars 4 n) = some (Char.ofNat n) ∧ (Text.hexChars 4 n).length = 4 := by
    decide +kernel
  exact hall n h

/-- Only ASCII has control characters. -/
theorem toNat_lt_of_not_plain (h : isPlain c = false) : c.toNat < 128 := by
  rw [isPlain, Bool.or_eq_false_iff, Bool.and_eq_false_iff, decide_eq_false_iff_not] at h
  rcases h.2 with hlow | hdelete
  · omega
  · have heq : c = '\x7f' := by simpa using hdelete
    rw [heq]
    decide

/-- An escape of a control character is read as that character. -/
theorem exists_controlEscape (h : c.toNat < 128) :
    ∃ body, controlEscape c = '\\' :: body ∧ ∀ rest, escape? (body ++ rest) = some (c, rest) := by
  unfold controlEscape
  split
  · exact ⟨['b'], rfl, fun rest => rfl⟩
  · exact ⟨['t'], rfl, fun rest => rfl⟩
  · exact ⟨['n'], rfl, fun rest => rfl⟩
  · exact ⟨['f'], rfl, fun rest => rfl⟩
  · exact ⟨['r'], rfl, fun rest => rfl⟩
  · obtain ⟨hread, hlength⟩ := codeChar?_hexChars h
    refine ⟨'u' :: Text.hexChars 4 c.toNat, rfl, fun rest => ?_⟩
    rw [List.cons_append, escape?, List.length_append, hlength, if_pos (Nat.le_add_right 4 _),
      List.take_left' hlength, List.drop_left' hlength, hread, Char.ofNat_toNat]
    rfl

/-- A character as it is written between quotes, if it is not a quote that stands for itself. -/
def encode (lines : Bool) (c : Char) : List Char :=
  if c = '"' then ['\\', '"']
  else if c = '\\' then ['\\', '\\']
  else if c = '\n' ∧ lines then ['\n']
  else if c = '\t' ∨ !isPlain c then controlEscape c
  else [c]

theorem escapeChars_cons (marks : Nat) (lines : Bool) (run : Nat) (c : Char) (cs : List Char) :
    escapeChars marks lines run (c :: cs) =
      if c = '"' ∧ run < marks then '"' :: escapeChars marks lines (run + 1) cs
      else encode lines c ++ escapeChars marks lines 0 cs := by
  rw [escapeChars, encode]
  split_ifs <;> first | rfl | simp_all

/-- A character is written as an escape or as itself. -/
theorem encode_cases (lines : Bool) (c : Char) :
    (∃ body, encode lines c = '\\' :: body ∧ ∀ rest, escape? (body ++ rest) = some (c, rest)) ∨
      encode lines c = [c] ∧ (c ≠ '"' ∧ c ≠ '\\') ∧
        (isPlain c = true ∨ c = '\n' ∧ lines = true) := by
  unfold encode
  by_cases hquote : c = '"'
  · subst hquote
    exact .inl ⟨['"'], rfl, fun rest => rfl⟩
  · by_cases hbackslash : c = '\\'
    · subst hbackslash
      exact .inl ⟨['\\'], rfl, fun rest => rfl⟩
    · rw [if_neg hquote, if_neg hbackslash]
      by_cases hline : c = '\n' ∧ lines = true
      · rw [if_pos hline, hline.1]
        exact .inr ⟨rfl, by decide, .inr ⟨rfl, hline.2⟩⟩
      · rw [if_neg hline]
        by_cases hcontrol : c = '\t' ∨ (!isPlain c) = true
        · rw [if_pos hcontrol]
          refine .inl (exists_controlEscape ?_)
          rcases hcontrol with rfl | hcontrol
          · decide
          · exact toNat_lt_of_not_plain (by simpa using hcontrol)
        · rw [if_neg hcontrol]
          rw [not_or] at hcontrol
          exact .inr ⟨rfl, ⟨hquote, hbackslash⟩, .inl (by simpa using hcontrol.2)⟩

/-! ## Between quotes -/

/-- A character is read as it is written. -/
theorem basic?_encode (c : Char) (rest : List Char) :
    basic? (encode false c ++ rest) = (basic? rest).map (prepend [c]) := by
  rcases encode_cases false c with ⟨body, hbody, hescape⟩ | ⟨hself, ⟨hquote, hbackslash⟩, hplain⟩
  · rw [hbody, List.cons_append, basic?]
    split
    · rename_i found hfound
      obtain ⟨rfl, rfl⟩ := Prod.mk.inj (Option.some.inj (hfound.symm.trans (hescape rest)))
      rfl
    · rename_i hnone
      rw [hescape] at hnone
      cases hnone
  · have hplain : isPlain c = true := hplain.resolve_right fun h => Bool.false_ne_true h.2
    rw [hself, List.singleton_append, basic?, if_pos hplain]
    · rfl
    · exact hquote
    · exact hbackslash

/-- **A text between quotes** is read as that text. -/
theorem basic?_escapeChars (cs rest : List Char) :
    basic? (escapeChars 0 false 0 cs ++ '"' :: rest) = some (cs, rest) := by
  induction cs with
  | nil => rw [escapeChars, List.nil_append, basic?]
  | cons c cs ih =>
    rw [escapeChars_cons, if_neg fun h => Nat.lt_irrefl 0 h.2, List.append_assoc, basic?_encode, ih]
    rfl

/-! ## Between tripled quotes -/

theorem closing?_of_ne {mark d : Char} (h : d ≠ mark) (rest : List Char) :
    closing? mark (d :: rest) = none := by
  unfold closing?
  split
  · rename_i heq
    obtain ⟨rfl, -⟩ := List.cons.inj heq
    rw [if_neg fun hmarks => h hmarks.1]
  · rfl

/-- A character that is no mark, read over several lines. -/
theorem multiBasic?_encode (c : Char) (rest : List Char) :
    multiBasic? (encode true c ++ rest) = (multiBasic? rest).map (prepend [c]) := by
  rcases encode_cases true c with ⟨body, hbody, hescape⟩ | ⟨hself, ⟨hquote, hbackslash⟩, hplain⟩
  · rw [hbody, List.cons_append, multiBasic?, closing?_of_ne (by decide)]
    dsimp only
    split
    · rename_i found hfound
      obtain ⟨rfl, rfl⟩ := Prod.mk.inj (Option.some.inj (hfound.symm.trans (hescape rest)))
      rfl
    · rename_i hnone
      rw [hescape] at hnone
      cases hnone
  · have hstands : c = '\n' ∨ isPlain c = true := hplain.symm.imp_left And.left
    have hreturn : c ≠ '\r' := by
      rintro rfl
      exact absurd hstands (by decide)
    rw [hself, List.singleton_append, multiBasic?, closing?_of_ne hquote]
    dsimp only
    rw [if_pos hstands]
    · rfl
    · exact fun _ heq => absurd heq hreturn
    · exact hbackslash

/-- A mark with fewer than two marks behind it does not close a text. -/
theorem closing?_pair {mark d : Char} (hd : d ≠ mark) (rest : List Char) :
    closing? mark (mark :: d :: rest) = none ∧
      closing? mark (mark :: mark :: d :: rest) = none := by
  constructor
  · cases rest <;> simp [closing?, hd]
  · simp [closing?, hd]

/-- A quote that does not close the text is one of it. -/
theorem multiBasic?_quote (h : closing? '"' ('"' :: rest) = none) :
    multiBasic? ('"' :: rest) = (multiBasic? rest).map (prepend ['"']) := by
  rw [multiBasic?, h]
  · rfl
  · exact fun _ heq => absurd heq (by decide)
  · decide

/-- A run of up to two quotes before something else. -/
theorem multiBasic?_quotes {run : Nat} (hrun : run ≤ 2) (hc : c ≠ '"') (rest : List Char) :
    multiBasic? (List.replicate run '"' ++ c :: rest) =
      (multiBasic? (c :: rest)).map (prepend (List.replicate run '"')) := by
  obtain ⟨hone, htwo⟩ := closing?_pair hc rest
  have hfirst := multiBasic?_quote hone
  match run, hrun with
  | 0, _ =>
    rw [List.replicate_zero, prepend_nil, Option.map_id]
    rfl
  | 1, _ => exact hfirst
  | 2, _ =>
    show multiBasic? ('"' :: '"' :: c :: rest) = _
    rw [multiBasic?_quote htwo, hfirst, Option.map_map]
    rfl

/-- The closing quotes behind a run of up to two. -/
theorem closing?_quotes {mark : Char} {run : Nat} (hrun : run ≤ 2) (hrest : mark ∉ rest.head?) :
    closing? mark (List.replicate run mark ++ [mark, mark, mark] ++ rest) =
      some (List.replicate run mark, rest) := by
  cases rest with
  | nil =>
    match run, hrun with
    | 0, _ => simp [closing?]
    | 1, _ => simp [closing?]
    | 2, _ => simp [closing?]
  | cons d rest =>
    have hd : d ≠ mark := fun heq => hrest (by simp [heq])
    match run, hrun with
    | 0, _ => cases rest <;> simp [closing?, hd]
    | 1, _ => simp [closing?, hd]
    | 2, _ => simp [closing?]

/-- **A text between tripled quotes** is read as that text, with the run of quotes just before
it. -/
theorem multiBasic?_escapeChars {run : Nat} (hrun : run ≤ 2) (hrest : '"' ∉ rest.head?)
    (cs : List Char) :
    multiBasic? (List.replicate run '"' ++ (escapeChars 2 true run cs ++ ['"', '"', '"'] ++ rest)) =
      some (List.replicate run '"' ++ cs, rest) := by
  induction cs generalizing run with
  | nil =>
    rw [escapeChars, List.nil_append, ← List.append_assoc, multiBasic?.eq_def,
      closing?_quotes hrun hrest, List.append_nil]
  | cons c cs ih =>
    rw [escapeChars_cons]
    by_cases hmark : c = '"' ∧ run < 2
    · have hmore := ih (Nat.succ_le_of_lt hmark.2)
      rw [if_pos hmark, hmark.1]
      simp only [List.replicate_succ', List.append_assoc, List.cons_append] at hmore ⊢
      exact hmore
    · rw [if_neg hmark, List.append_assoc, List.append_assoc]
      have hplain := ih (Nat.zero_le 2)
      rw [List.replicate_zero, List.nil_append, List.nil_append] at hplain
      -- The written character does not begin with a quote, so the run ends before it.
      obtain ⟨d, body, hbody, hd⟩ : ∃ d body, encode true c = d :: body ∧ d ≠ '"' := by
        rcases encode_cases true c with ⟨body, hbody, -⟩ | ⟨hself, ⟨hquote, -⟩, -⟩
        · exact ⟨'\\', body, hbody, by decide⟩
        · exact ⟨c, [], hself, hquote⟩
      have hread := multiBasic?_encode c (escapeChars 2 true 0 cs ++ (['"', '"', '"'] ++ rest))
      rw [hbody, List.cons_append] at hread ⊢
      rw [multiBasic?_quotes hrun hd, hread, ← List.append_assoc, hplain]
      rfl

/-! ## Between apostrophes -/

/-- **A text between apostrophes** is read as that text, if it has none. -/
theorem literal?_append (hplain : ∀ c ∈ cs, isPlain c = true) (hmark : '\'' ∉ cs)
    (rest : List Char) : literal? (cs ++ '\'' :: rest) = some (cs, rest) := by
  induction cs with
  | nil => rfl
  | cons c cs ih =>
    have hc : c ≠ '\'' := fun heq => hmark (heq ▸ List.mem_cons_self)
    have hrest := ih (fun d hd => hplain d (List.mem_cons_of_mem c hd))
      fun hd => hmark (List.mem_cons_of_mem c hd)
    rw [List.cons_append, literal?, if_pos (hplain c List.mem_cons_self), hrest]
    · rfl
    · exact hc

/-- Marks that are not three in a row do not close a text before its end. -/
theorem closing?_eq_none {mark : Char} (hthree : ¬[mark, mark, mark] <:+: cs)
    (hrun : ∀ run ≤ 2, cs ≠ List.replicate run mark) (rest : List Char) :
    closing? mark (cs ++ [mark, mark, mark] ++ rest) = none := by
  match cs, hrun with
  | [], hrun => exact absurd rfl (hrun 0 (by decide))
  | [a], hrun =>
    have ha : a ≠ mark := fun heq => hrun 1 (by decide) (heq ▸ rfl)
    exact closing?_of_ne ha _
  | [a, b], hrun =>
    by_cases ha : a = mark
    · have hb : b ≠ mark := fun heq => hrun 2 (by decide) (by rw [ha, heq]; rfl)
      rw [ha]
      exact (closing?_pair hb _).1
    · exact closing?_of_ne ha _
  | a :: b :: d :: cs, _ =>
    refine if_neg ?_
    rintro ⟨rfl, rfl, rfl⟩
    exact hthree (List.IsPrefix.isInfix ⟨cs, rfl⟩)

/-- **A text between tripled apostrophes** is read as that text, if it has no three in a row. -/
theorem multiLiteral?_append (hplain : ∀ c ∈ cs, c = '\n' ∨ isPlain c = true)
    (hthree : ¬['\'', '\'', '\''] <:+: cs) (hrest : '\'' ∉ rest.head?) :
    multiLiteral? (cs ++ ['\'', '\'', '\''] ++ rest) = some (cs, rest) := by
  induction cs with
  | nil =>
    have hclosing := closing?_quotes (Nat.zero_le 2) hrest
    rw [List.replicate_zero, List.nil_append] at hclosing
    rw [List.nil_append, multiLiteral?.eq_def, hclosing]
  | cons c cs ih =>
    by_cases hrun : ∃ run ≤ 2, c :: cs = List.replicate run '\''
    · obtain ⟨run, hle, heq⟩ := hrun
      rw [heq, multiLiteral?.eq_def, closing?_quotes hle hrest]
    · have hnone := closing?_eq_none hthree (fun run hle heq => hrun ⟨run, hle, heq⟩) rest
      have hc := hplain c List.mem_cons_self
      have hreturn : c ≠ '\r' := by
        rintro rfl
        exact absurd hc (by decide)
      have hlater := ih (fun d hd => hplain d (List.mem_cons_of_mem c hd))
        fun hin => hthree (hin.trans (List.suffix_cons c cs).isInfix)
      rw [List.cons_append, List.cons_append] at hnone ⊢
      rw [multiLiteral?, hnone]
      dsimp only
      rw [if_pos hc, hlater]
      · rfl
      · exact fun _ heq => absurd heq hreturn

/-! ## The writer's choice -/

/-- The run of marks in which a text ends and the longest one so far, one character on. -/
def runStep (mark : Char) : Nat × Nat → Char → Nat × Nat :=
  fun (run, longest) c => if c = mark then (run + 1, max longest (run + 1)) else (0, longest)

theorem longestRun_eq (mark : Char) (cs : List Char) :
    longestRun mark cs = (cs.foldl (runStep mark) (0, 0)).2 :=
  rfl

/-- The last run is no longer than the longest, which only grows. -/
theorem foldl_runStep (mark : Char) (cs : List Char) (runs : Nat × Nat) (hle : runs.1 ≤ runs.2) :
    (cs.foldl (runStep mark) runs).1 ≤ (cs.foldl (runStep mark) runs).2 ∧
      runs.2 ≤ (cs.foldl (runStep mark) runs).2 := by
  induction cs generalizing runs with
  | nil => exact ⟨hle, le_rfl⟩
  | cons c cs ih =>
    have hstep : (runStep mark runs c).1 ≤ (runStep mark runs c).2 ∧
        runs.2 ≤ (runStep mark runs c).2 := by
      rw [runStep]
      split_ifs
      · exact ⟨Nat.le_max_right _ _, Nat.le_max_left _ _⟩
      · exact ⟨Nat.zero_le _, le_rfl⟩
    obtain ⟨hlast, hgrows⟩ := ih (runStep mark runs c) hstep.1
    exact ⟨hlast, hstep.2.trans hgrows⟩

theorem foldl_runStep_replicate (mark : Char) (n : Nat) (runs : Nat × Nat) :
    ((List.replicate n mark).foldl (runStep mark) runs).1 = runs.1 + n := by
  induction n generalizing runs with
  | zero => rfl
  | succ n ih =>
    rw [List.replicate_succ, List.foldl_cons, ih, runStep, if_pos rfl]
    dsimp only
    omega

/-- A run of marks in a text is no longer than the longest. -/
theorem le_longestRun {mark : Char} {n : Nat} (h : List.replicate n mark <:+: cs) :
    n ≤ longestRun mark cs := by
  obtain ⟨front, back, rfl⟩ := h
  rw [longestRun_eq, List.foldl_append, List.foldl_append]
  have hfront := (foldl_runStep mark front (0, 0) le_rfl).1
  generalize front.foldl (runStep mark) (0, 0) = before at hfront ⊢
  have hrun := (foldl_runStep mark (List.replicate n mark) before hfront).1
  have hback := (foldl_runStep mark back _ hrun).2
  rw [foldl_runStep_replicate] at hrun
  omega

theorem not_mem_of_longestRun {mark : Char} (h : longestRun mark cs = 0) : mark ∉ cs := by
  intro hmem
  obtain ⟨front, back, rfl⟩ := List.append_of_mem hmem
  have hone : List.replicate 1 mark <:+: front ++ mark :: back := ⟨front, back, by simp⟩
  have hle := le_longestRun hone
  omega

theorem not_three_of_longestRun {mark : Char} (h : longestRun mark cs ≤ 2) :
    ¬[mark, mark, mark] <:+: cs := by
  intro hthree
  have hle := le_longestRun (n := 3) hthree
  omega

theorem plain_of_not_needsEscape (h : needsEscape cs = false) :
    ∀ c ∈ cs, c = '\n' ∨ isPlain c = true := by
  intro c hc
  have hplain := List.any_eq_false.1 h c hc
  by_cases hline : c = '\n'
  · exact .inl hline
  · exact .inr (by simpa [hline] using hplain)

theorem plain_of_not_line (h : needsEscape cs = false) (hline : '\n' ∉ cs) :
    ∀ c ∈ cs, isPlain c = true := by
  intro c hc
  refine (plain_of_not_needsEscape h c hc).resolve_left ?_
  rintro rfl
  exact hline hc

/-! ## A text in any way -/

theorem string?_basic {body : List Char} (h : ∀ tail, body ≠ '"' :: '"' :: tail) :
    string? ('"' :: body) = basic? body := by
  unfold string?
  split
  · rename_i heq
    exact absurd (List.cons.inj heq).2 (h _)
  · rename_i heq
    rw [(List.cons.inj heq).2]
  · rename_i heq
    exact absurd (List.cons.inj heq).1 (by decide)
  · rename_i heq
    exact absurd (List.cons.inj heq).1 (by decide)
  · rename_i hnone _ _
    exact absurd rfl (hnone body)

theorem string?_literal {body : List Char} (h : ∀ tail, body ≠ '\'' :: '\'' :: tail) :
    string? ('\'' :: body) = literal? body := by
  unfold string?
  split
  · rename_i heq
    exact absurd (List.cons.inj heq).1 (by decide)
  · rename_i heq
    exact absurd (List.cons.inj heq).1 (by decide)
  · rename_i heq
    exact absurd (List.cons.inj heq).2 (h _)
  · rename_i heq
    rw [(List.cons.inj heq).2]
  · rename_i hnone
    exact absurd rfl (hnone body)

/-- An empty text does not run into a mark behind it. -/
theorem string?_basicText (h : Unmarked rest) (cs : List Char) :
    string? (basicText cs ++ rest) = some (cs, rest) := by
  have hread := basic?_escapeChars cs rest
  rw [basicText, List.cons_append, List.cons_append, List.append_assoc, List.singleton_append,
    string?_basic, hread]
  intro tail heq
  rw [heq, basic?, Option.some_inj, Prod.mk.injEq] at hread
  exact (h '"' (by simp [← hread.2])).1 rfl

theorem string?_literalText (h : Unmarked rest) (hplain : ∀ c ∈ cs, isPlain c = true)
    (hmark : '\'' ∉ cs) : string? (literalText cs ++ rest) = some (cs, rest) := by
  have hread := literal?_append hplain hmark rest
  rw [literalText, List.cons_append, List.cons_append, List.append_assoc, List.singleton_append,
    string?_literal, hread]
  intro tail heq
  rw [heq, literal?, Option.some_inj, Prod.mk.injEq] at hread
  exact (h '\'' (by simp [← hread.2])).2 rfl

/-- The line end behind tripled marks is not read, and without it none is there. -/
theorem skipNewline_firstLine {body : List Char}
    (h : '\n' ∉ cs → ∀ c ∈ body.head?, c ≠ '\n' ∧ c ≠ '\r') :
    skipNewline (firstLine cs ++ body) = body := by
  unfold firstLine
  by_cases hline : '\n' ∈ cs
  · rw [if_pos hline]
    rfl
  · rw [if_neg hline, List.nil_append, skipNewline, newline?]
    · rfl
    · rintro tail rfl
      exact (h hline '\n' rfl).1 rfl
    · rintro tail rfl
      exact (h hline '\r' rfl).2 rfl

theorem string?_multiBasicText (h : Unmarked rest) (cs : List Char) :
    string? (multiBasicText cs ++ rest) = some (cs, rest) := by
  have hread := multiBasic?_escapeChars (Nat.zero_le 2) (fun hmark => (h '"' hmark).1 rfl) cs
  rw [List.replicate_zero, List.nil_append, List.nil_append] at hread
  have hskip : skipNewline (firstLine cs ++ (escapeChars 2 true 0 cs ++ ['"', '"', '"'] ++ rest)) =
      escapeChars 2 true 0 cs ++ ['"', '"', '"'] ++ rest := by
    refine skipNewline_firstLine fun hline c hc => ?_
    cases cs with
    | nil =>
      obtain rfl : '"' = c := by simpa [escapeChars] using hc
      decide
    | cons d cs =>
      rw [escapeChars_cons] at hc
      split at hc
      · obtain rfl : '"' = c := by simpa using hc
        decide
      · rcases encode_cases true d with ⟨body, hbody, -⟩ | ⟨hself, -, hstands⟩
        · obtain rfl : '\\' = c := by simpa [hbody] using hc
          decide
        · obtain rfl : d = c := by simpa [hself] using hc
          have hd : d ≠ '\n' := fun heq => hline (heq ▸ List.mem_cons_self)
          refine ⟨hd, ?_⟩
          rintro rfl
          exact absurd hstands (by decide)
  have hshape : multiBasicText cs ++ rest = '"' :: '"' :: '"' ::
      (firstLine cs ++ (escapeChars 2 true 0 cs ++ ['"', '"', '"'] ++ rest)) := by
    simp [multiBasicText]
  rw [hshape, string?, hskip, hread]

theorem string?_multiLiteralText (h : Unmarked rest)
    (hplain : ∀ c ∈ cs, c = '\n' ∨ isPlain c = true) (hthree : ¬['\'', '\'', '\''] <:+: cs) :
    string? (multiLiteralText cs ++ rest) = some (cs, rest) := by
  have hread := multiLiteral?_append hplain hthree fun hmark => (h '\'' hmark).2 rfl
  have hskip : skipNewline (firstLine cs ++ (cs ++ ['\'', '\'', '\''] ++ rest)) =
      cs ++ ['\'', '\'', '\''] ++ rest := by
    refine skipNewline_firstLine fun hline c hc => ?_
    cases cs with
    | nil =>
      obtain rfl : '\'' = c := by simpa using hc
      decide
    | cons d cs =>
      obtain rfl : d = c := by simpa using hc
      have hd : d ≠ '\n' := fun heq => hline (heq ▸ List.mem_cons_self)
      refine ⟨hd, ?_⟩
      rintro rfl
      exact absurd (hplain '\r' List.mem_cons_self) (by decide)
  have hshape : multiLiteralText cs ++ rest = '\'' :: '\'' :: '\'' ::
      (firstLine cs ++ (cs ++ ['\'', '\'', '\''] ++ rest)) := by
    simp [multiLiteralText]
  rw [hshape, string?, hskip, hread]

/-- **A text is read as it was written**, if no mark stands behind it. -/
theorem string?_textChars (h : Unmarked rest) (cs : List Char) :
    string? (textChars cs ++ rest) = some (cs, rest) := by
  unfold textChars
  dsimp only
  split_ifs with hbasic hliteral hmultiBasic hmultiLiteral
  · exact string?_basicText h cs
  · obtain ⟨⟨hescapes, hmarks⟩, hline⟩ : (needsEscape cs = false ∧ longestRun '\'' cs = 0) ∧
        '\n' ∉ cs := by simpa using hliteral
    exact string?_literalText h (plain_of_not_line hescapes hline) (not_mem_of_longestRun hmarks)
  · exact string?_multiBasicText h cs
  · obtain ⟨hescapes, hmarks⟩ : needsEscape cs = false ∧ longestRun '\'' cs ≤ 2 := by
      simpa using hmultiLiteral
    exact string?_multiLiteralText h (plain_of_not_needsEscape hescapes)
      (not_three_of_longestRun hmarks)
  · exact string?_multiBasicText h cs
  · exact string?_basicText h cs

/-- A text is written behind a mark. -/
theorem exists_textChars (cs : List Char) :
    ∃ tail, textChars cs = '"' :: tail ∨ textChars cs = '\'' :: tail := by
  unfold textChars
  dsimp only
  split_ifs
  · exact ⟨_, .inl rfl⟩
  · exact ⟨_, .inr rfl⟩
  · exact ⟨_, .inl rfl⟩
  · exact ⟨_, .inr rfl⟩
  · exact ⟨_, .inl rfl⟩
  · exact ⟨_, .inl rfl⟩

/-! ## A name -/

/-- **A name is read as it was written**, if what stands behind it is not of a bare name. -/
theorem name?_nameChars (h : ∀ c ∈ rest.head?, isBareKeyChar c = false) (cs : List Char) :
    name? (nameChars cs ++ rest) = some (String.ofList cs, rest) := by
  have hbasic : name? (basicText cs ++ rest) = some (String.ofList cs, rest) := by
    rw [basicText, List.cons_append, List.cons_append, List.append_assoc, List.singleton_append,
      name?, basic?_escapeChars]
    rfl
  unfold nameChars
  dsimp only
  split_ifs with hbare hplain hliteral
  · obtain ⟨hnil, hall⟩ := hbare
    have hkey : ∀ c ∈ cs, isBareKeyChar c = true := List.all_eq_true.1 hall
    obtain ⟨hnone, hrest⟩ : rest.takeWhile isBareKeyChar = [] ∧
        rest.dropWhile isBareKeyChar = rest := by
      cases rest with
      | nil => exact ⟨rfl, rfl⟩
      | cons c rest =>
        have hc := h c rfl
        exact ⟨List.takeWhile_cons_of_neg (by simp [hc]), List.dropWhile_cons_of_neg (by simp [hc])⟩
    have hfront : (cs ++ rest).takeWhile isBareKeyChar = cs := by
      rw [List.takeWhile_append_of_pos hkey, hnone, List.append_nil]
    have hbehind : (cs ++ rest).dropWhile isBareKeyChar = rest := by
      rw [List.dropWhile_append_of_pos hkey, hrest]
    obtain ⟨c, tail, rfl⟩ := List.exists_cons_of_ne_nil hnil
    have hc := hkey c List.mem_cons_self
    rw [name?, hfront, hbehind]
    · rintro tail heq
      rw [(List.cons.inj heq).1] at hc
      exact absurd hc (by decide)
    · rintro tail heq
      rw [(List.cons.inj heq).1] at hc
      exact absurd hc (by decide)
  · exact hbasic
  · obtain ⟨⟨hescapes, hmarks⟩, hline⟩ : (needsEscape cs = false ∧ longestRun '\'' cs = 0) ∧
        '\n' ∉ cs := by simpa using hliteral
    have hread := literal?_append (plain_of_not_line hescapes hline)
      (not_mem_of_longestRun hmarks) rest
    rw [literalText, List.cons_append, List.cons_append, List.append_assoc, List.singleton_append,
      name?, hread]
    rfl
  · exact hbasic

end Almanac.Toml
