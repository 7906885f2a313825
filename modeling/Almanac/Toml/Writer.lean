import Almanac.Text.Hex
import Almanac.Toml.Reader

/-! # Writing TOML

Lines of a TOML document.  A text is written in the first of five ways that shows it
without escapes: between quotes, between apostrophes, between tripled quotes, between
tripled apostrophes; if none does, between quotes with escapes.  Quotes are tripled where
the text has line ends.
-/
namespace Almanac.Toml

/-- The most marks in a row that a text has. -/
def longestRun (mark : Char) (cs : List Char) : Nat :=
  (cs.foldl (fun (run, longest) c =>
    if c = mark then (run + 1, max longest (run + 1)) else (0, longest)) (0, 0)).2

/-- Whether a text has a character that can only be escaped. -/
def needsEscape (cs : List Char) : Bool :=
  cs.any fun c => !isPlain c && c != '\n'

/-- A control character as an escape. -/
def controlEscape : Char → List Char
  | '\x08' => ['\\', 'b']
  | '\t' => ['\\', 't']
  | '\n' => ['\\', 'n']
  | '\x0c' => ['\\', 'f']
  | '\r' => ['\\', 'r']
  | c => ['\\', 'u'] ++ Text.hexChars 4 c.toNat

/-- The characters of a text between quotes.  `marks` is the number of quotes in a row
that may stand without a backslash, and `run` the number of those just written; `lines`
says whether line ends stand for themselves. -/
def escapeChars (marks : Nat) (lines : Bool) : Nat → List Char → List Char
  | _, [] => []
  | run, c :: rest =>
    if c = '"' then
      if run < marks then '"' :: escapeChars marks lines (run + 1) rest
      else '\\' :: '"' :: escapeChars marks lines 0 rest
    else if c = '\\' then '\\' :: '\\' :: escapeChars marks lines 0 rest
    else if c = '\n' ∧ lines then '\n' :: escapeChars marks lines 0 rest
    else if c = '\t' ∨ !isPlain c then controlEscape c ++ escapeChars marks lines 0 rest
    else c :: escapeChars marks lines 0 rest

/-- A text between quotes on one line. -/
def basicText (cs : List Char) : List Char :=
  '"' :: escapeChars 0 false 0 cs ++ ['"']

/-- A text between apostrophes on one line. -/
def literalText (cs : List Char) : List Char :=
  '\'' :: cs ++ ['\'']

/-- The line end behind tripled marks: a text with line ends begins on a line of its
own. -/
def firstLine (cs : List Char) : List Char :=
  if '\n' ∈ cs then ['\n'] else []

/-- A text between tripled quotes. -/
def multiBasicText (cs : List Char) : List Char :=
  ['"', '"', '"'] ++ firstLine cs ++ escapeChars 2 true 0 cs ++ ['"', '"', '"']

/-- A text between tripled apostrophes. -/
def multiLiteralText (cs : List Char) : List Char :=
  ['\'', '\'', '\''] ++ firstLine cs ++ cs ++ ['\'', '\'', '\'']

/-- A text. -/
def textChars (cs : List Char) : List Char :=
  let quotes := longestRun '"' cs
  let marks := longestRun '\'' cs
  let escapes := needsEscape cs
  let backslash := cs.contains '\\'
  let lines := cs.contains '\n'
  if !escapes && !backslash && quotes == 0 && !lines then basicText cs
  else if !escapes && marks == 0 && !lines then literalText cs
  else if !escapes && !backslash && quotes ≤ 2 then multiBasicText cs
  else if !escapes && marks ≤ 2 then multiLiteralText cs
  else if lines then multiBasicText cs
  else basicText cs

/-- A name in a key: bare if it can be, else between quotes or apostrophes. -/
def nameChars (cs : List Char) : List Char :=
  let quotes := longestRun '"' cs
  let marks := longestRun '\'' cs
  let escapes := needsEscape cs
  let backslash := cs.contains '\\'
  let lines := cs.contains '\n'
  if cs ≠ [] ∧ cs.all isBareKeyChar then cs
  else if !escapes && !backslash && quotes == 0 && !lines then basicText cs
  else if !escapes && marks == 0 && !lines then literalText cs
  else basicText cs

/-- A truth value. -/
def boolChars (b : Bool) : List Char :=
  if b then "true".toList else "false".toList

/-- A list of texts: two and more stand one a line, each with a comma behind it. -/
def listChars (items : List String) : List Char :=
  match items with
  | [] => ['[', ']']
  | [s] => '[' :: textChars s.toList ++ [']']
  | items =>
    '[' :: items.flatMap (fun s => "\n    ".toList ++ textChars s.toList ++ [',']) ++ ['\n', ']']

/-- A line that gives a written value to a key of one name. -/
def assignLine (name : String) (value : List Char) : List Char :=
  nameChars name.toList ++ " = ".toList ++ value ++ ['\n']

/-- A blank line and a header. -/
def headerLine (names : List String) : List Char :=
  ['\n', '['] ++ ['.'].intercalate (names.map fun name => nameChars name.toList) ++ [']', '\n']

end Almanac.Toml
