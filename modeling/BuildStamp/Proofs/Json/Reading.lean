import BuildStamp.BuildInfo
import BuildStamp.Proofs.Toml.Escape

/-!
# Reading — JSON texts and what they hold

A reader of whole JSON texts that knows nothing of the writer: it takes every escape, numbers,
nested arrays and objects, and blanks wherever they may stand, and it refuses raw control
characters, lone surrogates and a comma behind the last item.  What the writer makes of a build info
is read as an object of three strings, and these are the three values, whatever characters they
hold.

* `Json.Value` — what a text holds;
* `Json.text`, `Json.value`, `Json.parse?` — readers of strings, of values and of whole texts;
* `Json.reads_escapeChar`, `Json.reads_string` — written characters and strings are read back;
* `Json.reads_object` — and so are objects of strings;
* `Json.parse?_render` — and the build info.
-/

namespace BuildStamp
namespace Json

open Text (Reader Skip)
open Text.Reader

/-! ## Values -/

/-- What a text holds.  A number is kept as it is written. -/
inductive Value where
  | null
  | boolean (value : Bool)
  | number (digits : String)
  | string (text : String)
  | array (items : List Value)
  | object (members : List (String × Value))

/-! ## Blanks -/

/-- The characters that may stand around a value. -/
def isSpace (c : Char) : Bool :=
  c = ' ' || c = '\t' || c = '\n' || c = '\r'

/-- Skips blanks. -/
def spaces : Skip :=
  skipMany (char isSpace)

/-- Reads something, and blanks in front of it. -/
def token {α : Type} (r : Reader α) : Reader α :=
  behind spaces r

/-! ## Strings -/

/-- The characters that stand for themselves: all but the controls below the space, the quote and
the backslash. -/
def isPlain (c : Char) : Bool :=
  ' ' ≤ c && c ≠ '"' && c ≠ '\\'

/-- Reads a letter or sign that stands for a character behind a backslash. -/
def letterEscape : Reader Char :=
  (char fun _ => true).filterMap fun
    | '"' => some '"'
    | '\\' => some '\\'
    | '/' => some '/'
    | 'b' => some '\x08'
    | 'f' => some '\x0c'
    | 'n' => some '\n'
    | 'r' => some '\r'
    | 't' => some '\t'
    | _ => none

/-- Reads a number of 16 bits behind a backslash. -/
def unit : Reader Nat :=
  ((exactly 'u').after (Toml.hexDigits 3)).map Toml.hexValue

/-- The character of two surrogates. -/
def ofSurrogates? (units : Nat × Nat) : Option Char :=
  let (high, low) := units
  if 0xd800 ≤ high ∧ high < 0xdc00 ∧ 0xdc00 ≤ low ∧ low < 0xe000 then
    Toml.scalar? (0x10000 + (high - 0xd800) * 0x400 + (low - 0xdc00))
  else none

/-- Reads a character's number, which is that of the character or a pair of surrogates. -/
def numberEscape : Reader Char :=
  (unit.filterMap Toml.scalar?).orElse
    ((unit.both ((exactly '\\').after unit)).filterMap ofSurrogates?)

/-- Reads one character of a string. -/
def character : Reader Char :=
  (char isPlain).orElse ((exactly '\\').after (letterEscape.orElse numberEscape))

/-- Reads a string. -/
def text : Reader String :=
  (((exactly '"').thenMany character).before (exactly '"')).map fun (_, cs) => String.ofList cs

/-! ## Numbers -/

/-- Reads digits. -/
def digits : Reader (List Char) :=
  ((char Char.isDigit).thenMany (char Char.isDigit)).map fun (d, ds) => d :: ds

/-- Reads digits that do not begin with a zero, or a single zero. -/
def whole : Reader (List Char) :=
  ((char (· = '0')).map fun d => [d]).orElse
    (((char fun c => c.isDigit && c ≠ '0').thenMany (char Char.isDigit)).map
      fun (d, ds) => d :: ds)

/-- Reads a point and digits. -/
def fraction : Reader (List Char) :=
  ((char (· = '.')).both digits).map fun (point, ds) => point :: ds

/-- Reads a power of ten. -/
def exponent : Reader (List Char) :=
  ((char fun c => c = 'e' || c = 'E').both
    (maybeAfter (char fun c => c = '+' || c = '-') digits)).map
      fun (mark, sign, ds) => mark :: (sign.toList ++ ds)

/-- Reads a number. -/
def number : Reader String :=
  (((maybeAfter (char (· = '-')) whole).thenMaybe fraction).thenMaybe exponent).map
    fun (((sign, ds), fs), es) => String.ofList (sign.toList ++ ds ++ fs.getD [] ++ es.getD [])

/-! ## Texts -/

/-- Reads a value that holds no other. -/
def scalar : Reader Value :=
  (text.map Value.string).orElse <| (number.map Value.number).orElse <|
    ((word 't' ['r', 'u', 'e']).map fun _ => Value.boolean true).orElse <|
      ((word 'f' ['a', 'l', 's', 'e']).map fun _ => Value.boolean false).orElse <|
        (word 'n' ['u', 'l', 'l']).map fun _ => Value.null

/-- Reads items between two brackets, with a comma between each two. -/
def enclosed {α : Type} (opening closing : Char) (item : Reader α) : Reader (List α) :=
  let empty := (exactly opening).before (token (exactly closing))
  let filled := (exactly opening).after (separated (token item) (token (exactly ',')))
  (empty.map fun _ => []).orElse (filled.before (token (exactly closing)))

/-- Reads a name and the value behind it. -/
def namedBy (value : Reader Value) : Reader (String × Value) :=
  (text.before (token (exactly ':'))).both (token value)

/-- Reads a value with at most `depth` levels of brackets and braces. -/
def value : Nat → Reader Value
  | 0 => scalar
  | depth + 1 =>
      scalar.orElse <| ((enclosed '[' ']' (value depth)).map Value.array).orElse <|
        (enclosed '{' '}' (namedBy (value depth))).map Value.object

/-- Values are nested to at most this depth. -/
def maxDepth : Nat := 127

/-- What a text holds, if it is one value with nothing but blanks around it. -/
def parse? (s : String) : Option Value :=
  match (token (value maxDepth)).run s.toList with
  | some (v, rest) => if spaces.run rest = [] then some v else none
  | none => none

/-! ## Strings that were written -/

theorem hexDigit?_digitChar {d : Nat} (h : d < 16) : Toml.hexDigit? (Nat.digitChar d) = some d := by
  have all : ∀ d : Fin 16, Toml.hexDigit? (Nat.digitChar d) = some d.val := by decide
  exact all ⟨d, h⟩

theorem reads_unit (n : Nat) (h : n < 65536) : unit.Reads ('u' :: fourDigits n) n := by
  intro rest
  have hdigits : (Toml.hexDigits 3).run (fourDigits n ++ rest) = _ :=
    Toml.reads_hexDigits (fun _ hd => hexDigit?_digitChar hd) n rest
  simp [unit, afterPrefix?, hdigits, Toml.hexValue_fourDigits h]

theorem reads_character_of_escape {written : List Char} {c : Char}
    (h : (letterEscape.orElse numberEscape).Reads written c) :
    character.Reads ('\\' :: written) c := by
  intro rest
  -- A backslash does not stand for itself, so an escape is behind it.
  have hplain : isPlain '\\' = false := by decide
  have hread := h rest
  rw [run_orElse] at hread
  simp [character, hplain, afterPrefix?, hread]

theorem reads_letterEscape {mark c : Char}
    (h : letterEscape.Reads [mark] c) : (letterEscape.orElse numberEscape).Reads [mark] c := by
  intro rest
  rw [run_orElse, h rest, Option.some_or]

theorem reads_numberEscape {c : Char} (h : c.toNat < 65536) :
    (letterEscape.orElse numberEscape).Reads ('u' :: fourDigits c.toNat) c := by
  intro rest
  -- No letter is taken for the mark of a number, and the number is no surrogate.
  have hletter : letterEscape.run ('u' :: (fourDigits c.toNat ++ rest)) = none := rfl
  have hunit := reads_unit c.toNat h rest
  rw [List.cons_append] at hunit ⊢
  simp [hletter, numberEscape, hunit, Toml.scalar?_toNat]

/-- Each character is read back from what is written for it. -/
theorem reads_escapeChar (c : Char) : character.Reads (escapeChar c) c := by
  have hletter {mark c : Char} (h : letterEscape.Reads [mark] c) :
      character.Reads ['\\', mark] c :=
    reads_character_of_escape (reads_letterEscape h)
  -- The cases are those of the writer: seven letters, the other controls, and plain characters.
  unfold escapeChar
  split_ifs with hquote hbackslash hbackspace hform hfeed hreturn htab hcontrol
  · subst hquote
    exact hletter fun _ => rfl
  · subst hbackslash
    exact hletter fun _ => rfl
  · subst hbackspace
    exact hletter fun _ => rfl
  · subst hform
    exact hletter fun _ => rfl
  · subst hfeed
    exact hletter fun _ => rfl
  · subst hreturn
    exact hletter fun _ => rfl
  · subst htab
    exact hletter fun _ => rfl
  · have hsmall : c.toNat < 65536 := Nat.lt_trans hcontrol (by decide)
    exact reads_character_of_escape (reads_numberEscape hsmall)
  · have hplain : isPlain c = true := by
      simp [isPlain, hquote, hbackslash, Char.not_lt.1 hcontrol]
    intro rest
    simp [character, hplain]

theorem reads_string (value : String) : text.Reads (string value).toList value := by
  intro rest
  have hmany : character.many (value.toList.flatMap escapeChar ++ '"' :: rest) =
      (value.toList.map id, '"' :: rest) :=
    many_flatMap (fun c _ => reads_escapeChar c) rfl
  simp [text, string, afterPrefix?, hmany]

/-! ## Objects that were written -/

theorem spaces_run_of_not_isSpace {c : Char} (h : isSpace c = false) (s : List Char) :
    spaces.run (c :: s) = c :: s :=
  skipMany_run_of_none (by simp [h])

theorem spaces_run_of_isSpace {c : Char} (h : isSpace c = true) (s : List Char) :
    spaces.run (c :: s) = spaces.run s := by
  have hread : (char isSpace).run (c :: s) = some (c, s) := by simp [h]
  simp [spaces, skipMany, many_some hread]

theorem spaces_run_append {blanks : List Char} (h : blanks.all isSpace = true) (s : List Char) :
    spaces.run (blanks ++ s) = spaces.run s := by
  induction blanks with
  | nil => rfl
  | cons b blanks ih =>
      rw [List.all_cons, Bool.and_eq_true] at h
      rw [List.cons_append, spaces_run_of_isSpace h.1, ih h.2]

/-- Blanks in front of something that begins with none are skipped. -/
theorem reads_token {α : Type} {r : Reader α} {c : Char} {written blanks : List Char} {a : α}
    (h : r.Reads (c :: written) a) (hc : isSpace c = false)
    (hblanks : blanks.all isSpace = true) :
    (token r).Reads (blanks ++ c :: written) a := by
  intro rest
  have hskip : spaces.run (blanks ++ c :: (written ++ rest)) = c :: (written ++ rest) := by
    rw [spaces_run_append hblanks, spaces_run_of_not_isSpace hc]
  have hread := h rest
  rw [List.cons_append] at hread
  simpa [token, hskip] using hread

theorem reads_value_string (depth : Nat) (v : String) :
    (value depth).Reads (string v).toList (.string v) := by
  intro rest
  have hread := reads_string v rest
  cases depth <;> simp [value, scalar, hread]

theorem toList_string (v : String) :
    (string v).toList = '"' :: (v.toList.flatMap escapeChar ++ ['"']) :=
  String.toList_ofList

theorem reads_token_string (depth : Nat) {blanks : List Char} (v : String)
    (hblanks : blanks.all isSpace = true) :
    (token (value depth)).Reads (blanks ++ (string v).toList) (.string v) := by
  have hread := reads_value_string depth v
  rw [toList_string] at hread ⊢
  exact reads_token hread rfl hblanks

/-- Items between brackets are read back one by one, if none of them begins with what closes the
brackets and no comma stands in front of that. -/
theorem reads_enclosed {α γ : Type} {opening closing : Char} {item : Reader α}
    {first last : List Char} {a : α} {written : γ → List Char} {value : γ → α} {xs : List γ}
    (hfirst : (token item).Reads first a)
    (hrow : ∀ x ∈ xs, ((token (exactly ',')).after (token item)).Reads (written x) (value x))
    (hclosing : (token (exactly closing)).Reads last ())
    (hfilled : ∀ rest, (token (exactly closing)).run (first ++ rest) = none)
    (hlast : ∀ rest, (token (exactly ',')).run (last ++ rest) = none) :
    (enclosed opening closing item).Reads (opening :: (first ++ (xs.flatMap written ++ last)))
      (a :: xs.map value) := by
  intro rest
  have hend : ((token (exactly ',')).after (token item)).run (last ++ rest) = none := by
    rw [run_after, hlast rest]
    rfl
  have hitems := run_separated_flatMap hfirst hrow hend
  -- The reader first tries the closing bracket, which an item never begins with.
  have hempty := hfilled (xs.flatMap written ++ (last ++ rest))
  have hclose := hclosing rest
  have hopening (s : List Char) : (exactly opening).run (opening :: s) = some ((), s) :=
    reads_exactly opening s
  simp only [List.cons_append, List.append_assoc, enclosed, run_orElse, run_map, run_before,
    run_after, hopening, Option.bind_some, hempty, hitems, hclose, Option.map_none,
    Option.map_some, Option.none_or]

/-- What stands in front of a member on a line of its own. -/
def margin : List Char :=
  ['\n', ' ', ' ']

/-- A member on a line of its own: the name, a colon, a blank and a string. -/
def row (m : String × String) : List Char :=
  margin ++ ((string m.1).toList ++ ':' :: ([' '] ++ (string m.2).toList))

theorem reads_row (depth : Nat) (m : String × String) :
    (token (namedBy (value depth))).Reads (row m) (m.1, .string m.2) := by
  have hcolon : (token (exactly ':')).Reads ([] ++ [':']) () :=
    reads_token (reads_exactly ':') rfl rfl
  have hvalue : (token (value depth)).Reads ([' '] ++ (string m.2).toList) (.string m.2) :=
    reads_token_string depth m.2 rfl
  have hmember := ((reads_string m.1).before hcolon).both hvalue
  have hmargin : margin.all isSpace = true := rfl
  rw [toList_string m.1, List.nil_append, List.append_assoc, List.singleton_append,
    List.cons_append] at hmember
  unfold row
  rw [toList_string m.1, List.cons_append]
  exact reads_token hmember rfl hmargin

theorem token_run_row {c : Char} (m : String × String) (rest : List Char) (hquote : c ≠ '"') :
    (token (exactly c)).run (row m ++ rest) = none := by
  -- Behind its margin a member begins with the quote of its name.
  have hspaces : ∃ tail, spaces.run (row m ++ rest) = '"' :: tail := by
    unfold row margin
    rw [toList_string m.1]
    simp only [List.cons_append, List.nil_append, spaces_run_of_isSpace (c := '\n') (by decide),
      spaces_run_of_isSpace (c := ' ') (by decide),
      spaces_run_of_not_isSpace (c := '"') (by decide)]
    exact ⟨_, rfl⟩
  rcases hspaces with ⟨tail, htail⟩
  simp [token, htail, afterPrefix?, hquote]

/-- Strings with names, each on a line of its own, are read back as an object. -/
theorem reads_object (depth : Nat) (m : String × String) (ms : List (String × String)) :
    (value (depth + 1)).Reads
      ('{' :: (row m ++ (ms.flatMap (fun n => ',' :: row n) ++ ['\n', '}'])))
      (.object ((m.1, .string m.2) :: ms.map fun n => (n.1, .string n.2))) := by
  -- The pieces: members behind commas, and the closing brace on a line of its own.
  have hcomma : (token (exactly ',')).Reads ([] ++ [',']) () :=
    reads_token (reads_exactly ',') rfl rfl
  have hrows : ∀ n ∈ ms, ((token (exactly ',')).after (token (namedBy (value depth)))).Reads
      (',' :: row n) (n.1, .string n.2) :=
    fun n _ => hcomma.after (reads_row depth n)
  have hfeed : ['\n'].all isSpace = true := rfl
  have hclosing : (token (exactly '}')).Reads ['\n', '}'] () :=
    reads_token (reads_exactly '}') rfl hfeed
  have hlast (rest : List Char) : (token (exactly ',')).run ('\n' :: '}' :: rest) = none := by
    have hspaces : spaces.run ('\n' :: '}' :: rest) = '}' :: rest := by
      rw [spaces_run_of_isSpace (by decide), spaces_run_of_not_isSpace (by decide)]
    simp [token, hspaces, afterPrefix?]
  have hmembers : (enclosed '{' '}' (namedBy (value depth))).Reads _ _ :=
    reads_enclosed (reads_row depth m) hrows hclosing
      (fun rest => token_run_row m rest (by decide)) hlast
  intro rest
  -- A brace begins no other value.
  have hscalar (s : List Char) : scalar.run ('{' :: s) = none := rfl
  have harray (s : List Char) : (enclosed '[' ']' (value depth)).run ('{' :: s) = none := rfl
  have hread := hmembers rest
  rw [List.cons_append] at hread ⊢
  simp only [value, run_orElse, run_map, hscalar, harray, Option.map_none, Option.none_or, hread,
    Option.map_some]

/-! ## The build info -/

/-- The members of the object that is written for a build info. -/
def members (info : BuildInfo) : List (String × Value) :=
  [("build_time", .string info.buildTime), ("version", .string info.version),
    ("commit", .string info.commit)]

theorem toList_member (name value comma : String) :
    '\n' :: (member name value comma).toList = row (name, value) ++ comma.toList ++ ['\n'] := by
  have hindent : "  ".toList = [' ', ' '] := by decide
  have hcolon : ": ".toList = [':', ' '] := by decide
  have hfeed : "\n".toList = ['\n'] := by decide
  simp only [member, row, margin, String.toList_append, hindent, hcolon, hfeed, List.cons_append,
    List.nil_append, List.append_assoc]

theorem toList_render (info : BuildInfo) :
    (render info).toList =
      '{' :: (row ("build_time", info.buildTime) ++
        ([("version", info.version), ("commit", info.commit)].flatMap (fun n => ',' :: row n) ++
          ['\n', '}'])) := by
  have hopening : "\x7b\n".toList = ['{', '\n'] := by decide
  have hclosing : "\x7d".toList = ['}'] := by decide
  have hcomma : ",".toList = [','] := by decide
  -- The line end in front of a member is that of the line before.
  have hmember (name value comma : String) (rest : List Char) :
      '\n' :: ((member name value comma).toList ++ rest) =
        row (name, value) ++ (comma.toList ++ '\n' :: rest) := by
    rw [← List.cons_append, toList_member, List.append_assoc, List.append_assoc]
    rfl
  simp only [render, String.toList_append, hopening, hclosing, List.append_assoc, List.cons_append,
    List.nil_append, hmember, hcomma, String.toList_empty, List.flatMap_cons, List.flatMap_nil]

/-- What is shown of a build info is one object of three strings, which are its values, also with
blanks behind it. -/
theorem parse?_render (info : BuildInfo) (blanks : List Char)
    (hblanks : blanks.all isSpace = true) :
    parse? (render info ++ String.ofList blanks) = some (.object (members info)) := by
  have hobject := reads_object 126 ("build_time", info.buildTime)
    [("version", info.version), ("commit", info.commit)]
  have htoken : (token (value maxDepth)).Reads ([] ++ _) _ :=
    reads_token hobject rfl rfl
  have hread := htoken blanks
  rw [List.nil_append, ← toList_render] at hread
  have hskip : spaces.run blanks = [] := by
    have hrun := spaces_run_append hblanks []
    rw [List.append_nil] at hrun
    exact hrun.trans (skipMany_run_of_none rfl)
  unfold parse?
  rw [String.toList_append, String.toList_ofList, hread]
  simp only [hskip, if_true]
  rfl

end Json
end BuildStamp
