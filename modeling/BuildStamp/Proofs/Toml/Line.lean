import BuildStamp.Proofs.Toml.Number
import BuildStamp.Proofs.Toml.Quote
import BuildStamp.Toml.Document

/-!
# Line — lines of a document are read back

The lines that settings are written on: a pair of a key without quotes and a value, a header with
such a key, and an empty line.  The key of a pair may be dotted.

* `Toml.key_run`, `Toml.key_run_dotted` — a key without quotes is read back;
* `Toml.reads_pair`, `Toml.reads_header`, `Toml.reads_blank` — the three kinds of lines;
* `Toml.statement_run_slash` — no line begins with a slash.
-/

namespace BuildStamp
namespace Toml

open Text (Reader)
open Text.Reader

/-! ## Blanks and line ends -/

theorem blanks_run_of_not_isBlankChar {c : Char} (h : isBlankChar c = false) (s : List Char) :
    blanks.run (c :: s) = c :: s :=
  skipMany_run_of_none (by simp [h])

theorem blanks_run_space (s : List Char) : blanks.run (' ' :: s) = blanks.run s := by
  have hspace : (char isBlankChar).run (' ' :: s) = some (' ', s) := rfl
  simp [blanks, skipMany, many_some hspace]

/-- Something that reaches up to the end of its line is read with that end. -/
theorem onLine_run {α : Type} {r : Reader α} {s rest : List Char} {a : α}
    (h : r.run s = some (a, '\n' :: rest)) : (onLine r).run s = some (a, rest) := by
  -- A line feed is no blank and begins no comment.
  have hskip : (r.skip blanks).run s = some (a, '\n' :: rest) := by
    simp only [run_skip, h, Option.map_some, blanks_run_of_not_isBlankChar (c := '\n') (by decide)]
  have hcomment : comment.run ('\n' :: rest) = none := rfl
  have hend : lineEnd? ('\n' :: rest) = some rest := by
    simp [lineEnd?, newline, afterPrefix?]
  simp [onLine, endOfLine, run_thenMaybe_none hskip hcomment, hend]

/-! ## Keys -/

theorem ne_of_isBareKey {c d : Char} (hc : isBareKey c = true) (hd : isBareKey d = false) :
    d ≠ c := by
  rintro rfl
  simp [hc] at hd

theorem isBlankChar_of_isBareKey {c : Char} (h : isBareKey c = true) : isBlankChar c = false := by
  have hspace : ' ' ≠ c := ne_of_isBareKey h (by decide)
  have htab : '\t' ≠ c := ne_of_isBareKey h (by decide)
  simp [isBlankChar, hspace.symm, htab.symm]

section BareKey

variable {c : Char} {name : List Char}

/-- A name without quotes is one part of a key. -/
theorem keyPart_run (bare : ∀ d ∈ c :: name, isBareKey d = true) {stop : Char}
    (hstop : isBareKey stop = false) (rest : List Char) :
    keyPart.run (c :: name ++ stop :: rest) = some (String.ofList (c :: name), stop :: rest) := by
  have hc := bare c List.mem_cons_self
  have hmany : (char isBareKey).many (name ++ stop :: rest) = (name, stop :: rest) :=
    many_chars (fun d hd s => by simp [bare d (List.mem_cons_of_mem c hd)]) (by simp [hstop])
  have hdouble : '"' ≠ c := ne_of_isBareKey hc (by decide)
  have hsingle : '\'' ≠ c := ne_of_isBareKey hc (by decide)
  simp [keyPart, basicString, literalString, afterPrefix?, hdouble, hsingle, hc, hmany]

/-- A name without quotes is a part of a key, with the blanks behind it. -/
theorem spacedPart_run (bare : ∀ d ∈ c :: name, isBareKey d = true) {stop : Char}
    (hstop : isBareKey stop = false) (rest : List Char) :
    (behind blanks (keyPart.skip blanks)).run (c :: name ++ stop :: rest) =
      some (String.ofList (c :: name), blanks.run (stop :: rest)) := by
  have hblank : isBlankChar c = false := isBlankChar_of_isBareKey (bare c List.mem_cons_self)
  rw [run_behind, List.cons_append, blanks_run_of_not_isBlankChar hblank, ← List.cons_append]
  simp only [run_skip, keyPart_run bare hstop, Option.map_some]

/-- A name without quotes and without a dot behind it is a key. -/
theorem key_run (bare : ∀ d ∈ c :: name, isBareKey d = true) {stop : Char}
    (hstop : isBareKey stop = false) {rest next : List Char}
    (hnext : blanks.run (stop :: rest) = next) (hdot : (exactly '.').run next = none) :
    key.run (c :: name ++ stop :: rest) = some (([], String.ofList (c :: name)), next) := by
  have hpart := spacedPart_run bare hstop rest
  rw [hnext] at hpart
  rw [key, run_filterMap, run_separated_single hpart hdot]
  rfl

/-- What is written for a key in front of an equals sign. -/
def WritesKey (written : List Char) (path : List String) (last : String) : Prop :=
  ∀ rest, key.run (written ++ ' ' :: '=' :: rest) = some ((path, last), '=' :: rest)

/-- The blank in front of an equals sign ends a key. -/
theorem blanks_run_equals (rest : List Char) : blanks.run (' ' :: '=' :: rest) = '=' :: rest := by
  rw [blanks_run_space, blanks_run_of_not_isBlankChar (by decide)]

theorem writesKey_bare (bare : ∀ d ∈ c :: name, isBareKey d = true) :
    WritesKey (c :: name) [] (String.ofList (c :: name)) :=
  fun rest => key_run bare (by decide) (blanks_run_equals rest) rfl

/-- A value that holds no other is read at every depth. -/
theorem value_run_of_scalar {s rest : List Char} {v : Value} (h : scalar.run s = some (v, rest))
    (depth : Nat) : (value depth).run s = some (v, rest) := by
  cases depth <;> simp [value, h]

/-! ## Lines -/

/-- A line that begins with a key is no empty line, no comment and no header. -/
theorem statement_run_of_bare (h : isBareKey c = true) (s : List Char) :
    (behind blanks statement).run (c :: s) =
      (onLine ((comment.map fun _ => Statement.blank).orElse
        (header.orElse ((pair (value maxDepth)).map Statement.pair)))).run (c :: s) := by
  have hfeed : '\n' ≠ c := ne_of_isBareKey h (by decide)
  have hret : '\r' ≠ c := ne_of_isBareKey h (by decide)
  have hblank : isBlankChar c = false := isBlankChar_of_isBareKey h
  have hline : newline.run (c :: s) = none := by simp [newline, afterPrefix?, hfeed, hret]
  rw [run_behind, blanks_run_of_not_isBlankChar hblank, statement, run_orElse, run_map, hline]
  rfl

/-- A key and a value behind an equals sign. -/
theorem reads_pair (hc : isBareKey c = true) {path : List String} {last : String}
    (hkey : WritesKey (c :: name) path last) {first : Char} {written : List Char} {v : Value}
    (hfirst : isBlankChar first = false)
    (hv : ∀ rest, scalar.run (first :: written ++ '\n' :: rest) = some (v, '\n' :: rest)) :
    (behind blanks statement).Reads (c :: name ++ [' ', '=', ' '] ++ (first :: written) ++ ['\n'])
      (.pair ⟨path, last, v⟩) := by
  intro rest
  have hmark : '#' ≠ c := ne_of_isBareKey hc (by decide)
  have hbracket : '[' ≠ c := ne_of_isBareKey hc (by decide)
  have hkey := hkey (' ' :: (first :: written ++ '\n' :: rest))
  have hequals : blanks.run (' ' :: (first :: written ++ '\n' :: rest)) =
      first :: written ++ '\n' :: rest := by
    rw [blanks_run_space, List.cons_append, blanks_run_of_not_isBlankChar hfirst]
  have hpair : (pair (value maxDepth)).run
      (c :: name ++ ' ' :: '=' :: ' ' :: (first :: written ++ '\n' :: rest)) =
        some (⟨path, last, v⟩, '\n' :: rest) := by
    have hvalue := value_run_of_scalar (hv rest) maxDepth
    simp only [List.cons_append] at hkey hequals hvalue ⊢
    simp [pair, hkey, afterPrefix?, hequals, hvalue]
  have hinput : c :: name ++ [' ', '=', ' '] ++ (first :: written) ++ ['\n'] ++ rest =
      c :: (name ++ ' ' :: '=' :: ' ' :: (first :: written ++ '\n' :: rest)) := by
    simp
  rw [hinput, statement_run_of_bare hc]
  -- Comments and headers, which come first, have their marks in front.
  apply onLine_run
  rw [← List.cons_append]
  simp only [run_orElse, run_map, hpair]
  simp [comment, header, afterPrefix?, hmark, hbracket]

end BareKey

theorem reads_header (c : Char) (name : List Char) (hbare : (c :: name).all isBareKey = true) :
    (behind blanks statement).Reads ('[' :: (c :: name) ++ [']', '\n'])
      (.header [] (String.ofList (c :: name))) := by
  intro rest
  have bare : ∀ d ∈ c :: name, isBareKey d = true := List.all_eq_true.1 hbare
  have hbracket : '[' ≠ c := ne_of_isBareKey (bare c List.mem_cons_self) (by decide)
  have hkey : key.run (c :: name ++ ']' :: '\n' :: rest) =
      some (([], String.ofList (c :: name)), ']' :: '\n' :: rest) :=
    key_run bare (by decide) (blanks_run_of_not_isBlankChar (by decide) _) (by rfl)
  have hinput : '[' :: (c :: name) ++ [']', '\n'] ++ rest =
      '[' :: (c :: name ++ ']' :: '\n' :: rest) := by
    simp
  have hheader : header.run ('[' :: (c :: name ++ ']' :: '\n' :: rest)) =
      some (.header [] (String.ofList (c :: name)), '\n' :: rest) := by
    simp only [List.cons_append] at hkey ⊢
    simp [header, afterPrefix?, hbracket, hkey]
  -- The statement tries an empty line and a comment before the header, and both refuse the bracket.
  have hline : newline.run ('[' :: (c :: name ++ ']' :: '\n' :: rest)) = none := rfl
  have hcomment : comment.run ('[' :: (c :: name ++ ']' :: '\n' :: rest)) = none := rfl
  rw [hinput, run_behind, blanks_run_of_not_isBlankChar (by decide), statement, run_orElse, run_map,
    hline]
  exact onLine_run (by simp only [run_orElse, run_map, hcomment, hheader]; rfl)

theorem reads_blank : (behind blanks statement).Reads ['\n'] .blank := by
  intro rest
  have hblanks : blanks.run ('\n' :: rest) = '\n' :: rest :=
    blanks_run_of_not_isBlankChar (by decide) rest
  simp [hblanks, statement, newline, afterPrefix?]

/-! ## No line -/

/-- A slash begins none of the things that a line can begin with. -/
theorem statement_run_slash (s : List Char) : (behind blanks statement).run ('/' :: s) = none := by
  have hblanks : blanks.run ('/' :: s) = '/' :: s := blanks_run_of_not_isBlankChar (by decide) s
  have hline : newline.run ('/' :: s) = none := rfl
  have hcomment : comment.run ('/' :: s) = none := rfl
  have hheader : header.run ('/' :: s) = none := rfl
  have hpart : keyPart.run ('/' :: s) = none := rfl
  have hpair : (pair (value maxDepth)).run ('/' :: s) = none := by
    simp [pair, key, separated, hblanks, hpart]
  simp [hblanks, statement, hline, onLine, endOfLine, thenMaybe, hcomment, hheader, hpair]

end Toml
end BuildStamp
