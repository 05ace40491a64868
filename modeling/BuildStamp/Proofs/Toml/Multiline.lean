import BuildStamp.Proofs.Toml.Escape

/-!
# Multiline — strings between triple quotes

Up to two quotes in a row stand unescaped between triple quotes, also right in front of the closing
ones, so a text cannot be cut into characters without looking ahead.

* `Toml.MultilineBody` — a text between triple quotes, with the quotes just before it counted;
* `Toml.multiline_run` — such a text is read back;
* `Toml.multilineBody_escapeBody`, `Toml.multilineBody_self` — what the writer puts between triple
  quotes is such a text.
-/

namespace BuildStamp
namespace Toml

open Text (Reader)
open Text.Reader

/-! ## Quotes in front of triple quotes -/

variable {q : Char} {piece : Reader (List Char)}

/-- Up to two quotes that something else follows are a piece of their own. -/
theorem fewQuotes_run {run : Nat} (low : 0 < run) (high : run ≤ 2) {c d : Char} (hc : c ≠ q)
    (s : List Char) :
    (fewQuotes q).run (List.replicate run q ++ c :: d :: s) =
      some (List.replicate run q, c :: d :: s) := by
  obtain rfl | rfl : run = 1 ∨ run = 2 := by omega
  · simp [fewQuotes, hc]
  · simp [fewQuotes, hc, List.replicate_succ]

/-- Up to two quotes that something else follows add at most one piece. -/
theorem many_replicate (hq : ∀ s, piece.run (q :: s) = none) {run : Nat} (h : run ≤ 2)
    {c d : Char} (hc : c ≠ q) (s : List Char) :
    ∃ front : List (List Char),
      front.flatten = List.replicate run q ∧
      (piece.orElse (fewQuotes q)).many (List.replicate run q ++ c :: d :: s) =
        (front ++ ((piece.orElse (fewQuotes q)).many (c :: d :: s)).1,
          ((piece.orElse (fewQuotes q)).many (c :: d :: s)).2) := by
  cases run with
  | zero => exact ⟨[], rfl, rfl⟩
  | succ n =>
      have hfew := fewQuotes_run (Nat.succ_pos n) h hc (d := d) s
      -- A piece never begins with a quote, so the quotes are left to the other reader.
      have hpiece : piece.run (List.replicate (n + 1) q ++ c :: d :: s) = none := by
        simp [List.replicate_succ, hq]
      have hrun : (piece.orElse (fewQuotes q)).run (List.replicate (n + 1) q ++ c :: d :: s) =
          some (List.replicate (n + 1) q, c :: d :: s) := by
        rw [run_orElse, hpiece, hfew]
        rfl
      exact ⟨[List.replicate (n + 1) q], by simp, by rw [many_some hrun]; rfl⟩

theorem fewQuotes_run_three (s : List Char) : (fewQuotes q).run (q :: q :: q :: s) = none := by
  simp [fewQuotes]

/-- Behind the last piece up to five quotes stand, of which the last three close the string. -/
theorem closingQuotes_run {run : Nat} (h : run ≤ 2) {rest : List Char}
    (hrest : rest.head? ≠ some q) :
    (closingQuotes q).run (List.replicate (run + 3) q ++ rest) =
      some (List.replicate run q, rest) := by
  have hstop : ∀ cs, afterPrefix? (q :: cs) rest = none := by
    intro cs
    cases rest with
    | nil => rfl
    | cons c r =>
        have hc : ¬q = c := fun h => hrest (by simp [h])
        simp [afterPrefix?, hc]
  obtain rfl | rfl | rfl : run = 0 ∨ run = 1 ∨ run = 2 := by omega
  all_goals simp [closingQuotes, List.replicate_succ, afterPrefix?, hstop]

/-! ## Texts between triple quotes -/

/-- `written` stands for `text` between triple quotes `q`, where `run` of these quotes stand
unescaped just before it. -/
inductive MultilineBody (q : Char) (piece : Reader (List Char)) :
    Nat → List Char → List Char → Prop where
  | nil {run : Nat} : run ≤ 2 → MultilineBody q piece run [] []
  -- One more quote stands unescaped.
  | quote {run : Nat} {written text : List Char} :
      MultilineBody q piece (run + 1) written text →
        MultilineBody q piece run (q :: written) (q :: text)
  -- Another character follows, which `piece` reads.
  | piece {run : Nat} {d c : Char} {spelled written text : List Char} :
      run ≤ 2 → d ≠ q → piece.Reads (d :: spelled) [c] → MultilineBody q piece 0 written text →
        MultilineBody q piece run (d :: spelled ++ written) (c :: text)

/-- The pieces of a text between triple quotes and the quotes that are left in front of the closing
ones make the text, together with the quotes that stood before it. -/
theorem MultilineBody.many {run : Nat} {written text : List Char}
    (h : MultilineBody q piece run written text) (hq : ∀ s, piece.run (q :: s) = none)
    (rest : List Char) :
    ∃ (pieces : List (List Char)) (left : Nat),
      left ≤ 2 ∧
      (piece.orElse (fewQuotes q)).many
          (List.replicate run q ++ (written ++ q :: q :: q :: rest)) =
        (pieces, List.replicate (left + 3) q ++ rest) ∧
      pieces.flatten ++ List.replicate left q = List.replicate run q ++ text := by
  induction h with
  | @nil run hrun =>
      refine ⟨[], run, hrun, ?_, by simp⟩
      have hnone :
          (piece.orElse (fewQuotes q)).run (List.replicate (run + 3) q ++ rest) = none := by
        simp [List.replicate_succ, hq, fewQuotes_run_three]
      have hclose : List.replicate run q ++ ([] ++ q :: q :: q :: rest) =
          List.replicate (run + 3) q ++ rest := by
        rw [← List.replicate_append_replicate, List.append_assoc]
        rfl
      rw [hclose]
      exact many_none hnone
  | @quote run written text _ ih =>
      obtain ⟨pieces, left, hleft, hmany, hflat⟩ := ih
      -- A quote joins the run of those that stood just before it.
      have shift : ∀ s : List Char,
          List.replicate run q ++ q :: s = List.replicate (run + 1) q ++ s := by
        intro s
        simp [List.replicate_succ']
      refine ⟨pieces, left, hleft, ?_, ?_⟩
      · rw [List.cons_append, shift]
        exact hmany
      · rw [shift]
        exact hflat
  | @piece run d c spelled written text hrun hd hreads _ ih =>
      obtain ⟨pieces, left, hleft, hmany, hflat⟩ := ih
      simp only [List.replicate_zero, List.nil_append] at hmany hflat
      -- The closing quotes stand behind the character, so the reader of quotes may look ahead.
      obtain ⟨e, tail, htail⟩ : ∃ e tail,
          spelled ++ (written ++ q :: q :: q :: rest) = e :: tail :=
        List.exists_cons_of_ne_nil (by simp)
      obtain ⟨front, hfront, hquotes⟩ := many_replicate hq hrun hd (d := e) tail
      have hchar : (piece.orElse (fewQuotes q)).many (d :: e :: tail) =
          ([c] :: pieces, List.replicate (left + 3) q ++ rest) := by
        have hread := hreads (written ++ q :: q :: q :: rest)
        rw [List.cons_append, htail] at hread
        have hrun' : (piece.orElse (fewQuotes q)).run (d :: e :: tail) =
            some ([c], written ++ q :: q :: q :: rest) := by
          rw [run_orElse, hread]
          rfl
        rw [many_some hrun', hmany]
      refine ⟨front ++ [c] :: pieces, left, hleft, ?_, by simp [hfront, hflat]⟩
      rw [List.append_assoc, List.cons_append, htail, hquotes, hchar]

/-- A string between triple quotes is read back.  Where no line end stands behind the opening
quotes, the text must not begin with one. -/
theorem multiline_run {written text : List Char} (h : MultilineBody q piece 0 written text)
    (hq : ∀ s, piece.run (q :: s) = none) (feed : q ≠ '\n') (opening : List Char)
    (hopening : opening = ['\n'] ∨ opening = [] ∧
      ∀ c s, written = c :: s → c ≠ '\n' ∧ c ≠ '\r')
    (ret : q ≠ '\r') {rest : List Char} (hrest : rest.head? ≠ some q) :
    (multiline q piece).run ([q, q, q] ++ opening ++ written ++ [q, q, q] ++ rest) =
      some (String.ofList text, rest) := by
  obtain ⟨pieces, left, hleft, hmany, hflat⟩ := h.many hq rest
  have hclose := closingQuotes_run hleft hrest
  simp only [List.replicate_zero, List.nil_append] at hmany hflat
  have hopened : (((word q [q, q]).before newline).orElse (word q [q, q])).run
      (q :: q :: q :: (opening ++ (written ++ q :: q :: q :: rest))) =
        some ((), written ++ q :: q :: q :: rest) := by
    rcases hopening with rfl | ⟨rfl, hhead⟩
    · simp [newline, afterPrefix?]
    · have hline : newline.run (written ++ q :: q :: q :: rest) = none := by
        cases written with
        | nil => simp [newline, afterPrefix?, Ne.symm feed, Ne.symm ret]
        | cons c s =>
            obtain ⟨hfeed, hret⟩ := hhead c s rfl
            simp [newline, afterPrefix?, Ne.symm hfeed, Ne.symm hret]
      simp [afterPrefix?, hline]
  have hinput : [q, q, q] ++ opening ++ written ++ [q, q, q] ++ rest =
      q :: q :: q :: (opening ++ (written ++ q :: q :: q :: rest)) := by
    simp
  -- What is left of the quotes behind the pieces is cut into text and closing quotes.
  rw [hinput, multiline, run_map, run_both, run_thenMany, hopened]
  simp [hmany, hclose, ← hflat]

/-! ## Pieces of strings over several lines -/

/-- A piece between three double quotes. -/
def basicPiece : Reader (List Char) :=
  ((char isBasicPlain).map fun c => [c]).orElse <|
    lineJoin.orElse <| (escape.map fun c => [c]).orElse lineFeed

/-- A piece between three single quotes. -/
def literalPiece : Reader (List Char) :=
  ((char isLiteralPlain).map fun c => [c]).orElse lineFeed

/-- A backslash that no line end follows joins no lines. -/
theorem lineJoin_run_eq_none {m : Char} (blank : isBlankChar m = false) (feed : m ≠ '\n')
    (ret : m ≠ '\r') (s : List Char) : lineJoin.run ('\\' :: m :: s) = none := by
  have hblanks : blanks.run (m :: s) = m :: s := skipMany_run_of_none (by simp [blank])
  simp [lineJoin, newline, afterPrefix?, hblanks, Ne.symm feed, Ne.symm ret]

/-- What stands for a character where lines are kept is read back as that character. -/
theorem Spells.reads_piece {written : List Char} {c : Char} (h : Spells true written c) :
    basicPiece.Reads written [c] := by
  intro rest
  cases h with
  | plain hc => simp [basicPiece, hc]
  | lineFeed keep =>
      have hplain : isBasicPlain '\n' = false := by decide
      simp [basicPiece, hplain, lineJoin, escape, Toml.lineFeed, newline, afterPrefix?]
  | escaped he =>
      have hread := he.reads rest
      obtain ⟨m, tail, rfl, hblank, hfeed, hret⟩ := he.mark
      have hplain : isBasicPlain '\\' = false := by decide
      rw [List.cons_append, List.cons_append] at hread ⊢
      simp [basicPiece, hplain, lineJoin_run_eq_none hblank hfeed hret, hread]

/-- What the writer puts between three double quotes stands for the string. -/
theorem multilineBody_escapeBody {run : Nat} (h : run ≤ 2) (cs : List Char) :
    MultilineBody '"' basicPiece run (escapeBody true 2 run cs) cs := by
  induction cs generalizing run with
  | nil => exact .nil h
  | cons c r ih =>
      by_cases hc : c = '"'
      · subst hc
        -- The writer escapes every third quote in a row.
        by_cases hrun : run < 2
        · have hmore : MultilineBody '"' basicPiece (run + 1) (escapeBody true 2 (run + 1) r) r :=
            ih hrun
          simpa [escapeBody, hrun] using hmore.quote
        · have hquote : basicPiece.Reads ['\\', '"'] ['"'] :=
            Spells.reads_piece (.escaped .quote)
          simpa [escapeBody, hrun] using
            MultilineBody.piece h (by decide) hquote (ih (Nat.zero_le 2))
      · have hspells := escapeOther_spells true hc
        obtain ⟨d, tail, hw, hd, -⟩ := hspells.head
        have hread := hspells.reads_piece
        rw [hw] at hread
        simpa [escapeBody, hc, hw] using MultilineBody.piece h hd hread (ih (Nat.zero_le 2))

/-- Every run is at least as long as the part of it that was counted before. -/
theorem le_longestRun (q : Char) (run : Nat) (cs : List Char) : run ≤ longestRun q run cs := by
  induction cs generalizing run with
  | nil => exact Nat.le_refl run
  | cons c r ih =>
      by_cases hc : c = q
      · simpa [longestRun, hc] using Nat.le_trans (Nat.le_succ run) (ih (run + 1))
      · rw [longestRun, if_neg hc]
        exact Nat.le_max_left run (longestRun q 0 r)

theorem ne_of_longestRun_eq_zero {q : Char} {cs : List Char} (h : longestRun q 0 cs = 0) :
    ∀ c ∈ cs, c ≠ q := by
  induction cs with
  | nil => simp
  | cons c r ih =>
      by_cases hc : c = q
      · have hone := le_longestRun q (0 + 1) r
        simp only [longestRun, hc, if_true] at h
        omega
      · have hr : longestRun q 0 r = 0 := by simpa [longestRun, hc] using h
        intro d hd
        rcases List.mem_cons.1 hd with rfl | hd
        · exact hc
        · exact ih hr d hd

/-- A string without control characters and with at most two single quotes in a row stands for
itself between three single quotes. -/
theorem multilineBody_self {run : Nat} {cs : List Char}
    (control : ∀ c ∈ cs, isControl c = false) (h : longestRun '\'' run cs ≤ 2) :
    MultilineBody '\'' literalPiece run cs cs := by
  induction cs generalizing run with
  | nil => exact .nil h
  | cons c r ih =>
      have hr : ∀ d ∈ r, isControl d = false := fun d hd => control d (List.mem_cons_of_mem c hd)
      by_cases hc : c = '\''
      · subst hc
        exact .quote (ih hr (by simpa [longestRun] using h))
      · have hmax : run ≤ 2 ∧ longestRun '\'' 0 r ≤ 2 :=
          Nat.max_le.1 (by simpa [longestRun, hc] using h)
        -- A line feed is read by the second alternative, every other character by the first.
        have hread : literalPiece.Reads [c] [c] := by
          intro rest
          by_cases hfeed : c = '\n'
          · subst hfeed
            have hplain : isLiteralPlain '\n' = false := by decide
            simp [literalPiece, hplain, lineFeed, newline, afterPrefix?]
          · have hplain := isLiteralPlain_of_not_isControl (control c List.mem_cons_self) hfeed hc
            simp [literalPiece, hplain]
        exact .piece hmax.1 hc hread (ih hr hmax.2)

end Toml
end BuildStamp
