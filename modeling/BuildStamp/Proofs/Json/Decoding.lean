import BuildStamp.Proofs.Json.Reading
import BuildStamp.Proofs.Text.Lines

/-!
# Decoding — build infos out of JSON texts

A decoder goes by the names of the members, whatever their order is and whatever else is there, but
it refuses a name that is missing or given twice.  It makes a build info of every text that was
written for it.

The escapes leave no control character in a string, so the text has the five lines that it is laid
out in and no others.

* `Json.decode?`, `Json.read?` — what a value, and what a text is decoded into;
* `Json.read?_render` — what was written is decoded, also with blanks behind it;
* `Json.any_isControl_string` — a literal has no control characters;
* `Json.memberLine`, `Json.lines`, `Json.splitOn_render` — the five lines.
-/

namespace BuildStamp
namespace Json

/-! ## Decoding -/

/-- The string of this name, if there is one member of the name and it is a string. -/
def field? (members : List (String × Value)) (name : String) : Option String :=
  match members.filter fun m => m.1 = name with
  | [(_, .string text)] => some text
  | _ => none

/-- The build info that a value is decoded into.  Its three texts may also be given in a row. -/
def decode? : Value → Option BuildInfo
  | .object members => do
      let buildTime ← field? members "build_time"
      let version ← field? members "version"
      let commit ← field? members "commit"
      return { buildTime, version, commit }
  | .array [.string buildTime, .string version, .string commit] =>
      some { buildTime, version, commit }
  | _ => none

/-- The build info that a text is decoded into. -/
def read? (s : String) : Option BuildInfo :=
  (parse? s).bind decode?

theorem decode?_members (info : BuildInfo) : decode? (.object (members info)) = some info :=
  rfl

/-- What was written for a build info is decoded into it. -/
theorem read?_render (info : BuildInfo) {blanks : List Char} (h : blanks.all isSpace = true) :
    read? (render info ++ String.ofList blanks) = some info := by
  unfold read?
  rw [parse?_render info blanks h, Option.bind_some, decode?_members]

/-! ## Control characters -/

/-- The control characters below the space. -/
def isControl (c : Char) : Bool :=
  c.toNat < 0x20

theorem isControl_digitChar {d : Nat} (h : d < 16) : isControl (Nat.digitChar d) = false := by
  have all : ∀ d : Fin 16, isControl (Nat.digitChar d) = false := by decide
  exact all ⟨d, h⟩

theorem any_isControl_fourDigits (n : Nat) : (fourDigits n).any isControl = false := by
  have hdigit (m : Nat) : isControl (Nat.digitChar (m % 16)) = false :=
    isControl_digitChar (Nat.mod_lt m (by decide))
  simp [fourDigits, hdigit]

/-- No escape is written with a control character, and every control character is escaped. -/
theorem any_isControl_escapeChar (c : Char) : (escapeChar c).any isControl = false := by
  -- The cases are those of the writer: seven letters, the other controls, and plain characters.
  unfold escapeChar
  split_ifs with _ _ _ _ _ _ _ hcontrol
  · decide
  · decide
  · decide
  · decide
  · decide
  · decide
  · decide
  · rw [List.any_cons, List.any_cons, any_isControl_fourDigits]
    decide
  · have hplain : ¬c.toNat < 0x20 := hcontrol
    simp [isControl, hplain]

theorem any_isControl_string (value : String) : (string value).toList.any isControl = false := by
  have hbody : (value.toList.flatMap escapeChar).any isControl = false := by
    simp [List.any_flatMap, any_isControl_escapeChar]
  rw [toList_string, List.any_cons, List.any_append, hbody]
  decide

/-! ## Lines -/

/-- A line with a member, and the comma behind it, if there is one. -/
def memberLine (name value comma : String) : List Char :=
  "  ".toList ++ (string name).toList ++ ": ".toList ++ (string value).toList ++ comma.toList

/-- The lines of the object for a build info. -/
def lines (info : BuildInfo) : List (List Char) :=
  [['{'],
    memberLine "build_time" info.buildTime ",",
    memberLine "version" info.version ",",
    memberLine "commit" info.commit "",
    ['}']]

theorem any_isControl_memberLine (name value : String) {comma : String}
    (hcomma : comma.toList.any isControl = false) :
    (memberLine name value comma).any isControl = false := by
  have hindent : "  ".toList.any isControl = false := by decide
  have hcolon : ": ".toList.any isControl = false := by decide
  simp only [memberLine, List.any_append, any_isControl_string, hindent, hcolon, hcomma,
    Bool.or_false]

/-- No line has a control character in it. -/
theorem any_isControl_of_mem_lines {info : BuildInfo} :
    ∀ row ∈ lines info, row.any isControl = false := by
  intro row hrow
  simp only [lines, List.mem_cons, List.not_mem_nil, or_false] at hrow
  rcases hrow with rfl | rfl | rfl | rfl | rfl
  · decide
  · exact any_isControl_memberLine _ _ (by decide)
  · exact any_isControl_memberLine _ _ (by decide)
  · exact any_isControl_memberLine _ _ (by decide)
  · decide

theorem isControl_of_mem_lines {info : BuildInfo} :
    ∀ row ∈ lines info, ∀ d ∈ row, isControl d = false := by
  intro row hrow d hd
  simpa using List.any_eq_false.1 (any_isControl_of_mem_lines row hrow) d hd

/-- The object and a line end are these lines, each with its line end. -/
theorem toList_render_append (info : BuildInfo) :
    (render info ++ "\n").toList = (lines info).flatMap (· ++ ['\n']) := by
  have hopening : "\x7b\n".toList = ['{', '\n'] := by decide
  have hclosing : "\x7d".toList = ['}'] := by decide
  have hfeed : "\n".toList = ['\n'] := by decide
  simp only [render, member, lines, memberLine, String.toList_append, hopening, hclosing, hfeed,
    List.flatMap_cons, List.flatMap_nil, List.append_assoc, List.cons_append, List.nil_append,
    List.append_nil]

/-- The only control characters are the line feeds. -/
theorem eq_feed_of_control {info : BuildInfo} {d : Char} (hd : d ∈ (render info ++ "\n").toList)
    (hcontrol : d.toNat < 0x20) : d = '\n' := by
  have hd' : isControl d = true := by simp [isControl, hcontrol]
  have hall : ∀ c ∈ (lines info).flatMap (· ++ ['\n']), isControl c = true → c = '\n' := by
    refine Text.forall_mem_flatMap (fun row hrow c hc hcontrol => ?_) fun _ => rfl
    rw [isControl_of_mem_lines row hrow c hc] at hcontrol
    cases hcontrol
  rw [toList_render_append] at hd
  exact hall d hd hd'

/-- Cut at its line feeds, the text is these lines. -/
theorem splitOn_render (info : BuildInfo) :
    (render info ++ "\n").toList.splitOn '\n' = lines info ++ [[]] := by
  have hfeed : ∀ row ∈ lines info, '\n' ∉ row := by
    intro row hrow hmem
    exact absurd (isControl_of_mem_lines row hrow '\n' hmem) (by decide)
  rw [toList_render_append, Text.splitOn_flatMap hfeed]

end Json
end BuildStamp
