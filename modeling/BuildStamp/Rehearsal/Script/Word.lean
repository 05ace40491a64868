import BuildStamp.Rehearsal.World
import BuildStamp.Text.Reader

/-!
# Word — scripts, and the reading of their words

Commands have words and redirections, and are combined by lists, conditions, pipelines, groups,
loops and functions.  Texts inside a script that become the input of a command have numbers, and are
kept elsewhere.  A word is read character by character.  Quotes and brackets decide what a character
means.

* `Form`, `Piece`, `Word` — words;
* `Redirection` — what becomes of channels;
* `Script`, `Branches` — scripts;
* `Token` — the words and signs that a script is made of;
* `HereText` — a text that comes behind the line in which it is asked for;
* `Reading`, `Fault`, `Parser` — the state of a reading, and what changes it or fails;
* `Reading.take`, `Reading.takeJoined` — the next character;
* `Part` — what words have in common with the rest of a script;
* `Level`, `Draft` — a word that is being read;
* `Draft.step` — one character more;
* `Word.read` — a whole word, or a text that comes behind a line.
-/

namespace BuildStamp
namespace Rehearsal

/-! ## Scripts -/

/-- What is made of the value of a parameter and the word behind it. -/
inductive Form where
  | plain
  | size
  | minus
  | plus
  -- The value, which becomes the word if there is none.
  | assign
  -- The value, or else an error of which the word tells.
  | complain
  | withoutFront (isLongest : Bool)
  | withoutBack (isLongest : Bool)
  | senseless
  deriving DecidableEq, Repr

mutual

/-- A piece of a word. -/
inductive Piece : Type where
  | text (isQuoted : Bool) (text : String)
  | mark
  -- What is made of the value of a parameter, where an empty value may count as none.
  | value (name : String) (form : Form) (emptyIsNone : Bool) (word : List Piece)
  | output (script : Script)
  | sum (word : List Piece)

/-- What becomes of a channel. -/
inductive Redirection : Type where
  | file (channel : Nat) (manner : Manner) (isForced : Bool) (name : List Piece)
  | copy (channel : Nat) (source : List Piece)
  | hereText (channel : Nat) (number : Nat)

/-- A script. -/
inductive Script : Type where
  | nothing
  | command (line : Nat) (assignments words : List (List Piece))
      (redirections : List Redirection)
  -- A script whose redirections hold for all of it.
  | redirected (line : Nat) (body : Script) (redirections : List Redirection)
  | separate (line : Nat) (body : Script) (redirections : List Redirection)
  -- The same in a process that is not waited for.
  | background (line : Nat) (body : Script) (redirections : List Redirection)
  | pipeline (parts : List Script) (isBackground : Bool)
  | negated (body : Script)
  | sequence (first second : Script)
  | both (first second : Script)
  | either (first second : Script)
  | choice (condition first second : Script)
  -- The body again and again, for as long as the condition holds or does not hold.
  | loop (isOpposite : Bool) (condition body : Script)
  | each (line : Nat) (name : String) (words : List (List Piece)) (body : Script)
  | fitting (line : Nat) (word : List Piece) (branches : Branches)
  | function (line : Nat) (name : String) (body : Script)

/-- Scripts with patterns. -/
inductive Branches : Type where
  | none
  | branch (patterns : List (List Piece)) (body : Script) (others : Branches)

end

abbrev Word := List Piece

namespace Word

/-- The text of a word that is nothing but a text without quotes. -/
def plainText? : Word → Option String
  | [] => some ""
  | [.text false text] => some text
  | _ => none

end Word

/-! ## Tokens -/

/-- The beginning of a redirection. -/
inductive Arrow where
  | file (channel : Nat) (manner : Manner) (isForced : Bool)
  | copy (channel : Nat)
  -- To a text in the script, whose lines may begin with tabs that do not count.
  | hereText (channel : Nat) (isTabless : Bool)

/-- A word or a sign. -/
inductive Token where
  | scriptEnd
  | lineEnd
  | sign (text : String)
  | arrow (arrow : Arrow)
  | word (word : Word) (isQuoted : Bool)
  | keyword (text : String)

namespace Token

def describe : Token → String
  | .scriptEnd => "end of file"
  | .lineEnd => "newline"
  | .sign text => "\"" ++ text ++ "\""
  | .arrow _ => "redirection"
  | .word .. => "word"
  | .keyword text => "\"" ++ text ++ "\""

def isSign (t : Token) (text : String) : Bool :=
  match t with
  | .sign other => other = text
  | _ => false

def isKeyword (t : Token) (text : String) : Bool :=
  match t with
  | .keyword other => other = text
  | _ => false

end Token

/-! ## The state -/

/-- A text that comes behind the line in which it is asked for. -/
structure HereText where
  number : Nat
  mark : List Char
  isPlain : Bool
  -- Whether its lines may begin with tabs that do not count.
  isTabless : Bool

/-- How far the reading of a script has come. -/
structure Reading where
  rest : List Char
  isWhole : Bool
  line : Nat := 1
  held : Option Token := none
  awaited : List HereText := []
  texts : List (Nat × Word) := []
  nextText : Nat := 0
  aliases : List (String × String) := []
  -- Those of them that are being read.
  used : List (String × String) := []
  -- Whether the next word may be one of them because the last one ended in a blank.
  goesOn : Bool := false

/-- Why a reading fails. -/
inductive Fault where
  | unfinished
  | senseless (line : Nat) (reason : String)
  deriving Repr

abbrev Parser := StateT Reading (Except Fault)

namespace Reading

def enough : Nat := 2 ^ 62

def refuse {α : Type} (reason : String) : Parser α := do
  throw (.senseless (← get).line reason)

def refuseToken {α : Type} (t : Token) : Parser α :=
  refuse (t.describe ++ " unexpected")

def refuseInstead {α : Type} (t : Token) (needed : String) : Parser α :=
  refuse (t.describe ++ " unexpected (expecting \"" ++ needed ++ "\")")

/-! ## Characters -/

/-- What stands behind a text that another word stands for.  No byte is this character. -/
def aliasEnd : Char := '\u0100'

def closeAlias (r : Reading) : Reading :=
  match r.used with
  | [] => r
  | (_, text) :: used =>
      let isBlank (c : Char) := c = ' ' || c = '\t'
      { r with used, goesOn := r.goesOn || text.toList.getLast?.any isBlank }

def next? (r : Reading) : List Char → Except Fault (Option Char × Reading)
  | [] => if r.isWhole then .ok (none, { r with rest := [] }) else .error .unfinished
  | c :: rest =>
      if c = aliasEnd then next? r.closeAlias rest
      else .ok (some c, { r with rest, line := if c = '\n' then r.line + 1 else r.line })

/-- Takes the next character, or none at the end. -/
def take : Parser (Option Char) := do
  let r ← get
  let (c, r) ← r.next? r.rest
  set r
  return c

def giveBack : Option Char → Parser Unit
  | none => return
  | some c => modify fun r =>
      { r with rest := c :: r.rest, line := if c = '\n' then r.line - 1 else r.line }

/-- Takes the next character, where lines that end in a backslash go on in the next line. -/
def takeJoined : Parser (Option Char) :=
  go enough
where
  /-- The same for at most so many lines. -/
  go : Nat → Parser (Option Char)
    | 0 => take
    | bound + 1 => do
        let c ← take
        if c ≠ some '\\' then return c
        let d ← take
        if d = some '\n' then go bound
        else
          giveBack d
          return c

end Reading

/-! ## Words that are being read -/

/-- Where a list of commands ends. -/
inductive ListKind where
  | line
  -- At a word or a sign that cannot begin a command. There is at least one command.
  | filled
  | loose
  deriving DecidableEq

/-- A part of a script that holds others. -/
inductive Part where
  | list (kind : ListKind)
  | bracketed
  | command

abbrev Inner := Part → Parser Script

/-- How a character is meant. -/
inductive Tone where
  | bare
  | double
  | single
  | sum
  deriving DecidableEq

/-- What decides how the next character is meant. -/
structure Level where
  tone : Tone := .bare
  isDouble : Bool := false
  values : Nat := 0
  doubleValues : Nat := 0
  -- Whether quotes inside of a value are open.
  isInner : Bool := false
  brackets : Nat := 0
  -- Whether it ends with its last value.
  isOwn : Bool := false

/-- What is open. -/
inductive Opened where
  | value (name : String) (form : Form) (emptyIsNone : Bool)
  | sum

/-- What is read. -/
inductive Aim where
  | word
  | mark
  | hereText (text : HereText)

/-- A word that is being read. -/
structure Draft where
  aim : Aim
  level : Level
  outer : List Level := []
  pieces : List Piece := []
  opened : List (Opened × List Piece) := []
  isQuoted : Bool := false

namespace Draft

def isText (d : Draft) : Bool :=
  match d.aim with
  | .hereText _ => true
  | _ => false

def put (d : Draft) (isQuoted : Bool) (c : Char) : Draft :=
  let pieces :=
    match d.pieces with
    | .text quoted text :: rest =>
        if quoted = isQuoted then .text quoted (text.push c) :: rest
        else .text isQuoted c.toString :: .text quoted text :: rest
    | pieces => .text isQuoted c.toString :: pieces
  { d with pieces }

def putAsMeant (d : Draft) (c : Char) : Draft :=
  d.put (d.level.tone ≠ .bare) c

def add (d : Draft) (p : Piece) : Draft :=
  { d with pieces := p :: d.pieces }

/-- Adds a quotation mark, which texts have none of. -/
def addMark (d : Draft) : Draft :=
  if d.isText then d else d.add .mark

def openPart (d : Draft) (o : Opened) : Draft :=
  { d with opened := (o, d.pieces) :: d.opened, pieces := [] }

def closePart (d : Draft) : Draft :=
  match d.opened with
  | [] => d
  | (o, before) :: opened =>
      let word := d.pieces.reverse
      let piece :=
        match o with
        | .value name form emptyIsNone => Piece.value name form emptyIsNone word
        | .sum => .sum word
      { d with opened, pieces := piece :: before }

def relevel (d : Draft) (f : Level → Level) : Draft :=
  { d with level := f d.level }

def push (d : Draft) (level : Level) : Draft :=
  { d with level, outer := d.level :: d.outer }

def pop (d : Draft) : Draft :=
  match d.outer with
  | [] => d
  | level :: outer => { d with level, outer }

/-! ## Quotes -/

def turnInner (d : Draft) : Draft :=
  d.relevel fun l => if 0 < l.values then { l with isInner := !l.isInner } else l

def endQuotes (d : Draft) (c : Char) : Draft :=
  if d.isText && d.level.values = 0 then d.putAsMeant c
  else
    let d := d.relevel fun l =>
      if l.doubleValues = 0 then { l with tone := .bare, isDouble := false } else l
    let d := { d with isQuoted := true }
    (if c = '"' then d.turnInner else d).addMark

def escaped (d : Draft) : Parser Draft := do
  let c ← Reading.take
  let l := d.level
  match c with
  | none => return d.put true '\\'
  | some c =>
      let loses := c = '\\' || c = '`' || c = '$' ||
        (c = '"' && !(d.isText && l.values = 0)) || (c = '\x7d' && l.values ≠ 0)
      let d := if l.isDouble && !loses then d.put true '\\' else d
      return { d.put true c with isQuoted := true }

/-! ## Values -/

def isNameStart (c : Char) : Bool :=
  c.isAlpha || c = '_'

def isNameChar (c : Char) : Bool :=
  c.isAlphanum || c = '_'

def isSpecial (c : Char) : Bool :=
  "#?$!-*@".toList.contains c || c.isDigit

/-- Takes characters of a name, and the one behind them. -/
def nameFrom (isPart : Char → Bool) : Nat → List Char → Option Char →
    Parser (List Char × Option Char)
  | bound + 1, name, some c =>
      if isPart c then do nameFrom isPart bound (c :: name) (← Reading.takeJoined)
      else return (name.reverse, some c)
  | _, name, c => return (name.reverse, c)

def formOf? : Char → Option Form
  | '\x7d' => some .plain
  | '-' => some .minus
  | '+' => some .plus
  | '?' => some .complain
  | '=' => some .assign
  | _ => none

/-- Takes the form of a value, given the character behind its name. -/
def formFrom (c : Option Char) : Parser (Form × Bool) := do
  match c with
  | some ':' =>
      let c ← Reading.takeJoined
      return ((c.bind formOf?).getD .senseless, true)
  | some '%' =>
      let c ← Reading.takeJoined
      if c = some '%' then return (.withoutBack true, false)
      Reading.giveBack c
      return (.withoutBack false, false)
  | some '#' =>
      let c ← Reading.takeJoined
      if c = some '#' then return (.withoutFront true, false)
      Reading.giveBack c
      return (.withoutFront false, false)
  | c =>
      if c = some '\n' then modify fun r => { r with line := r.line - 1 }
      return ((c.bind formOf?).getD .senseless, false)

abbrev Head := String × Form × Bool

/-- A value without a form, in front of a character. -/
def senselessBefore (name : String) (c : Option Char) : Parser Head := do
  Reading.giveBack c
  return (name, .senseless, false)

/-- The length of a value of which the name is known, in front of a character. -/
def sizeBefore (name : String) (c : Option Char) : Parser Head := do
  Reading.giveBack c
  return (name, if c = some '\x7d' then .size else .senseless, false)

/-- A value whose name and form are known, given the character behind the name. -/
def withForm (name : String) (c : Option Char) : Parser Head := do
  let (form, emptyIsNone) ← formFrom c
  return (name, form, emptyIsNone)

/-- Takes a name or a number, given its first character, and the character behind it. -/
def fullName? (c : Option Char) : Parser (Option (String × Option Char)) := do
  match c with
  | none => return none
  | some first =>
      let isPart := if isNameStart first then isNameChar else Char.isDigit
      if !isNameStart first && !first.isDigit then return none
      let (name, behind) ← nameFrom isPart Reading.enough [] c
      return some (String.ofList name, behind)

def sizeOrCount : Parser Head := do
  let c ← Reading.takeJoined
  match ← fullName? c with
  | some (name, behind) => sizeBefore name behind
  | none =>
      let behind ← Reading.takeJoined
      if c ≠ some '\x7d' && behind = some '\x7d' then
        match c with
        | some special =>
            if isSpecial special then sizeBefore special.toString behind
            else senselessBefore "" behind
        | none => senselessBefore "" behind
      else
        Reading.giveBack behind
        withForm "#" c

def braced : Parser Head := do
  let c ← Reading.takeJoined
  match ← fullName? c with
  | some (name, behind) => withForm name behind
  | none =>
      match c with
      | some '\x7d' => senselessBefore "" c
      | some '#' => sizeOrCount
      | none => senselessBefore "" c
      | some special =>
          let behind ← Reading.takeJoined
          if isSpecial special then withForm special.toString behind
          else senselessBefore "" behind

def openValue (d : Draft) (h : Head) : Draft :=
  let (name, form, emptyIsNone) := h
  if form = .plain && !emptyIsNone then d.add (.value name .plain false [])
  else
    let isCut :=
      match form with
      | .withoutFront _ => true
      | .withoutBack _ => true
      | _ => false
    let tone := if isCut then .bare else if d.level.tone = .sum then .double else d.level.tone
    let d :=
      if tone ≠ d.level.tone || d.level.isInner then
        d.push { tone, isOwn := true, isDouble := tone ≠ .bare }
      else d
    let d := d.relevel fun l =>
      { l with
        values := l.values + 1
        doubleValues := if l.isDouble then l.doubleValues + 1 else l.doubleValues }
    d.openPart (.value name form emptyIsNone)

/-- Closes a value at a brace, if one is open. -/
def closeValue (d : Draft) : Draft :=
  let l := d.level
  if l.isInner || l.values = 0 then d.putAsMeant '\x7d'
  else
    let values := l.values - 1
    let d :=
      if values = 0 && l.isOwn then d.pop
      else { d with level := { l with values, doubleValues := l.doubleValues - 1 } }
    d.closePart

def afterDollar (inner : Inner) (d : Draft) : Parser Draft := do
  let c ← Reading.takeJoined
  let isMark :=
    match d.aim with
    | .mark => true
    | _ => false
  match if isMark then none else c with
  | some '(' =>
      let next ← Reading.takeJoined
      if next = some '(' then
        return (d.push { tone := .sum, isDouble := true }).openPart .sum
      Reading.giveBack next
      return d.add (.output (← inner .bracketed))
  | some '\x7b' => return d.openValue (← braced)
  | some first =>
      if isNameStart first then
        let (name, behind) ← nameFrom isNameChar Reading.enough [] c
        Reading.giveBack behind
        return d.add (.value (String.ofList name) .plain false [])
      else if isSpecial first then return d.add (.value first.toString .plain false [])
      else
        Reading.giveBack c
        return d.putAsMeant '$'
  | none =>
      Reading.giveBack c
      return d.putAsMeant '$'

/-! ## Backquotes -/

def quotedScript (isDouble : Bool) : Nat → List Char → Parser (List Char)
  | 0, _ => Reading.refuse "EOF in backquote substitution"
  | bound + 1, before => do
      match ← Reading.takeJoined with
      | none => Reading.refuse "EOF in backquote substitution"
      | some '`' => return before.reverse
      | some '\\' =>
          match ← Reading.take with
          | none => return before.reverse
          | some c =>
              let loses := c = '\\' || c = '`' || c = '$' || (isDouble && c = '"')
              quotedScript isDouble bound (if loses then c :: before else c :: '\\' :: before)
      | some c => quotedScript isDouble bound (c :: before)

def afterBackquote (inner : Inner) (d : Draft) : Parser Draft := do
  let script ← quotedScript d.level.isDouble Reading.enough []
  let around ← get
  set { around with rest := script, isWhole := true, line := 1, held := none, awaited := [] }
  let output ← inner (.list .loose)
  modify fun r =>
    { around with texts := r.texts, nextText := r.nextText, goesOn := r.goesOn }
  return d.add (.output output)

/-! ## Characters -/

def isDelimiter (c : Char) : Bool :=
  "<>();&| \t".toList.contains c

def closeBracket (d : Draft) : Parser Draft := do
  if 0 < d.level.brackets then
    return (d.relevel fun l => { l with brackets := l.brackets - 1 }).putAsMeant ')'
  let c ← Reading.takeJoined
  if c = some ')' then return d.pop.closePart
  Reading.giveBack c
  return d.putAsMeant ')'

/-- One character more, unless the word ends in front of it. -/
def step (inner : Inner) (d : Draft) (c : Char) : Parser (Option Draft) := do
  let l := d.level
  match l.tone, c with
  | .single, '\'' => return some (d.endQuotes c)
  | .single, _ => return some (d.putAsMeant c)
  | _, '\\' => return some (← d.escaped)
  | _, '$' => return some (← d.afterDollar inner)
  | _, '`' =>
      match d.aim with
      | .mark => return some (d.putAsMeant c)
      | _ => return some (← d.afterBackquote inner)
  | _, '\x7d' => return some d.closeValue
  | .double, '"' => return some (d.endQuotes c)
  | .double, _ => return some (d.putAsMeant c)
  | .sum, '(' =>
      return some ((d.relevel fun l => { l with brackets := l.brackets + 1 }).putAsMeant c)
  | .sum, ')' => return some (← d.closeBracket)
  | .sum, _ => return some (d.putAsMeant c)
  | .bare, '\'' => return some (d.relevel ({ · with tone := .single })).addMark
  | .bare, '"' =>
      return some (d.relevel ({ · with tone := .double, isDouble := true })).turnInner.addMark
  | .bare, _ =>
      if (c = '\n' || isDelimiter c) && l.values = 0 then return none
      return some (d.putAsMeant c)

/-- Whether a text ends in front of a line, given its first character and what is behind that. -/
def endsAt (t : HereText) (isWhole : Bool) (line : List Char) : Except Fault (Option (List Char)) :=
  if t.mark.isPrefixOf line then
    match line.drop t.mark.length with
    | [] => if isWhole then .ok (some []) else .error .unfinished
    | '\n' :: rest => .ok (some rest)
    | _ => .ok none
  else if line.isPrefixOf t.mark && !isWhole then .error .unfinished
  else .ok none

/-- Takes the tabs in front of a line, given its first character. -/
def withoutTabs : Nat → Option Char → Parser (Option Char)
  | bound + 1, some '\t' => do withoutTabs bound (← Reading.take)
  | _, c => return c

/-- Takes the first character of a line, or none if a text ends in front of it. -/
def beginLine (d : Draft) (c : Option Char) : Parser (Option Char) := do
  match d.aim with
  | .hereText t =>
      let c ← if t.isTabless then withoutTabs Reading.enough c else pure c
      let r ← get
      match ← endsAt t r.isWhole (c.toList ++ r.rest) with
      | some rest =>
          let line := if c = some '\n' then r.line else r.line + 1
          set { r with rest, line }
          return none
      | none => return c
  | _ => return c

def takeNext (d : Draft) : Parser (Option Char) :=
  if d.level.tone = .single then Reading.take else Reading.takeJoined

/-- Takes characters from a certain one on, for as long as they belong to the word. -/
def readFrom (inner : Inner) : Nat → Draft → Option Char → Parser (Draft × Option Char)
  | 0, d, c => return (d, c)
  | _, d, none => return (d, none)
  | bound + 1, d, some c => do
      match ← d.step inner c with
      | none => return (d, some c)
      | some d =>
          let next ← d.takeNext
          let next ← if c = '\n' then d.beginLine next else pure next
          readFrom inner bound d next

def check (d : Draft) : Parser Unit := do
  if d.level.tone = .sum then Reading.refuse "Missing '))'"
  if d.level.tone ≠ .bare && !d.isText then Reading.refuse "Unterminated quoted string"
  if d.level.values ≠ 0 then Reading.refuse "Missing '\x7d'"

end Draft

namespace Word

/-- Reads a word from a character on, and gives the character behind it. -/
def read (inner : Inner) (aim : Aim) (c : Option Char) : Parser (Draft × Option Char) := do
  let start : Level :=
    match aim with
    | .hereText t =>
        if t.isPlain then { tone := .single } else { tone := .double, isDouble := true }
    | _ => {}
  let d : Draft := { aim, level := start }
  let c ← d.beginLine c
  let (d, c) ← d.readFrom inner Reading.enough c
  d.check
  return (d, c)

def readHereText (inner : Inner) (t : HereText) : Parser Word := do
  let c ← if t.isPlain then Reading.take else Reading.takeJoined
  let (d, _) ← read inner (.hereText t) c
  return d.pieces.reverse

def unquoted (w : Word) : String :=
  String.join <| w.map fun
    | .text _ text => text
    | _ => ""

end Word
end Rehearsal
end BuildStamp
