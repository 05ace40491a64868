import BuildStamp.Rehearsal.Script.Word

/-!
# Grammar — reading the tokens and the commands of a script

* `Token.Wish` — what a token may be;
* `Token.read`, `Token.giveBack` — the next token;
* `Token.readHereTexts` — the texts that come behind a line;
* `Grammar.command`, `Grammar.pipeline`, `Grammar.list` — the parts of a script;
* `Script.read` — the commands of the next line.
-/

namespace BuildStamp
namespace Rehearsal
namespace Token

/-- What a token may be. -/
structure Wish where
  skipsLines : Bool := false
  keywords : Bool := false
  aliases : Bool := false

def Wish.command : Wish := { keywords := true, aliases := true }

def Wish.commandBelow : Wish := { skipsLines := true, keywords := true, aliases := true }

def keywords : List String :=
  ["!", "case", "do", "done", "elif", "else", "esac", "fi", "for", "if", "in", "then", "until",
    "while", "\x7b", "\x7d"]

def giveBack (t : Token) : Parser Unit :=
  modify fun r => { r with held := some t }

def readHereTexts (inner : Inner) : Parser Unit := do
  let awaited := (← get).awaited
  modify fun r => { r with awaited := [] }
  for t in awaited do
    let word ← Word.readHereText inner t
    modify fun r => { r with texts := (t.number, word) :: r.texts }

/-! ## Tokens -/

def skipLine : Nat → Parser Unit
  | 0 => return
  | bound + 1 => do
      match ← Reading.take with
      | none => return
      | some '\n' => Reading.giveBack (some '\n')
      | some _ => skipLine bound

/-- A sign of one character, or of two if that character is doubled. -/
def doubled (c : Char) : Parser Token := do
  let d ← Reading.takeJoined
  if d = some c then return .sign (String.ofList [c, c])
  Reading.giveBack d
  return .sign c.toString

/-- The beginning of a redirection, behind its first character. -/
def arrowFrom (isOutput : Bool) (channel : Nat) : Parser Arrow := do
  let c ← Reading.takeJoined
  match isOutput, c with
  | true, some '>' => return .file channel .appending false
  | true, some '|' => return .file channel .writing true
  | true, some '&' => return .copy channel
  | true, c =>
      Reading.giveBack c
      return .file channel .writing false
  | false, some '&' => return .copy channel
  | false, some '>' => return .file channel .both false
  | false, some '<' =>
      let c ← Reading.takeJoined
      if c = some '-' then return .hereText channel true
      Reading.giveBack c
      return .hereText channel false
  | false, c =>
      Reading.giveBack c
      return .file channel .reading false

def channelOf? (d : Draft) (isOutput : Bool) : Option Nat :=
  if d.isQuoted then none
  else
    match d.pieces with
    | [] => some (if isOutput then 1 else 0)
    | [.text false text] =>
        match text.toList with
        | [c] => if c.isDigit then some (c.toNat - 48) else none
        | _ => none
    | _ => none

/-- Reads a word, or the beginning of a redirection. -/
def wordFrom (inner : Inner) (aim : Aim) (c : Option Char) : Parser Token := do
  let (d, behind) ← Word.read inner aim c
  let isOutput := behind = some '>'
  match if isOutput || behind = some '<' then channelOf? d isOutput else none with
  | some channel => return .arrow (← arrowFrom isOutput channel)
  | none =>
      Reading.giveBack behind
      return .word d.pieces.reverse d.isQuoted

def readPlain (inner : Inner) (aim : Aim) : Nat → Parser Token
  | 0 => return .scriptEnd
  | bound + 1 => do
      let c ← Reading.takeJoined
      match c with
      | none => return .scriptEnd
      | some ' ' => readPlain inner aim bound
      | some '\t' => readPlain inner aim bound
      | some '#' =>
          skipLine Reading.enough
          readPlain inner aim bound
      | some '\n' => return .lineEnd
      | some '&' => doubled '&'
      | some '|' => doubled '|'
      | some ';' => doubled ';'
      | some '(' => return .sign "("
      | some ')' => return .sign ")"
      | c => wordFrom inner aim c

/-- Takes the token that was put back, or reads the next one. -/
def readNext (inner : Inner) (aim : Aim) : Parser Token := do
  match (← get).held with
  | some t =>
      modify fun r => { r with held := none }
      return t
  | none => readPlain inner aim Reading.enough

/-- Reads tokens up to one that is not the end of a line, and the texts between. -/
def passLines (inner : Inner) : Nat → Token → Parser Token
  | bound + 1, .lineEnd => do
      readHereTexts inner
      passLines inner bound (← readNext inner .word)
  | _, t => return t

/-- The text that a word stands for, unless that is being read. -/
def aliasOf? (r : Reading) (text : String) : Option String :=
  if r.used.any (·.1 = text) then none else r.aliases.lookup text

def substitute (name text : String) : Parser Unit :=
  modify fun r =>
    { r with
      rest := text.toList ++ Reading.aliasEnd :: r.rest
      used := (name, text) :: r.used }

def readUpTo (inner : Inner) (wish : Wish) : Nat → Parser Token
  | 0 => return .scriptEnd
  | bound + 1 => do
      let t ← readNext inner .word
      let t ← if wish.skipsLines then passLines inner Reading.enough t else pure t
      let r ← get
      let wish := { wish with aliases := wish.aliases || r.goesOn }
      set { r with goesOn := false }
      match t with
      | .word w false =>
          match Word.plainText? w with
          | none => return t
          | some text =>
              if wish.keywords && keywords.contains text then return .keyword text
              match if wish.aliases then aliasOf? r text else none with
              | some other =>
                  if other ≠ "" then substitute text other
                  readUpTo inner wish bound
              | none => return t
      | t => return t

def read (inner : Inner) (wish : Wish) : Parser Token :=
  readUpTo inner wish Reading.enough

end Token

namespace Grammar

open Token (Wish)

/-! ## Redirections -/

def redirection (inner : Inner) (a : Arrow) : Parser Redirection := do
  let aim :=
    match a with
    | .hereText .. => Aim.mark
    | _ => .word
  match ← Token.readNext inner aim with
  | .word word isQuoted =>
      match a with
      | .file channel manner isForced => return .file channel manner isForced word
      | .copy channel => return .copy channel word
      | .hereText channel isTabless =>
          let r ← get
          let t : HereText :=
            { number := r.nextText, mark := (Word.unquoted word).toList, isPlain := isQuoted,
              isTabless }
          set { r with nextText := r.nextText + 1, awaited := r.awaited ++ [t] }
          return .hereText channel t.number
  | t => Reading.refuseToken t

def redirections (inner : Inner) : Nat → Parser (List Redirection)
  | 0 => return []
  | bound + 1 => do
      match ← Token.read inner .command with
      | .arrow a =>
          let r ← redirection inner a
          return r :: (← redirections inner bound)
      | t =>
          Token.giveBack t
          return []

/-! ## Commands -/

def isName (text : String) : Bool :=
  text.toList.head?.any Draft.isNameStart && text.toList.all Draft.isNameChar

def isAssignment : Word → Bool
  | .text false text :: _ =>
      let (name, rest) := text.toList.span Draft.isNameChar
      name.head?.any Draft.isNameStart && rest.head? = some '='
  | _ => false

def specialNames : List String :=
  [".", ":", "break", "continue", "eval", "exec", "exit", "export", "local", "readonly", "return",
    "set", "shift", "times", "trap", "unset"]

/-- The parts of a command that were read, the latest ones first. -/
structure Items where
  assignments : List Word := []
  words : List Word := []
  redirections : List Redirection := []

def function (inner : Inner) (name : Option String) : Parser Script := do
  let t ← Token.read inner {}
  if !t.isSign ")" then Reading.refuseInstead t ")"
  match name.filter fun n => isName n && !specialNames.contains n with
  | none => Reading.refuse "Bad function name"
  | some name =>
      let line := (← get).line
      return .function line name (← inner .command)

def simpleFrom (inner : Inner) (line : Nat) : Nat → Items → Parser Script
  | 0, _ => return .nothing
  | bound + 1, items => do
      let isStart := items.words = []
      match ← Token.read inner { aliases := isStart } with
      | .word word _ =>
          if isStart && isAssignment word then
            simpleFrom inner line bound { items with assignments := word :: items.assignments }
          else simpleFrom inner line bound { items with words := word :: items.words }
      | .arrow a =>
          let r ← redirection inner a
          simpleFrom inner line bound { items with redirections := r :: items.redirections }
      | t =>
          match items with
          | ⟨[], [name], []⟩ =>
              if t.isSign "(" then return ← function inner (Word.plainText? name)
          | _ => pure ()
          Token.giveBack t
          return .command line items.assignments.reverse items.words.reverse
            items.redirections.reverse

def expect (inner : Inner) (wish : Wish) (keyword : String) : Parser Unit := do
  let t ← Token.read inner wish
  if !t.isKeyword keyword then Reading.refuseInstead t keyword

def alternatives (inner : Inner) : Nat → Parser Script
  | 0 => return .nothing
  | bound + 1 => do
      let condition ← inner (.list .filled)
      expect inner {} "then"
      let first ← inner (.list .filled)
      match ← Token.read inner {} with
      | .keyword "elif" => return .choice condition first (← alternatives inner bound)
      | .keyword "else" => return .choice condition first (← inner (.list .filled))
      | t =>
          Token.giveBack t
          return .choice condition first .nothing

def words (inner : Inner) : Nat → Parser (List Word × Token)
  | 0 => return ([], .scriptEnd)
  | bound + 1 => do
      match ← Token.read inner {} with
      | .word word _ =>
          let (others, t) ← words inner bound
          return (word :: others, t)
      | t => return ([], t)

/-- All arguments, each as one word. -/
def allArguments : Word :=
  [.mark, .value "@" .plain false [], .mark]

def loopWords (inner : Inner) : Parser (List Word) := do
  match ← Token.read inner .commandBelow with
  | .keyword "in" =>
      let (ws, t) ← words inner Reading.enough
      match t with
      | .lineEnd => return ws
      | t =>
          if !t.isSign ";" then Reading.refuseToken t
          return ws
  | t =>
      if !t.isSign ";" then Token.giveBack t
      return [allArguments]

def wordLoop (inner : Inner) (line : Nat) : Parser Script := do
  match ← Token.read inner {} with
  | .word word false =>
      match (Word.plainText? word).filter isName with
      | none => Reading.refuse "Bad for loop variable"
      | some name =>
          let ws ← loopWords inner
          expect inner .commandBelow "do"
          return .each line name ws (← inner (.list .filled))
  | _ => Reading.refuse "Bad for loop variable"

def patternOf : Token → Word
  | .word word _ => word
  | .keyword text => [.text false text]
  | _ => []

/-- Reads patterns up to a bracket, given the first token of them. -/
def patterns (inner : Inner) : Nat → Token → Parser (List Word)
  | 0, _ => return []
  | bound + 1, t => do
      let next ← Token.read inner {}
      if next.isSign "|" then
        return patternOf t :: (← patterns inner bound (← Token.read inner {}))
      if !next.isSign ")" then Reading.refuseInstead next ")"
      return [patternOf t]

def branches (inner : Inner) : Nat → Parser Branches
  | 0 => return .none
  | bound + 1 => do
      let wish : Wish := { skipsLines := true, keywords := true }
      let t ← Token.read inner wish
      if t.isKeyword "esac" then return .none
      let t ← if t.isSign "(" then Token.read inner {} else pure t
      let ps ← patterns inner Reading.enough t
      let body ← inner (.list .loose)
      let t ← Token.read inner wish
      if t.isKeyword "esac" then return .branch ps body .none
      if !t.isSign ";;" then Reading.refuseInstead t ";;"
      return .branch ps body (← branches inner bound)

def patternChoice (inner : Inner) (line : Nat) : Parser Script := do
  match ← Token.read inner {} with
  | .word word _ =>
      expect inner .commandBelow "in"
      return .fitting line word (← branches inner Reading.enough)
  | t => Reading.refuse (t.describe ++ " unexpected (expecting word)")

def conditionLoop (inner : Inner) (isOpposite : Bool) : Parser Script := do
  let condition ← inner (.list .filled)
  expect inner {} "do"
  return .loop isOpposite condition (← inner (.list .filled))

def withRedirections (line : Nat) (script : Script) (rs : List Redirection) : Script :=
  match rs, script with
  | [], script => script
  | rs, .separate line body _ => .separate line body rs
  | rs, script => .redirected line script rs

def command (inner : Inner) (wish : Wish) : Parser Script := do
  let t ← Token.read inner wish
  let line := (← get).line
  let closed (body : Parser Script) (keyword : String) : Parser Script := do
    let script ← body
    expect inner {} keyword
    return script
  let compound : Parser Script :=
    match t with
    | .keyword "if" => closed (alternatives inner Reading.enough) "fi"
    | .keyword "while" => closed (conditionLoop inner false) "done"
    | .keyword "until" => closed (conditionLoop inner true) "done"
    | .keyword "for" => closed (wordLoop inner line) "done"
    | .keyword "case" => patternChoice inner line
    | .keyword "\x7b" => closed (inner (.list .filled)) "\x7d"
    | .sign "(" => do
        let body ← inner (.list .filled)
        let t ← Token.read inner {}
        if !t.isSign ")" then Reading.refuseInstead t ")"
        return .separate line body []
    | t => Reading.refuseToken t
  match t with
  | .word .. =>
      Token.giveBack t
      simpleFrom inner line Reading.enough {}
  | .arrow _ =>
      Token.giveBack t
      simpleFrom inner line Reading.enough {}
  | _ =>
      let script ← compound
      return withRedirections line script (← redirections inner Reading.enough)

/-! ## Lists -/

def pipelineParts (inner : Inner) : Nat → Parser (List Script)
  | 0 => return []
  | bound + 1 => do
      let t ← Token.read inner {}
      if t.isSign "|" then
        let part ← command inner .commandBelow
        return part :: (← pipelineParts inner bound)
      Token.giveBack t
      return []

def pipeline (inner : Inner) (wish : Wish) : Parser Script := do
  let t ← Token.read inner wish
  let isNegated := t.isKeyword "!"
  if !isNegated then Token.giveBack t
  let first ← command inner (if isNegated then .command else {})
  let script ← match ← pipelineParts inner Reading.enough with
    | [] => pure first
    | parts => pure (Script.pipeline (first :: parts) false)
  return if isNegated then .negated script else script

def conditional (inner : Inner) : Nat → Script → Parser Script
  | 0, first => return first
  | bound + 1, first => do
      match ← Token.read inner {} with
      | .sign "&&" => conditional inner bound (.both first (← pipeline inner .commandBelow))
      | .sign "||" => conditional inner bound (.either first (← pipeline inner .commandBelow))
      | t =>
          Token.giveBack t
          return first

def unawaited (line : Nat) : Script → Script
  | .pipeline parts _ => .pipeline parts true
  | .redirected line body rs => .background line body rs
  | script => .background line script []

/-- One script behind another, if there is another. -/
def behind (before : Option Script) (script : Script) : Script :=
  match before with
  | none => script
  | some first => .sequence first script

def endsList : Token → Bool
  | .scriptEnd => true
  | .sign ")" => true
  | .sign ";;" => true
  | .keyword k => ["do", "done", "elif", "else", "esac", "fi", "then", "\x7d"].contains k
  | _ => false

def listFrom (inner : Inner) (kind : ListKind) : Nat → Option Script → Parser (Option Script)
  | 0, before => return before
  | bound + 1, before => do
      let wish : Wish := { skipsLines := kind ≠ .line, keywords := true, aliases := true }
      let t ← Token.read inner wish
      match t with
      | .lineEnd =>
          Token.readHereTexts inner
          return before
      | .scriptEnd =>
          Token.readHereTexts inner
          Token.giveBack t
          return before
      | _ => pure ()
      Token.giveBack t
      let mayEnd := kind = .loose || (kind = .filled && before.isSome)
      if mayEnd && endsList t then return before
      let line := (← get).line
      let script ← conditional inner Reading.enough (← pipeline inner {})
      let t ← Token.read inner {}
      let script := if t.isSign "&" then unawaited line script else script
      let all := some (behind before script)
      match t with
      | .lineEnd =>
          Token.giveBack t
          listFrom inner kind bound all
      | .scriptEnd =>
          Token.giveBack t
          listFrom inner kind bound all
      | _ =>
          if t.isSign "&" || t.isSign ";" then listFrom inner kind bound all
          else if kind = .line then Reading.refuseToken t
          else
            Token.giveBack t
            return all

def list (inner : Inner) (kind : ListKind) : Parser Script := do
  return (← listFrom inner kind Reading.enough none).getD .nothing

/-- Reads a list and the bracket behind it.  Texts that were asked for inside are empty if they have
not come by then. -/
def bracketed (inner : Inner) : Parser Script := do
  let awaited := (← get).awaited
  modify fun r => { r with awaited := [] }
  let script ← list inner .loose
  let t ← Token.read inner {}
  if !t.isSign ")" then Reading.refuseInstead t ")"
  modify fun r => { r with awaited }
  return script

/-- Reads a part of a script, with others inside it at most so deep. -/
def part : Nat → Part → Parser Script
  | 0, _ => Reading.refuse "Too deep"
  | depth + 1, .list kind => list (part depth) kind
  | depth + 1, .bracketed => bracketed (part depth)
  | depth + 1, .command => command (part depth) .commandBelow

end Grammar

namespace Script

/-- Reads the commands of the next line, or nothing at the end. -/
def read : Parser (Option Script) := do
  match ← Grammar.listFrom (Grammar.part Reading.enough) .line Reading.enough none with
  | some script => return some script
  | none =>
      match (← get).held with
      | some .scriptEnd => return none
      | _ => return some .nothing

end Script
end Rehearsal
end BuildStamp
