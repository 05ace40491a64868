import BuildStamp.Host.Basic
import BuildStamp.Text.Character
import BuildStamp.Text.Reader
import BuildStamp.Text.Writing

/-!
# Log — what is reported while the tool works, and which reports are shown

A message may quote names and outputs.  Characters in it that could control a terminal are shown by
their numbers.

A directive names a part of the tool, an operation, a field of reports and a level, each of which
may be missing: `part[operation{field}]=level`.  It can ask for the value of a field by a regular
expression.  No report has such a value, so of an expression only its form matters: one that is
malformed, or that would need tables of letters which are not at hand, makes the directive
malformed.  A filter is a list of directives.  Of those that fit a report the most specific decides,
and of equally specific ones the last.

* `Log.Level` — how detailed a report is;
* `Log.Event` — one report, with the part of the tool it comes from;
* `Log.Event.line` — its wording;
* `Log.Pattern.isWellFormed` — whether a text is a regular expression;
* `Log.Limit` — the levels by name or number;
* `Log.Directive`, `Log.Directive.ofText?` — a directive, and reading one;
* `Log.Directive.fits` — whether a directive fits a report;
* `Log.Filter.ofText?` — reads directives;
* `Log.Filter.shows` — whether a report is shown;
* `Log.Filter.choose` — the filter of a run.
-/

namespace BuildStamp
namespace Log

/-! ## Reports -/

/-- How detailed a report is. -/
inductive Level where
  | error
  | warn
  | info
  | debug
  | trace
  deriving DecidableEq, Repr

namespace Level

/-- The number of a level; more detailed levels have larger ones. -/
def detail : Level → Nat
  | .error => 1
  | .warn => 2
  | .info => 3
  | .debug => 4
  | .trace => 5

def name : Level → String
  | .error => "ERROR"
  | .warn => "WARN"
  | .info => "INFO"
  | .debug => "DEBUG"
  | .trace => "TRACE"

end Level

/-- One report. -/
structure Event where
  level : Level
  target : String
  message : String
  deriving DecidableEq, Repr

/-- A character of a message, or its number if it could control a terminal. -/
def visible (c : Char) : String :=
  if ['\x07', '\x08', '\x0c', '\x1b', '\x7f'].contains c then
    "\\x" ++ Text.hexadecimalPair c.toNat
  else if 0x80 ≤ c.toNat ∧ c.toNat ≤ 0x9F then
    "\\u\x7b" ++ Text.hexadecimal c.toNat ++ "\x7d"
  else c.toString

def Event.line (e : Event) : String :=
  e.level.name ++ " " ++ e.target ++ ": " ++ String.join (e.message.toList.map visible)

/-! ## Regular expressions -/

namespace Pattern

open Text (Reader)

def isMeta (c : Char) : Bool :=
  "\\.+*?()|[\x7b^$".toList.contains c

/-- A character behind a backslash that stands for itself. -/
def isEscapable (c : Char) : Bool :=
  c.toNat < 128 && !c.isAlphanum && c ≠ '<' && c ≠ '>' && 32 ≤ c.toNat && c.toNat ≠ 127

def hexDigit : Reader Char :=
  .char fun c => c.isDigit || ('a' ≤ c && c ≤ 'f') || ('A' ≤ c && c ≤ 'F')

def coded (letter : Char) (count : Nat) : Reader Unit :=
  (List.replicate count hexDigit).foldl (fun r digit => r.before digit) (.exactly letter)

def escaped : Reader Unit :=
  let isLetter (c : Char) : Bool := isEscapable c || "aftnrvAzB".toList.contains c
  let letter := (Reader.char isLetter).map fun _ => ()
  (Reader.exactly '\\').after <|
    letter.orElse ((coded 'x' 2).orElse ((coded 'u' 4).orElse (coded 'U' 8)))

def rangeEnd : Reader (Option Char) :=
  let plain := (Reader.char fun c => c ≠ ']' && c ≠ '[' && c ≠ '\\').map some
  plain.orElse (escaped.map fun _ => none)

/-- A character or a range between brackets.  A range must not run backwards. -/
def classItem : Reader Unit :=
  let dash := (Reader.exactly '-').notBefore fun c => c = ']' || c = '-'
  (rangeEnd.thenMaybe (dash.after rangeEnd)).filterMap fun
    | (some low, some (some high)) => if low ≤ high then some () else none
    | _ => some ()

def classNames : List String :=
  ["alnum", "alpha", "ascii", "blank", "cntrl", "digit", "graph", "lower", "print", "punct",
    "space", "upper", "word", "xdigit"]

def namedClass : Reader Unit :=
  let letter := Reader.char Char.isAlpha
  let inside := ((Reader.exactly '^').maybeAfter (letter.thenMany letter)).filterMap
    fun (_, c, cs) => if classNames.contains (String.ofList (c :: cs)) then some () else none
  (Reader.word '[' [':']).after (inside.before (.word ':' [']']))

/-- A class with others inside it, at most `bound` deep. -/
def charClass : Nat → Reader Unit
  | 0 => .never
  | bound + 1 =>
      let item := namedClass.orElse ((charClass bound).orElse classItem)
      let opening := ((Reader.exactly '[').thenMaybe (.exactly '^')).map fun _ => ()
      let bracket := (Reader.exactly ']').map fun _ => ()
      let dash := Reader.exactly '-'
      let inside := (bracket.orElse item).thenMany (item.orElse dash)
      (opening.after inside).before (.exactly ']') |>.map fun _ => ()

def groupStart : Reader Unit :=
  let nameChar := Reader.char fun c => c.isAlphanum || c = '_' || c = '.'
  let named := ((Reader.word '<' []).orElse (.word 'P' ['<'])).after
    (((Reader.char fun c => c.isAlpha || c = '_').thenMany nameChar).before (.exactly '>'))
  let flag := Reader.char fun c => "msUuRx-".toList.contains c
  let marked := ((Reader.exactly ':').orElse (named.map fun _ => ())).orElse
    (((flag.thenMany flag).before (.exactly ':')).map fun _ => ())
  ((Reader.word '(' ['?']).after marked).orElse ((Reader.exactly '(').notBefore (· = '?'))

def repetition : Reader Unit :=
  ((Reader.char fun c => c = '*' || c = '+' || c = '?').thenMaybe (.exactly '?')).map fun _ => ()

/-- An expression with groups at most `bound` deep. -/
def expression : Nat → Reader Unit
  | 0 => .never
  | bound + 1 =>
      let literal := (Reader.char (!isMeta ·)).map fun _ => ()
      let sign := (Reader.char fun c => c = '.' || c = '^' || c = '$').map fun _ => ()
      let closing := Reader.exactly ')'
      let filled := (groupStart.after (expression bound)).before closing
      let group := filled.orElse (groupStart.before closing)
      let atom := literal.orElse (sign.orElse (escaped.orElse ((charClass 16).orElse group)))
      let repeated := (atom.thenMany repetition).map fun _ => ()
      let bar := Reader.exactly '|'
      ((repeated.orElse bar).thenMany (repeated.orElse bar)).map fun _ => ()

/-- Whether a text is a number with a plus sign, which is looked for as a number. -/
def isSigned (cs : List Char) : Bool :=
  let digit := Reader.char Char.isDigit
  let digits := digit.thenMany digit
  let fraction := ((Reader.exactly '.').thenMany digit).map fun _ => ()
  let exponent := ((Reader.char fun c => c = 'e' || c = 'E').after
    ((Reader.char fun c => c = '+' || c = '-').maybeAfter digits)).map fun _ => ()
  let whole := (digits.thenMaybe fraction).map fun _ => ()
  let short := ((Reader.exactly '.').after digits).map fun _ => ()
  let word := (cs.drop 1).map Char.toLower
  let number := ((Reader.exactly '+').after (whole.orElse short)).thenMaybe exponent
  (number.run cs).any (·.2 = []) ||
    cs.head? = some '+' && ["inf", "infinity", "nan"].contains (String.ofList word)

/-- Whether a text is an expression that can be looked for. -/
def isWellFormed (cs : List Char) : Bool :=
  cs = [] || isSigned cs || ((expression 64).run cs).any (·.2 = [])

end Pattern

/-! ## Levels -/

/-- How detailed the reports are that a directive lets through. -/
inductive Limit where
  | off
  | upTo (level : Level)
  deriving DecidableEq, Repr

def Limit.admits (level : Level) : Limit → Bool
  | .off => false
  | .upTo most => level.detail ≤ most.detail

/-- The levels, each at the place of its number. -/
def limits : List (String × Limit) :=
  [("OFF", .off), ("ERROR", .upTo .error), ("WARN", .upTo .warn), ("INFO", .upTo .info),
    ("DEBUG", .upTo .debug), ("TRACE", .upTo .trace)]

/-- The level of a number, which may have a plus sign, or of a name in small letters or large
ones. -/
def Limit.ofText? (text : String) : Option Limit :=
  let cs := text.toList
  let digits := if cs.head? = some '+' then cs.drop 1 else cs
  match Text.naturalOf? digits with
  | some n => limits[n]?.map (·.2)
  | none => limits.lookup (String.ofList (cs.map Char.toUpper))

/-! ## Directives -/

/-- A field that a report must have. -/
structure Field where
  name : String
  -- Whether it must have a certain value, as no field of a report has.
  hasValue : Bool
  deriving DecidableEq, Repr

/-- What a directive lets through. -/
structure Directive where
  target : Option String := none
  -- The operation in which a report must be made, as no report is.
  span : Option String := none
  field : Option Field := none
  limit : Limit := .upTo .trace
  deriving DecidableEq, Repr

namespace Directive

/-- Reads a field: a name, and perhaps a value behind an equals sign. -/
def fieldOf? (text : String) : Option Field :=
  match text.splitToList (· = '=') with
  | [] => none
  | [name] => if name = "" then none else some ⟨name, false⟩
  | name :: value :: _ =>
      if Pattern.isWellFormed value.toList then some ⟨name, true⟩ else none

/-- Sets the level, which is the most detailed one if nothing is said. -/
def withLimit? (d : Directive) (text : String) : Option Directive :=
  if text = "" then some d else (Limit.ofText? text).map fun limit => { d with limit }

/-- Sets the level or, if the text is none, the part of the tool. -/
def withLimitOrTarget (d : Directive) (text : String) : Directive :=
  match Limit.ofText? text with
  | some limit => { d with limit }
  | none => { d with target := some text }

/-- The place in a directive at which its reader is. -/
inductive Stage where
  | start
  | head (begun : Nat)
  | span (begun : Nat)
  | field (begun : Nat)
  | fields
  | named
  | level (begun : Nat)
  deriving DecidableEq, Repr

def isStart (c : Char) : Bool :=
  c = '-' || c = ':' || c = '_' || Text.isAlphanumeric c

def cut? (text : String) (first last : Nat) : Option String :=
  String.fromUTF8? (text.toUTF8.extract first last)

/-- Reads the character at a position, `cut` giving the text between two positions. -/
def advance (cut : Nat → Nat → Option String) (d : Directive) (position : Nat) (c : Char) :
    Stage → Option (Directive × Stage)
  | .start =>
      if c = '[' then some (d, .span (position + 1))
      else if isStart c then some (d, .head position)
      else none
  | .head begun =>
      if c = '=' then
        (cut begun position).map fun target => ({ d with target }, .level (position + 1))
      else if c = '[' then
        (cut begun position).map fun target => ({ d with target }, .span (position + 1))
      else some (d, .head begun)
  | .span begun =>
      if c = ']' then (cut begun position).map fun span => ({ d with span }, .named)
      else if c = '\x7b' then
        (cut begun position).map fun span =>
          ({ d with span := if span = "" then none else some span }, .field (position + 1))
      else some (d, .span begun)
  | .field begun =>
      if c = '\x7d' then do
        let field ← fieldOf? (← cut begun position)
        return ({ d with field }, .fields)
      else some (d, .field begun)
  | .fields => if c = ']' then some (d, .named) else none
  | .named => if c = '=' then some (d, .level (position + 1)) else none
  | .level begun => some (d, .level begun)

def scan (cut : Nat → Nat → Option String) :
    Directive × Stage → Nat → List Char → Option (Directive × Stage)
  | state, _, [] => some state
  | (d, stage), position, c :: rest => do
      scan cut (← advance cut d position c stage) (position + c.utf8Size) rest

/-- Reads a directive.  Positions are counted from the first character that is no blank, but texts
are cut out of the whole: blanks before a directive displace its parts, and blanks behind it belong
to the last one. -/
def ofText? (text : String) : Option Directive := do
  let cut := cut? text
  match ← scan cut ({}, .start) 0 (Text.trimList text.toList) with
  | (d, .head begun) => return d.withLimitOrTarget (← cut begun text.utf8ByteSize)
  | (d, .level begun) => d.withLimit? (← cut begun text.utf8ByteSize)
  | (d, .named) => return d
  | _ => none

/-! ## Directives and reports -/

def messageField : String := "message"

/-- Whether a directive fits a report.  One that asks for an operation or for the value of a field
fits none. -/
def fits (e : Event) (d : Directive) : Bool :=
  d.span = none && d.target.all (fun part => e.target.startsWith part) &&
    d.field.all fun f => !f.hasValue && f.name = messageField

/-- How specific a directive is: by the length of the part's name and then by the field. -/
def specificity (d : Directive) : Nat × Nat :=
  (d.target.elim 0 fun t => t.utf8ByteSize + 1, if d.field.isSome then 1 else 0)

def isVaguer (d other : Directive) : Bool :=
  let (length, fields) := d.specificity
  let (otherLength, otherFields) := other.specificity
  length < otherLength || length = otherLength && fields < otherFields

end Directive

/-! ## Filters -/

abbrev Filter := List Directive

namespace Filter

/-- Reads directives with commas between them.  Without any, only errors are shown. -/
def ofText? (text : String) : Option Filter := do
  let directives ← ((text.splitToList (· = ',')).filter (· ≠ "")).mapM Directive.ofText?
  return if directives = [] then [{ limit := .upTo .error }] else directives

/-- The more specific of two directives, or the second. -/
def moreSpecific (d : Directive) : Option Directive → Directive
  | none => d
  | some e => if d.isVaguer e then e else d

def decisive? (f : Filter) (e : Event) : Option Directive :=
  (f.filter (·.fits e)).foldl (fun best d => some (moreSpecific d best)) none

def shows (f : Filter) (e : Event) : Bool :=
  (f.decisive? e).any (·.limit.admits e.level)

/-- Shows the reports of all parts of the tool that are at most this detailed. -/
def atMost (level : Level) : Filter :=
  ["fwstamp", "fwstamp_core"].map fun part => { target := some part, limit := .upTo level }

/-- The filter of a run: a wish for details wins over the environment, and one in the environment
that makes no sense counts for nothing. -/
def choose (verbose : Bool) (environment : Environment) : Filter :=
  if verbose then atMost .debug
  else (environment.logFilter.bind ofText?).getD (atMost .info)

end Filter
end Log
end BuildStamp
