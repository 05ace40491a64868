import BuildStamp.Rehearsal.Arithmetic
import BuildStamp.Rehearsal.Pattern
import BuildStamp.Rehearsal.Shell.State

/-!
# Expansion — what the words of a script stand for

* `Bit`, `Stretch` — what a word stands for;
* `Separators` — the characters at which it may fall apart;
* `Stretch.fields` — the fields, of which there may be at most so many;
* `Stretch.text` — all of it where it stays together;
* `Shell.parameter?` — the values of parameters;
* `Shell.outputOf`, `Shell.sumOf` — outputs of scripts, and sums;
* `Shell.stretches` — what a word stands for;
* `Shell.fieldsOf`, `Shell.textOf`, `Shell.patternOf` — as several words, as one text and as a
  pattern.
-/

namespace BuildStamp
namespace Rehearsal

/-! ## Fields -/

/-- A part of what a word stands for. -/
inductive Bit where
  | glyph (g : Glyph)
  | mark
  | divider
  deriving DecidableEq, Repr

/-- Where a stretch of what a word stands for falls apart. -/
inductive Seam where
  | none
  | separators
  | dividers
  deriving DecidableEq, Repr

/-- A stretch of what a word stands for. -/
structure Stretch where
  seam : Seam
  bits : List Bit

abbrev Separators := List Char

namespace Separators

def usual : Separators :=
  [' ', '\t', '\n']

end Separators

namespace Stretch

def bitsOf (isQuoted : Bool) (text : String) : List Bit :=
  text.toList.map fun c => .glyph ⟨c, isQuoted⟩

def glyphsOf (bits : List Bit) : List Glyph :=
  bits.filterMap fun
    | .glyph g => some g
    | _ => none

def glyphs (stretches : List Stretch) : List Glyph :=
  glyphsOf (stretches.flatMap (·.bits))

def text (stretches : List Stretch) : String :=
  Glyph.text (glyphs stretches)

/-- How far the breaking of stretches has come. -/
structure Breaking where
  separators : Separators
  left : Option Nat
  done : List (List Bit) := []
  current : List Bit := []
  -- Whether a field ended at a blank, so that one more separator does not count.
  atBlank : Bool := false
  atDividers : Bool := false
  afterDividers : Bool := false
  -- How long the last field is without the separators behind it, if there are any.
  cut : Option Nat := none

namespace Breaking

def push (b : Breaking) (bit : Bit) : Breaking :=
  { b with current := bit :: b.current }

/-- Whether a bit is a separator, and whether it is a blank among them. -/
def kindOf (b : Breaking) (bit : Bit) : Bool × Bool :=
  match bit with
  | .glyph g =>
      let isSeparator := !b.atDividers && b.separators.contains g.char
      (isSeparator, isSeparator && Separators.usual.contains g.char)
  | .mark => (false, false)
  | .divider => (true, !b.atDividers)

def behind (b : Breaking) (bit : Bit) (isSeparator isBlank : Bool) : Breaking :=
  if isBlank then { b with cut := b.cut.or (some b.current.length) }.push bit
  else
    let cut := if isSeparator && b.atBlank then b.cut else none
    { b with cut, atBlank := false }.push bit

def separate (b : Breaking) (bit : Bit) (isBlank : Bool) : Breaking :=
  let b := if b.afterDividers || b.atDividers then b else { b with atBlank := isBlank }
  if b.current = [] && b.atBlank then { b with atBlank := false }
  else
    match b.left with
    | some 1 => { b with left := some 0, cut := some b.current.length }.push bit
    | left => { b with left := left.map (· - 1), done := b.current :: b.done, current := [] }

def step (b : Breaking) (bit : Bit) : Breaking :=
  let (isSeparator, isBlank) := b.kindOf bit
  if b.left = some 0 then b.behind bit isSeparator isBlank
  else if b.atBlank && isBlank then b
  else if b.atBlank && isSeparator then { b with atBlank := false }
  else if isSeparator then b.separate bit isBlank
  else { b with atBlank := false }.push bit

def stretch (b : Breaking) (s : Stretch) : Breaking :=
  if s.seam = .none then s.bits.foldl push b
  else
    let atDividers := s.seam = .dividers
    s.bits.foldl step { b with atBlank := false, afterDividers := b.atDividers, atDividers }

def fields (b : Breaking) : List (List Glyph) :=
  let last :=
    match b.cut with
    | some length => b.current.drop (b.current.length - length)
    | none => b.current
  let all := if last = [] && !b.atDividers then b.done else last :: b.done
  all.reverse.map fun bits => glyphsOf bits.reverse

end Breaking

/-- The fields into which some stretches fall, at most so many if there is a limit. -/
def fields (separators : Separators) (limit : Option Nat) (stretches : List Stretch) :
    List (List Glyph) :=
  (stretches.foldl Breaking.stretch { separators, left := limit }).fields

end Stretch

namespace Shell

/-! ## Parameters -/

def optionLetters : List Char :=
  "pubaCEVvxsnmiIfe".toList

def joint (s : Shell) (isQuoted isFull : Bool) : List Bit :=
  if isFull && !isQuoted then [.divider]
  else
    match separators s with
    | c :: _ => [.glyph ⟨c, isQuoted⟩]
    | [] => []

def plainParameter? (s : Shell) (name : String) : Option String :=
  match name with
  | "$" => some (Text.decimal s.process)
  | "?" => some (Text.decimal s.code)
  | "#" => some (Text.decimal s.arguments.length)
  | "!" => s.background.map Text.decimal
  | "-" => some (String.ofList (optionLetters.filter s.options.contains))
  | name =>
      match Text.naturalOf? name.toList with
      | some 0 => some s.name
      | some (n + 1) => s.arguments[n]?
      | none => valueOf? s name

/-- The value of a parameter, if it has one. -/
def parameter? (s : Shell) (isQuoted isFull : Bool) (name : String) : Option (List Bit) :=
  let arguments := s.arguments.map (Stretch.bitsOf isQuoted)
  if name = "@" && isQuoted && isFull then some ([Bit.divider].intercalate arguments)
  else if name = "@" || name = "*" then some ((joint s isQuoted isFull).intercalate arguments)
  else (plainParameter? s name).map (Stretch.bitsOf isQuoted)

def parameterStretch (s : Shell) (isQuoted : Bool) (name : String) (bits : List Bit) : Stretch :=
  let seam : Seam :=
    if !isQuoted then .separators
    else if name = "@" && s.arguments ≠ [] then .dividers
    else .none
  ⟨seam, bits⟩

/-! ## Outputs and sums -/

def readAll (channel : Nat) : Nat → ByteArray → Action ByteArray
  | 0, before => return before
  | bound + 1, before => do
      match ← ask (.read channel 4096) with
      | .ok octets =>
          if octets.isEmpty then return before else readAll channel bound (before ++ octets)
      | .error (.os 4) => readAll channel bound before
      | .error _ => return before

/-- The output of a script, without the ends of lines behind it. -/
def outputOf (m : Means) (script : Script) : Action String := do
  match script with
  | .nothing => return ""
  | _ =>
      let (source, sink) ← ask .pipe
      let process ← spawn m do
        ask (.close source)
        if sink ≠ 1 then
          let _ ← ask (.copy sink 1)
          ask (.close sink)
        m.run script { isLast := true }
      ask (.close sink)
      let octets ← readAll source manyEnds .empty
      ask (.close source)
      let outputCode ← await [process]
      modify fun s => { s with outputCode }
      let cs := (Octets.text octets).toList.filter (· ≠ '\x00')
      return String.ofList (cs.reverse.dropWhile (· = '\n')).reverse

def numberOf (s : Shell) (name : String) : Except Sum.Fault Int :=
  let value := (valueOf? s name).getD ""
  if value.toList.all Number.isBlank then .ok 0
  else
    match Arithmetic.number? value with
    | some n => .ok n
    | none => .error (.notNumber value)

def sumOf (text : String) : Action String := do
  match Sum.value (numberOf (← get)) text with
  | .ok (n, assignments) =>
      for (name, n) in assignments.reverse do
        assign name (Text.integer n) false
      return Text.integer n
  | .error (.senseless reason) =>
      fail ("arithmetic expression: " ++ reason ++ ": \"" ++ text ++ "\"")
  | .error (.notNumber value) => fail ("Illegal number: " ++ value)

/-! ## Tildes -/

/-- Where tildes may stand for directories. -/
inductive Tildes where
  | nowhere
  | start
  | assignment
  deriving DecidableEq

/-- The directory of a user, or that of the shell's user for no name. -/
def homeOf? (s : Shell) (user : String) : Option String :=
  if user = "" then valueOf? s "HOME" else if user = "root" then some "/root" else none

/-- What some characters stand for that are not quoted, where a tilde may come first and others
behind colons, and behind a sign of an assignment if there has been none. -/
def withTildes (s : Shell) (isAssignment hasMore : Bool) : Nat → Bool → Bool → List Char → List Bit
  | bound + 1, true, isOpen, '~' :: rest =>
      let (user, behind) := rest.span fun c => c ≠ '/' && !(isAssignment && c = ':')
      match if behind = [] && hasMore then none else homeOf? s (String.ofList user) with
      | some home =>
          Stretch.bitsOf true home ++ withTildes s isAssignment hasMore bound false isOpen behind
      | none => .glyph ⟨'~', false⟩ :: withTildes s isAssignment hasMore bound false isOpen rest
  | bound + 1, _, isOpen, c :: rest =>
      let isSign := isOpen && c = '='
      let begins := isAssignment && (c = ':' || isSign)
      .glyph ⟨c, false⟩ :: withTildes s isAssignment hasMore bound begins (isOpen && !isSign) rest
  | _, _, _, _ => []

/-! ## Words -/

/-- What a word is needed for. -/
structure Purpose where
  isFull : Bool := false
  isQuoted : Bool := false
  -- It stands behind the name of a parameter, so that its texts may fall apart too.
  isInner : Bool := false
  tildes : Tildes := .start

def textStretch (s : Shell) (p : Purpose) (isQuoted isFirst hasMore : Bool) (text : String) :
    Stretch :=
  let cs := text.toList
  let isAssignment := p.tildes = .assignment
  let begins := isFirst && p.tildes = .start
  let bits := withTildes s isAssignment hasMore (cs.length + 1) begins (isAssignment && isFirst) cs
  ⟨if p.isInner && !isQuoted then .separators else .none, bits⟩

def refuseUnset {α : Type} (name message : String) : Action α :=
  fail (name ++ ": " ++ message)

def isName (text : String) : Bool :=
  text.toList.head?.any (fun c => c.isAlpha || c = '_') &&
    text.toList.all fun c => c.isAlphanum || c = '_'

def assignChecked (name value : String) : Action Unit := do
  if !isName name then fail (name ++ ": bad variable name")
  assign name value false

/-- The value of a parameter as it is, or without what a pattern fits at one of its ends. -/
def cutValue (form : Form) (pattern : Pattern) (bits : List Bit) : List Bit :=
  let cs := bits.map fun
    | .glyph g => g.char
    | _ => '\x00'
  match form with
  | .withoutFront isLongest =>
      bits.drop (cs.length - (pattern.withoutFront isLongest cs).length)
  | .withoutBack isLongest => bits.take (pattern.withoutBack isLongest cs).length
  | _ => bits

mutual

/-- What the pieces of a word stand for, and whether the rest of the word does not count. -/
def stretches (m : Means) (p : Purpose) : List Piece → Bool → Bool →
    Action (List Stretch × Bool)
  | [], _, _ => return ([], false)
  | .mark :: .value "@" .plain false [] :: .mark :: rest, false, _ => do
      let s ← get
      let value := ((parameter? s true p.isFull "@").getD [])
      let (others, stops) ← stretches m p rest false false
      return (parameterStretch s true "@" value :: others, stops)
  | .mark :: rest, inQuotes, _ => do
      let (others, stops) ← stretches m p rest (!inQuotes) false
      return (⟨.none, [.mark]⟩ :: others, stops)
  | piece :: rest, inQuotes, isFirst => do
      let (first, stops) ← pieceStretches m p (p.isQuoted || inQuotes) isFirst (rest ≠ []) piece
      if stops then return (first, true)
      let (others, stops) ← stretches m p rest inQuotes false
      return (first ++ others, stops)

/-- What a piece of a word stands for, and whether the rest of the word does not count. -/
def pieceStretches (m : Means) (p : Purpose) (isQuoted isFirst hasMore : Bool) :
    Piece → Action (List Stretch × Bool)
  | .mark => return ([⟨.none, [.mark]⟩], false)
  | .text true text => return ([⟨.none, Stretch.bitsOf true text⟩], false)
  | .text false text => return ([textStretch (← get) p isQuoted isFirst hasMore text], false)
  | .output script => do
      let text ← outputOf m script
      return ([⟨if isQuoted then .none else .separators, Stretch.bitsOf isQuoted text⟩], false)
  | .sum word => do
      let (inner, _) ← stretches m { tildes := .nowhere } word false true
      let text ← sumOf (Stretch.text inner)
      return ([⟨if isQuoted then .none else .separators, Stretch.bitsOf isQuoted text⟩], false)
  | .value name form emptyIsNone word => do
      if form = .senseless then fail "Bad substitution"
      let s ← get
      let value? (s : Shell) :=
        (parameter? s isQuoted p.isFull name).filter fun bits => !emptyIsNone || bits ≠ []
      let shown (s : Shell) (bits : List Bit) := ([parameterStretch s isQuoted name bits], false)
      let inner : Purpose := { p with isQuoted, isInner := true, tildes := .start }
      match form, value? s with
      | .plus, none => return ([], false)
      | .plus, some _ => stretches m inner word false true
      | .minus, none => stretches m inner word false true
      | .assign, none => do
          let (parts, _) ← stretches m {} word false true
          assignChecked name (Stretch.text parts)
          let s ← get
          return shown s ((parameter? s isQuoted p.isFull name).getD [])
      | .complain, none => do
          let (parts, _) ← stretches m {} word false true
          let usual := if emptyIsNone then "parameter not set or null" else "parameter not set"
          refuseUnset name (if word = [] then usual else Stretch.text parts)
      | .size, some bits =>
          return shown s (Stretch.bitsOf isQuoted (Text.decimal bits.length))
      | .size, none => do
          if s.options.contains 'u' then refuseUnset name "parameter not set"
          return shown s (Stretch.bitsOf isQuoted "0")
      | .plain, some bits =>
          if emptyIsNone then do
            let (others, _) ← stretches m p word false false
            return ((shown s bits).1 ++ others, true)
          else return shown s bits
      | _, some bits => do
          match form with
          | .withoutFront _ | .withoutBack _ =>
              let (parts, _) ← stretches m {} word false true
              let pattern := Pattern.ofGlyphs (Stretch.glyphs parts)
              return shown s (cutValue form pattern bits)
          | _ => return shown s bits
      | _, none => do
          if s.options.contains 'u' then refuseUnset name "parameter not set"
          return ([], false)

end

/-! ## Several words, one text, a pattern -/

def textOf (m : Means) (tildes : Tildes) (w : Word) : Action String := do
  let (parts, _) ← stretches m { tildes } w false true
  return Stretch.text parts

def hereTextOf (m : Means) (w : Word) : Action String := do
  let (parts, _) ← stretches m { isQuoted := true, tildes := .nowhere } w false true
  return Stretch.text parts

def patternOf (m : Means) (w : Word) : Action Pattern := do
  let (parts, _) ← stretches m {} w false true
  return Pattern.ofGlyphs (Stretch.glyphs parts)

def pathsOf (field : List Glyph) : Action (List String) := do
  let text := Glyph.text field
  if (← get).options.contains 'f' || !Match.hasWildcards field then return [text]
  let (files, place) ← ask .look
  match Match.paths files place field with
  | [] => return [text]
  | paths => return paths

def fieldsOf (m : Means) (w : Word) : Action (List String) := do
  let (parts, _) ← stretches m { isFull := true } w false true
  let fields := Stretch.fields (separators (← get)) none parts
  return (← fields.mapM pathsOf).flatten

end Shell
end Rehearsal
end BuildStamp
