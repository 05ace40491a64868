import BuildStamp.Rehearsal.Arithmetic
import BuildStamp.Rehearsal.Pattern
import BuildStamp.Rehearsal.Tool.Basic

/-!
# Translate — other bytes in the place of bytes

* `Translate.Part`, `Translate.partsOf` — how sets of bytes are written;
* `Translate.Cursor`, `Translate.pairsFrom` — which byte becomes which;
* `Translate.Plan`, `Translate.plan` — what becomes of each byte;
* `Tool.tr` — the tool.
-/

namespace BuildStamp
namespace Rehearsal
namespace Translate

/-! ## Sets -/

/-- A part of a set as it is written. -/
inductive Part where
  | one (c : Char)
  | range (low high : Char)
  | named (name : String) (members : List Char)
  | equivalent (c : Char)
  | again (c : Char) (count : Option Nat)
  deriving Repr

def between (low high : Nat) : List Char :=
  (List.range (high + 1 - low)).map fun n => Char.ofNat (low + n)

def classOf? (name : String) : Option (List Char) :=
  let lower := between 97 122
  let upper := between 65 90
  let digit := between 48 57
  match name with
  | "lower" => some lower
  | "upper" => some upper
  | "digit" => some digit
  | "alpha" => some (upper ++ lower)
  | "alnum" => some (digit ++ upper ++ lower)
  | "blank" => some ['\t', ' ']
  | "space" => some (between 9 13 ++ [' '])
  | "cntrl" => some (between 0 31 ++ ['\x7f'])
  | "graph" => some (between 33 126)
  | "print" => some (between 32 126)
  | "punct" => some (between 33 47 ++ between 58 64 ++ between 91 96 ++ between 123 126)
  | "xdigit" => some (digit ++ between 65 70 ++ between 97 102)
  | _ => none

def ofLetter? : Char → Option Char
  | 'a' => some '\x07'
  | 'b' => some '\x08'
  | 'f' => some '\x0c'
  | 'n' => some '\n'
  | 'r' => some '\r'
  | 't' => some '\t'
  | 'v' => some '\x0b'
  | _ => none

/-- The byte that digits in the base eight spell, and what is behind them. -/
def ofOctal (cs : List Char) : Char × List Char :=
  let isOctal (c : Char) : Bool := '0' ≤ c && c ≤ '7'
  let two := (cs.take 2).takeWhile isOctal
  let three := (cs.take 3).takeWhile isOctal
  let digits := if Number.ofDigits 8 three < 256 then three else two
  (Char.ofNat (Number.ofDigits 8 digits), cs.drop digits.length)

/-- The bytes of at most so many characters.  Those behind a backslash are quoted. -/
def unquoted : Nat → List Char → List Glyph
  | bound + 1, '\\' :: c :: cs =>
      if '0' ≤ c && c ≤ '7' then
        let (c, rest) := ofOctal (c :: cs)
        ⟨c, true⟩ :: unquoted bound rest
      else ⟨(ofLetter? c).getD c, true⟩ :: unquoted bound cs
  | bound + 1, c :: cs => ⟨c, false⟩ :: unquoted bound cs
  | _, _ => []

/-- What is in front of a character with a closing bracket, and what is behind both. -/
def closing? (mark : Char) : List Glyph → Option (List Glyph × List Glyph)
  | g :: bracket :: rest =>
      if g.isPlain mark && bracket.isPlain ']' then some ([], rest)
      else (closing? mark (bracket :: rest)).map fun (inside, rest) => (g :: inside, rest)
  | _ => none

/-- A part, and what is behind it. -/
abbrev Reading := Except String (Part × List Glyph)

def countOf (digits : List Char) : Except String (Option Nat) :=
  let base := if digits.head? = some '0' then 8 else 10
  let isDigit (c : Char) : Bool := c.isDigit && c.toNat - 48 < base
  if digits.all isDigit then
    let n := Number.ofDigits base digits
    .ok (if n = 0 then none else some (min n (2 ^ 20)))
  else
    let shown := Quoting.quoted (Quoting.spelling (String.ofList digits))
    .error ("invalid repeat count " ++ shown ++ " in [c*n] construct")

/-- A repeated byte, behind the opening bracket. -/
def repetition? (gs : List Glyph) : Option Reading :=
  match gs with
  | g :: star :: rest =>
      let inside := rest.takeWhile fun g => !g.isQuoted && g.char ≠ ']'
      match rest.drop inside.length with
      | bracket :: behind =>
          if star.isPlain '*' && bracket.isPlain ']' then
            some ((countOf (inside.map (·.char))).map fun count => (.again g.char count, behind))
          else none
      | [] => none
  | _ => none

def isCount : List Glyph → Bool
  | star :: rest =>
      star.isPlain '*' &&
        (rest.dropWhile fun g => g.char.isDigit).head?.any (·.isPlain ']')
  | [] => false

def classOrEqual (isClass : Bool) (inside rest : List Glyph) : Reading :=
  let name := Glyph.text inside
  if isClass then
    match classOf? name with
    | some members => .ok (.named name members, rest)
    | none =>
        .error (if name = "" then "missing character class name '[::]'"
          else "invalid character class " ++ Quoting.quoted (Quoting.spelling name))
  else
    match inside with
    | [g] => .ok (.equivalent g.char, rest)
    | [] => .error "missing equivalence class character '[==]'"
    | _ =>
        let shown := Quoting.spelling name
        .error (shown ++ ": equivalence class operand must be a single character")

/-- What brackets stand for, given the first one and what is behind it. -/
def bracketed? (g : Glyph) (gs : List Glyph) : Option Reading :=
  match g.isPlain '[', gs with
  | true, mark :: behind =>
      if mark.isPlain ':' || mark.isPlain '=' then
        match closing? mark.char behind with
        | some (inside, rest) =>
            match classOrEqual (mark.char = ':') inside rest with
            | .error message =>
                if inside ≠ [] && isCount behind then repetition? gs else some (.error message)
            | reading => some reading
        | none => repetition? gs
      else repetition? gs
  | _, _ => none

def partsFrom : Nat → List Glyph → Except String (List Part)
  | bound + 1, first :: second :: third :: rest => do
      match bracketed? first (second :: third :: rest) with
      | some reading =>
          let (part, rest) ← reading
          return part :: (← partsFrom bound rest)
      | none =>
          if second.isPlain '-' then
            if third.char < first.char then
              throw ("range-endpoints of '" ++ Quoting.shaped first.char ++ "-" ++
                Quoting.shaped third.char ++ "' are in reverse collating sequence order")
            return .range first.char third.char :: (← partsFrom bound rest)
          return .one first.char :: (← partsFrom bound (second :: third :: rest))
  | _, gs => return gs.map fun g => .one g.char

def partsOf (text : String) : Except String (List Part) :=
  let gs := unquoted text.length text.toList
  partsFrom gs.length gs

namespace Part

def members : Part → List Char
  | one c => [c]
  | range low high => between low.toNat high.toNat
  | named _ members => members
  | equivalent c => [c]
  | again c count => List.replicate (count.getD 0) c

def isFilling : Part → Bool
  | again _ none => true
  | _ => false

def isClass : Part → Bool
  | named .. => true
  | _ => false

/-- Whether a part is a class that cannot be put in the place of something. -/
def isPlainClass : Part → Bool
  | named name _ => name ≠ "upper" && name ≠ "lower"
  | _ => false

def isEquivalent : Part → Bool
  | equivalent _ => true
  | _ => false

def case? : Part → Option String
  | named "upper" _ => some "upper"
  | named "lower" _ => some "lower"
  | _ => none

end Part

def bytesOf (parts : List Part) : List Char :=
  parts.flatMap Part.members

/-- The parts of a set in which a byte that is there as often as there is room fills so much. -/
def filled (room : Nat) (parts : List Part) : List Part :=
  let size := (bytesOf parts).length
  parts.map fun
    | .again c none => .again c (some (room - size))
    | part => part

/-! ## Pairs -/

/-- What is left of a set. -/
structure Cursor where
  -- The parts with their cases, from which bytes may be missing already.
  parts : List (Option String × List Char)
  isFresh : Bool := true

namespace Cursor

def start (parts : List Part) : Cursor :=
  ⟨(parts.map fun part => (part.case?, part.members)).filter (·.2 ≠ []), true⟩

/-- The next byte with its case, and what is left behind it. -/
def next (c : Cursor) : Option (Char × Option String) × Cursor :=
  match c.parts with
  | (case, b :: []) :: rest => (some (b, case), ⟨rest, true⟩)
  | (case, b :: bs) :: rest => (some (b, case), ⟨(case, bs) :: rest, false⟩)
  | _ => (none, ⟨[], true⟩)

def skip (c : Cursor) : Cursor :=
  ⟨c.parts.drop 1, true⟩

end Cursor

/-- Whether letters of a case stand in the place of letters of a case only. -/
def isAligned : Nat → Cursor → Cursor → Bool
  | 0, _, _ => true
  | bound + 1, source, target =>
      match source.next, target.next with
      | (b, source'), (c, target') =>
          let case := c.bind (·.2)
          if target.isFresh && case.isSome && !(source.isFresh && (b.bind (·.2)).isSome) then false
          else if b.isNone || c.isNone then true
          else if case.isSome then isAligned bound source'.skip target'.skip
          else isAligned bound source' target'

def casePairs (case : Option String) : List (Char × Char) :=
  let lower := between 97 122
  let upper := between 65 90
  if case = some "lower" then lower.zip upper else upper.zip lower

/-- Bytes with those that they become, the latest ones first. -/
def pairsFrom : Nat → Cursor → Cursor → List (Char × Char) → List (Char × Char)
  | bound + 1, source, target, before =>
      match source.next, target.next with
      | (some (b, case), source'), (some (c, other), target') =>
          let pairs :=
            if case.isSome && other.isSome && case ≠ other then casePairs case else [(b, c)]
          let all := pairs ++ before
          if other.isSome then pairsFrom bound source'.skip target'.skip all
          else pairsFrom bound source' target' all
      | _, _ => before
  | _, _, _, before => before

/-! ## Plans -/

/-- What becomes of bytes. -/
structure Plan where
  deleted : List Char := []
  -- The bytes that change, the ones that count first.
  changed : List (Char × Char) := []
  squeezed : List Char := []

/-- The options. -/
structure Wishes where
  complement : Bool
  deletes : Bool
  squeezes : Bool
  truncates : Bool

def meaning (w : Wishes) (parts : List Part) : List Char :=
  let members := bytesOf parts
  if w.complement then (between 0 255).filter (!members.contains ·) else members

/-- The set that is put in the place of so many bytes: its last byte is there as often as it is
needed. -/
def extended (size : Nat) (parts : List Part) : Except String (List Part) := do
  let missing := size - (bytesOf parts).length
  let again (c : Char) : Except String (List Part) := return parts ++ [.again c (some missing)]
  match parts.getLast? with
  | none => throw "when not truncating set1, string2 must be non-empty"
  | some (.named ..) =>
      throw ("when translating with string1 longer than string2,\nthe latter string must not " ++
        "end with a character class")
  | some (.one c) => again c
  | some (.range _ high) => again high
  | some (.equivalent c) => again c
  | some (.again c _) =>
      if bytesOf parts = [] then throw "when not truncating set1, string2 must be non-empty"
      again c

def exchange (w : Wishes) (source target : List Part) : Except String Plan := do
  let members := meaning w source
  if target.any Part.isEquivalent then
    throw "[=c=] expressions may not appear in string2 when translating"
  if target.any Part.isPlainClass then
    throw ("when translating, the only character classes that may appear in\n" ++
      "string2 are 'upper' and 'lower'")
  let size := (bytesOf source).length + (bytesOf target).length + 1
  if !w.complement && !isAligned size (.start source) (.start target) then
    throw "misaligned [:upper:] and/or [:lower:] construct"
  let target ←
    if (bytesOf target).length < members.length && !w.truncates then
      extended members.length target
    else pure target
  let others := bytesOf target
  let isUniform := others.length = members.length && others.all (some · = others.head?)
  if w.complement && source.any Part.isClass && !isUniform then
    throw ("when translating with complemented character classes,\n" ++
      "string2 must map all characters in the domain to one")
  let changed :=
    if w.complement then (members.zip others).reverse
    else pairsFrom (size + members.length) (.start source) (.start target) []
  return { changed, squeezed := if w.squeezes then others else [] }

def plan (w : Wishes) (sets : List String) : Except String Plan := do
  match ← sets.mapM partsOf with
  | [] => return {}
  | set :: others =>
      if set.any Part.isFilling then
        throw "the [c*] repeat construct may not appear in string1"
      let members := meaning w set
      match others with
      | [] => return if w.deletes then { deleted := members } else { squeezed := members }
      | other :: _ =>
          if 1 < other.countP Part.isFilling then
            throw "only one [c*] repeat construct may appear in string2"
          if !w.deletes then return ← exchange w set (filled members.length other)
          if other.any Part.isFilling then
            throw "the [c*] construct may appear in string2 only when translating"
          return { deleted := members, squeezed := bytesOf other }

/-- What becomes of each of the 256 bytes: nothing, or a byte that may be left once in a row. -/
def Plan.table (p : Plan) : Array (Option (UInt8 × Bool)) :=
  ((between 0 255).map fun c =>
    if p.deleted.contains c then none
    else
      let d := (p.changed.lookup c).getD c
      some (UInt8.ofNat d.toNat, p.squeezed.contains d)).toArray

def apply (table : Array (Option (UInt8 × Bool))) (last : Option UInt8) (octets : ByteArray) :
    Option UInt8 × ByteArray :=
  octets.data.foldl
    (fun (last, out) b =>
      match table[b.toNat]?.join with
      | none => (last, out)
      | some (d, once) =>
          if once && last == some d then (last, out) else (some d, out.push d)) (last, .empty)

def choices : List Tool.Choice :=
  [⟨'c', "complement", false⟩, ⟨'C', "C", false⟩, ⟨'d', "delete", false⟩,
    ⟨'s', "squeeze-repeats", false⟩, ⟨'t', "truncate-set1", false⟩]

/-- What is wrong with the number of sets, in one or two lines. -/
def countFault? (w : Wishes) (sets : List String) : Option String :=
  match sets with
  | [] => some "missing operand"
  | [set] =>
      if w.deletes == w.squeezes then
        some ("missing operand after " ++ Quoting.quoted set ++ "\n" ++
          if w.squeezes then
            "Two strings must be given when both deleting and squeezing repeats."
          else "Two strings must be given when translating.")
      else none
  | [_, other] =>
      if w.deletes && !w.squeezes then
        some ("extra operand " ++ Quoting.quoted other ++ "\n" ++
          "Only one string may be given when deleting without squeezing repeats.")
      else none
  | _ :: _ :: extra :: _ => some ("extra operand " ++ Quoting.quoted extra)

end Translate

namespace Tool

def translateChunk : Nat := 8192

def tr : Tool := fun name words => do
  match Choice.read Translate.choices true words with
  | .error message => misused name message
  | .ok (chosen, sets) =>
      let has (c : Char) := chosen.any (·.1 = c)
      let wishes : Translate.Wishes := ⟨has 'c' || has 'C', has 'd', has 's', has 't'⟩
      match Translate.countFault? wishes sets, Translate.plan wishes sets with
      | some message, _ => misused name message
      | none, .error message =>
          complain name message
          return 1
      | none, .ok plan =>
          let table := plan.table
          let ((_, output), refusal) ← forChunks 0 translateChunk
            (fun ((last, output) : Option UInt8 × Output) octets => do
              let (last, octets) := Translate.apply table last octets
              return (last, ← output.put octets)) (none, {})
          match refusal with
          | none => output.close name 0
          | some e =>
              complain name ("read error: " ++ wording e)
              output.close name 1

end Tool
end Rehearsal
end BuildStamp
