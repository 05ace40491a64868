import BuildStamp.Rehearsal.Arithmetic
import BuildStamp.Rehearsal.Tool.Basic
import BuildStamp.Text.Writing

/-!
# Files — tools that copy, cut and count files

* `Cat.Style`, `Cat.shape` — how bytes are shown;
* `Tool.cat` — copies files;
* `Head.Portion` — how much of a file is wanted;
* `Head.portion?` — reads how much is wanted;
* `Tool.head` — the tool;
* `Count` — what was counted;
* `Count.add` — counts some more bytes;
* `Tool.wc` — the tool.
-/

namespace BuildStamp
namespace Rehearsal
namespace Cat

/-! ## One file behind the other -/

/-- How bytes are shown. -/
structure Style where
  numbers : Bool := false
  filledNumbers : Bool := false
  squeezes : Bool := false
  ends : Bool := false
  tabs : Bool := false
  marks : Bool := false
  deriving DecidableEq, Repr

def Style.with (s : Style) (letter : Char) : Style :=
  match letter with
  | 'A' => { s with ends := true, tabs := true, marks := true }
  | 'b' => { s with filledNumbers := true }
  | 'e' => { s with ends := true, marks := true }
  | 'E' => { s with ends := true }
  | 'n' => { s with numbers := true }
  | 's' => { s with squeezes := true }
  | 't' => { s with tabs := true, marks := true }
  | 'T' => { s with tabs := true }
  | 'v' => { s with marks := true }
  | _ => s

/-- What is known of the bytes so far. -/
structure State where
  line : Nat := 0
  begins : Bool := true
  empties : Nat := 0
  held : Bool := false

def State.number (s : State) : State × List UInt8 :=
  let digits := Text.decimal (s.line + 1)
  let blanks := String.ofList (List.replicate (6 - digits.length) ' ')
  ({ s with line := s.line + 1 }, (blanks ++ digits ++ "\t").toUTF8.data.toList)

/-- A byte with marks, if it needs any. -/
def marked (style : Style) (b : UInt8) : List UInt8 :=
  let low (b : UInt8) : List UInt8 :=
    if b = 127 then [94, 63] else if b < 32 then [94, b + 64] else [b]
  if b = 9 then (if style.tabs then [94, 73] else [b])
  else if !style.marks then [b]
  else if b < 128 then low b
  else [77, 45] ++ low (b - 128)

def lineEnd (style : Style) (s : State) : List UInt8 :=
  (if s.held then [94, 77] else []) ++ (if style.ends then [36] else []) ++ [10]

def shape (style : Style) (s : State) (b : UInt8) : State × List UInt8 :=
  if b = 10 then
    if s.begins then
      let s := { s with empties := s.empties + 1 }
      if style.squeezes && 2 ≤ s.empties then (s, [])
      else
        let (s, number) :=
          if style.numbers && !style.filledNumbers then s.number else (s, [])
        (s, number ++ lineEnd style s)
    else ({ s with begins := true, held := false }, lineEnd style s)
  else
    let (next, number) :=
      if s.begins && (style.numbers || style.filledNumbers) then s.number else (s, [])
    let next := { next with begins := false, empties := 0 }
    let before := if s.held then 13 :: number else number
    if b = 13 && style.ends && !style.marks then ({ next with held := true }, before)
    else ({ next with held := false }, before ++ marked style b)

def shapeAll (style : Style) (s : State) (octets : ByteArray) : State × ByteArray :=
  if style = {} then (s, octets)
  else
    octets.data.foldl
      (fun (s, shown) b =>
        let (s, more) := shape style s b
        (s, more.foldl ByteArray.push shown)) (s, .empty)

def choices : List Tool.Choice :=
  [⟨'b', "number-nonblank", false⟩, ⟨'n', "number", false⟩, ⟨'s', "squeeze-blank", false⟩,
    ⟨'v', "show-nonprinting", false⟩, ⟨'E', "show-ends", false⟩, ⟨'T', "show-tabs", false⟩,
    ⟨'A', "show-all", false⟩, ⟨'e', "e", false⟩, ⟨'t', "t", false⟩, ⟨'u', "u", false⟩]

def chunk : Nat := 131072

/-- How far copying has come. -/
structure Progress where
  state : State := {}
  code : Nat := 0
  refusal : Option IoError := none

def copyChannel (style : Style) (p : Progress) (channel : Nat) :
    Task (Progress × Option IoError) :=
  Tool.forChunks channel chunk (fun p octets => do
    if p.refusal.isSome then return p
    let (state, shown) := shapeAll style p.state octets
    match ← Task.ask (.write 1 shown) with
    | .ok _ => return { p with state }
    | .error e => return { p with state, refusal := some e }) p

def copyFiles (name : String) (style : Style) : List String → Progress → Task Nat
  | [], p => return p.code
  | file :: rest, p => do
      let failed (e : IoError) : Task Progress := do
        Tool.complain name (Quoting.fileName file ++ ": " ++ Tool.wording e)
        return { p with code := 1 }
      let copied ← Tool.withFile file fun channel => do
        if style = {} && (← Task.ask (.readsBack channel 1)) then
          Tool.complain name (Quoting.fileName file ++ ": input file is output file")
          return ({ p with code := 1 }, none)
        copyChannel style p channel
      match copied with
      | .error e => copyFiles name style rest (← failed e)
      | .ok (p, none) =>
          match p.refusal with
          | none => copyFiles name style rest p
          | some e =>
              Tool.complain name ("write error: " ++ Tool.wording e)
              return 1
      | .ok (_, some e) => copyFiles name style rest (← failed e)

end Cat

namespace Tool

/-- Copies files one behind the other, or the input. -/
def cat : Tool := fun name words => do
  match Choice.read Cat.choices false words with
  | .error message => misused name message
  | .ok (chosen, files) =>
      let style := chosen.foldl (fun (s : Cat.Style) (c, _) => s.with c) {}
      match ← Task.ask (.write 1 .empty) with
      | .error e =>
          complain name ("standard output: " ++ wording e)
          return 1
      | .ok _ => Cat.copyFiles name style (if files = [] then ["-"] else files) {}

end Tool

namespace Head

/-! ## The beginnings of files -/

/-- How much of a file is wanted. -/
structure Portion where
  inBytes : Bool := false
  count : Nat := 10
  isRest : Bool := false

def unit? (text : String) : Option Nat :=
  let powers := "kMGTPEZYRQ".toList
  let power (c : Char) : Option Nat :=
    (powers.idxOf? (if c = 'K' then 'k' else if c = 'm' then 'M' else c)).map (· + 1)
  match text.toList with
  | [] => some 1
  | ['b'] => some 512
  | [c] => (power c).map (1024 ^ ·)
  | [c, 'B'] => (power c).map (1000 ^ ·)
  | [c, 'i', 'B'] => (power c).map (1024 ^ ·)
  | _ => none

/-- The portion that a word says, or what is wrong with the word. -/
def portion? (inBytes : Bool) (word : String) : Except String Portion :=
  let (isRest, body) :=
    match word.toList with
    | '-' :: cs => (true, cs)
    | '+' :: cs => (false, cs)
    | cs => (false, cs)
  let (ds, rest) := Number.digits 10 body
  let kind := if inBytes then "bytes" else "lines"
  let refuse (reason : String) : Except String Portion :=
    .error ("invalid number of " ++ kind ++ ": " ++ Quoting.quoted (String.ofList body) ++ reason)
  match if ds = [] then none else unit? (String.ofList rest) with
  | none => refuse ""
  | some factor =>
      let count := Number.ofDigits 10 ds * factor
      if 2 ^ 64 ≤ count then refuse ": Value too large for defined data type"
      else .ok { inBytes, count, isRest }

def chunk : Nat := 8192

/-- How many bytes hold so many lines, and how many lines are left to be found. -/
def lineBytes (mark : UInt8) (lines : Nat) (octets : ByteArray) : Nat × Nat :=
  octets.data.foldl
    (fun (bytes, left) b =>
      if left = 0 then (bytes, 0) else (bytes + 1, if b = mark then left - 1 else left))
    (0, lines)

def copyBytes (channel count : Nat) (o : Tool.Output) : Task (Tool.Output × Option IoError) :=
  Task.iterate (fun ((left, o) : Nat × Tool.Output) => do
    if left = 0 then return .inr (o, none)
    match ← Task.ask (.read channel (min chunk left)) with
    | .error e => return .inr (o, some e)
    | .ok octets =>
        if octets.isEmpty then return .inr (o, none)
        else return .inl (left - octets.size, ← o.put octets)) (count, o)

/-- Copies so many lines, and gives back what was read of the next one. -/
def copyLines (mark : UInt8) (channel count : Nat) (o : Tool.Output) :
    Task (Tool.Output × Option IoError) :=
  Task.iterate (fun ((left, o) : Nat × Tool.Output) => do
    if left = 0 then return .inr (o, none)
    match ← Task.ask (.read channel chunk) with
    | .error e => return .inr (o, some e)
    | .ok octets =>
        if octets.isEmpty then return .inr (o, none)
        let (bytes, left) := lineBytes mark left octets
        Task.ask (.goBack channel (octets.size - bytes))
        return .inl (left, ← o.put (octets.extract 0 bytes))) (count, o)

def copyRest (mark : UInt8) (p : Portion) (channel : Nat) (o : Tool.Output) :
    Task (Tool.Output × Option IoError) := do
  let (whole, refusal) ← Tool.forChunks channel chunk
    (fun (whole : ByteArray) octets => return whole ++ octets) .empty
  let size :=
    if p.inBytes then whole.size - p.count
    else
      let ends := whole.data.toList.count mark
      let open' := if whole.isEmpty || whole.data.back? == some mark then 0 else 1
      (lineBytes mark (ends + open' - p.count) whole).1
  return (← o.put (whole.extract 0 size), refusal)

def copyPortion (mark : UInt8) (p : Portion) (channel : Nat) (o : Tool.Output) :
    Task (Tool.Output × Option IoError) :=
  if p.isRest then copyRest mark p channel o
  else if p.inBytes then copyBytes channel p.count o
  else copyLines mark channel p.count o

/-- What is wanted. -/
structure Wishes where
  portion : Portion := {}
  titles : Option Bool := none
  zeroEnded : Bool := false

def choices : List Tool.Choice :=
  [⟨'c', "bytes", true⟩, ⟨'n', "lines", true⟩, ⟨'q', "quiet", false⟩, ⟨'q', "silent", false⟩,
    ⟨'v', "verbose", false⟩, ⟨'z', "zero-terminated", false⟩]

def Wishes.with (w : Wishes) (option : Tool.Choice.Chosen) : Except String Wishes := do
  match option.1 with
  | 'c' => return { w with portion := ← portion? true option.2 }
  | 'n' => return { w with portion := ← portion? false option.2 }
  | 'q' => return { w with titles := some false }
  | 'v' => return { w with titles := some true }
  | 'z' => return { w with zeroEnded := true }
  | _ => return w

/-- A first word that is a number behind a dash, in the form of the other options. -/
def modern (words : List String) : Except String (List String) :=
  match words with
  | word :: rest =>
      match word.toList with
      | '-' :: c :: cs =>
          if !c.isDigit then .ok words
          else
            let (ds, letters) := (c :: cs).span Char.isDigit
            let units := letters.filter "bkm".toList.contains
            let others := letters.filter (!"bkm".toList.contains ·)
            match others.find? (!"clqvz".toList.contains ·) with
            | some letter => .error ("invalid trailing option -- " ++ letter.toString)
            | none =>
                let inBytes := others.contains 'c' || units.contains 'b'
                let amount := String.ofList (ds ++ units.take 1)
                let option := (if inBytes then "-c" else "-n") ++ amount
                let flags := (others.filter "qvz".toList.contains).map fun l => "-" ++ l.toString
                .ok (option :: flags ++ rest)
      | _ => .ok words
  | [] => .ok []

/-- How far copying has come. -/
structure Progress where
  output : Tool.Output := {}
  isFirst : Bool := true
  code : Nat := 0

def copyFile (name : String) (w : Wishes) (titled : Bool) (p : Progress) (file : String) :
    Task Progress := do
  let shown := if file = "-" then "standard input" else file
  let copied ← Tool.withFile file fun channel => do
    let title := (if p.isFirst then "" else "\n") ++ "==> " ++ shown ++ " <==\n"
    let output ← if titled then p.output.putText title else pure p.output
    copyPortion (if w.zeroEnded then 0 else 10) w.portion channel output
  match copied with
  | .error e =>
      let message :=
        "cannot open " ++ Quoting.quotedForShell file ++ " for reading: " ++ Tool.wording e
      return { p with output := ← p.output.complainBehind name message, code := 1 }
  | .ok (output, none) => return { p with output, isFirst := false }
  | .ok (output, some e) =>
      let message := "error reading " ++ Quoting.quotedForShell shown ++ ": " ++ Tool.wording e
      return { output := ← output.complainBehind name message, isFirst := false, code := 1 }

end Head

namespace Tool

/-- Copies the beginnings of files, or of the input. -/
def head : Tool := fun name words => do
  match Head.modern words with
  | .error message => misused name message
  | .ok words =>
      match Choice.read Head.choices false words with
      | .error message => misused name message
      | .ok (chosen, files) =>
          match chosen.foldlM Head.Wishes.with ({} : Head.Wishes) with
          | .error message =>
              complain name message
              return 1
          | .ok wishes =>
              let files := if files = [] then ["-"] else files
              let titled := wishes.titles.getD (1 < files.length)
              let p ← files.foldlM (Head.copyFile name wishes titled) {}
              p.output.close name p.code

end Tool

/-! ## Lines, words and bytes -/

/-- What was counted. -/
structure Count where
  lines : Nat := 0
  words : Nat := 0
  octets : Nat := 0
  widest : Nat := 0
  width : Nat := 0
  inWord : Bool := false

namespace Count

/-- Counts one byte more.  Bytes without a shape neither begin a word nor end one. -/
def addByte (c : Count) (b : UInt8) : Count :=
  let c := { c with octets := c.octets + 1 }
  let ended (c : Count) (width : Nat) : Count :=
    { c with widest := max c.widest c.width, width, inWord := false }
  if b = 10 then ended { c with lines := c.lines + 1 } 0
  else if b = 13 || b = 12 then ended c 0
  else if b = 9 then { c with width := c.width / 8 * 8 + 8, inWord := false }
  else if b = 32 then { c with width := c.width + 1, inWord := false }
  else if b = 11 then { c with inWord := false }
  else if 32 < b && b < 127 then
    { c with
      width := c.width + 1, inWord := true
      words := if c.inWord then c.words else c.words + 1 }
  else c

def add (c : Count) (octets : ByteArray) : Count :=
  octets.data.foldl addByte c

def plus (c d : Count) : Count :=
  { lines := c.lines + d.lines, words := c.words + d.words, octets := c.octets + d.octets
    widest := max c.widest d.widest }

def ofKind (c : Count) : Char → Nat
  | 'l' => c.lines
  | 'w' => c.words
  | 'L' => max c.widest c.width
  | _ => c.octets

def choices : List Tool.Choice :=
  [⟨'c', "bytes", false⟩, ⟨'m', "chars", false⟩, ⟨'l', "lines", false⟩, ⟨'w', "words", false⟩,
    ⟨'L', "max-line-length", false⟩, ⟨'#', "total", true⟩]

/-- A row of numbers of a certain width, in front of a name. -/
def row (width : Nat) (kinds : List Char) (c : Count) (name : Option String) : String :=
  let cell (kind : Char) : String :=
    let ds := Nat.toDigits 10 (c.ofKind kind)
    String.ofList (List.replicate (width - ds.length) ' ' ++ ds)
  " ".intercalate (kinds.map cell) ++ (name.elim "" (" " ++ ·)) ++ "\n"

/-- When the sum is shown. -/
inductive Summing where
  | auto
  | always
  | only
  | never
  deriving DecidableEq, Repr

def summings : List (String × Summing) :=
  [("auto", .auto), ("always", .always), ("only", .only), ("never", .never)]

/-- When the sum is shown, by a name of which the end may be missing, or what is wrong with it. -/
def summingOf (name : String) : Except String Summing :=
  let refusal (problem : String) : String :=
    "\n  - ".intercalate
      ((problem ++ " argument " ++ Quoting.quoted name ++ " for '--total'\nValid arguments are:") ::
        summings.map fun (known, _) => Quoting.quoted known)
  match summings.filter (·.1.startsWith name) with
  | [(_, when)] => .ok when
  | [] => .error (refusal "invalid")
  | _ => .error (refusal "ambiguous")

/-- What a file is, as far as the width of the columns depends on it. -/
inductive Kind where
  | missing
  | file (size : Nat)
  | other
  deriving DecidableEq, Repr

def kindOf (file : Option String) : Task Kind := do
  match file with
  | none => return (← Task.ask (.size 0)).elim .other .file
  | some "-" => return (← Task.ask (.size 0)).elim .other .file
  | some file =>
      match ← Task.ask (.openFile file .reading) with
      | .error _ => return .missing
      | .ok channel =>
          let size ← Task.ask (.size channel)
          Task.ask (.close channel)
          return size.elim .other .file

def columnWidth (kinds : List Kind) : Nat :=
  if kinds.head? = some .missing then 1
  else
    let total := (kinds.map fun
      | .file size => size
      | _ => 0).foldl (· + ·) 0
    let least := if kinds.contains .other then 7 else 1
    max least (Nat.toDigits 10 total).length

/-- How far counting has come. -/
structure Progress where
  output : Tool.Output := {}
  total : Count := {}
  code : Nat := 0

def chunk : Nat := 16384

def countFile (name : String) (width : Nat) (kinds : List Char) (shows : Bool) (p : Progress)
    (file : Option String) : Task Progress := do
  let counted ← Tool.withFile (file.getD "-") fun channel =>
    Tool.forChunks channel chunk (fun (c : Count) octets => return c.add octets) {}
  let shown := file.getD "standard input"
  let failed (e : IoError) : Task Tool.Output :=
    p.output.complainBehind name (Quoting.fileName shown ++ ": " ++ Tool.wording e)
  let finish (output : Tool.Output) (c : Count) (code : Nat) : Task Progress := do
    let output ← if shows then output.putText (row width kinds c file) else pure output
    return { output, total := p.total.plus { c with widest := c.ofKind 'L' }, code }
  match counted with
  | .error e => return { p with output := ← failed e, code := 1 }
  | .ok (c, none) => finish p.output c p.code
  | .ok (c, some e) => finish (← failed e) c 1

end Count

namespace Tool

/-- Counts files, or the input. -/
def wc : Tool := fun name words => do
  let read : Except String (List Choice.Chosen × List String × Count.Summing) := do
    let (chosen, operands) ← Choice.read Count.choices false words
    let summings ← (chosen.filter (·.1 = '#')).mapM fun (_, value) => Count.summingOf value
    return (chosen, operands, summings.getLast?.getD .auto)
  match read with
  | .error message => misused name message
  | .ok (chosen, operands, summing) =>
      let has (c : Char) := chosen.any (·.1 = c)
      let wanted := ['l', 'w', 'm', 'c', 'L'].filter has
      let kinds := if wanted = [] then ['l', 'w', 'c'] else wanted
      let files := if operands = [] then [none] else operands.map some
      let width ←
        if files.length = 1 && kinds.length = 1 then pure 1
        else do pure (Count.columnWidth (← files.mapM Count.kindOf))
      let shows := summing ≠ .only
      let p ← files.foldlM (Count.countFile name width kinds shows) {}
      let isSummed : Bool := match summing with
        | .auto => 1 < files.length
        | .never => false
        | _ => true
      let label := if shows then some "total" else none
      let output ←
        if isSummed then
          p.output.putText (Count.row (if shows then width else 1) kinds p.total label)
        else pure p.output
      output.close name p.code

end Tool
end Rehearsal
end BuildStamp
