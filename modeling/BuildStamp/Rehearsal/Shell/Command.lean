import BuildStamp.Rehearsal.Condition
import BuildStamp.Rehearsal.Format
import BuildStamp.Rehearsal.Shell.Expansion

/-!
# Command — redirections, and the commands that a shell carries out by itself

* `Shell.Leading`, `Shell.leadings` — redirections whose words are known;
* `Shell.redirect` — lets channels lead elsewhere from now on;
* `Shell.redirected` — lets them lead elsewhere while something is done;
* `Shell.Command` — such a command;
* `Shell.takeOptions` — the options in front of its words;
* `Shell.quoted` — a text as it can be read back;
* `Shell.printCommands` — `echo`, `printf`, `test` and the commands that only succeed or fail;
* `Shell.placeText` — the path of a directory;
* `Shell.placeCommands` — `cd` and `pwd`;
* `Shell.showVariables` — variables as they can be read back;
* `Shell.setOptions` — options and arguments;
* `Shell.variableCommands` — `export`, `readonly`, `local`, `unset`, `set` and `shift`;
* `Shell.readLine` — reads a line into variables;
* `Shell.nextOption` — takes the next option out of some arguments;
* `Shell.inputCommands` — `read` and `getopts`.
-/

namespace BuildStamp
namespace Rehearsal
namespace Shell

/-! ## Redirections -/

/-- A redirection whose words are known. -/
inductive Leading where
  | file (channel : Nat) (manner : Manner) (isForced : Bool) (name : String)
  | copy (channel source : Nat)
  | closed (channel : Nat)
  | hereText (channel : Nat) (text : String)

def Leading.channel : Leading → Nat
  | .file channel .. => channel
  | .copy channel _ => channel
  | .closed channel => channel
  | .hereText channel _ => channel

/-- What is said of a word that should be the number of a channel. -/
def badChannel : String := "Syntax error: Bad fd number"

def leading (m : Means) : Redirection → Action Leading
  | .file channel manner isForced name => do
      return .file channel manner isForced (← textOf m .start name)
  | .copy channel source => do
      let text ← textOf m .start source
      match text.toList with
      | ['-'] => return .closed channel
      | [c] => if c.isDigit then return .copy channel (c.toNat - 48) else fail badChannel
      | _ => fail badChannel
  | .hereText channel number => do
      match (← get).texts.lookup number with
      | none => return .hereText channel ""
      | some word => return .hereText channel (← hereTextOf m word)

def leadings (m : Means) (rs : List Redirection) : Action (List Leading) :=
  rs.mapM (leading m)

/-- Opens a file, or tells what is wrong. -/
def openFile (manner : Manner) (isForced : Bool) (name : String) :
    Action (Except String Nat) := do
  let isGuarded := manner = .writing && !isForced && (← get).options.contains 'C'
  let manner := if isGuarded then .making else manner
  match ← ask (.openFile name manner) with
  | .ok channel => return .ok channel
  | .error e =>
      if manner = .reading then
        return .error ("cannot open " ++ name ++ ": " ++ reason "No such file" e)
      else return .error ("cannot create " ++ name ++ ": " ++ reason "Directory nonexistent" e)

def smallText : Nat := 4096

def openText (m : Means) (text : String) : Action Nat := do
  let (source, sink) ← ask .pipe
  let write : Action Nat := do
    let _ ← ask (.write sink (Octets.ofText text))
    return 0
  if text.length ≤ smallText then
    let _ ← write
  else
    let _ ← spawn m do
      ask (.close source)
      write
  ask (.close sink)
  return source

abbrev Saved := List (Nat × Option Nat)

/-- Keeps where a channel leads, unless it is kept already or leads there anyway. -/
def save (keeps : Bool) (channel : Nat) (opened : Option Nat) (saved : Saved) : Action Saved := do
  if !keeps || saved.any (·.1 = channel) then return saved
  if opened = some channel then return (channel, none) :: saved
  let kept ← ask (.keep channel)
  return (channel, kept) :: saved

/-- Lets a channel lead elsewhere, or tells what is wrong. -/
def lead (m : Means) (keeps : Bool) (saved : Saved) (l : Leading) :
    Action (Saved × Option String) := do
  let channel := l.channel
  let move (opened : Nat) : Action (Saved × Option String) := do
    let saved ← save keeps channel (some opened) saved
    if opened ≠ channel then
      let _ ← ask (.copy opened channel)
      ask (.close opened)
    return (saved, none)
  match l with
  | .file _ manner isForced name =>
      match ← openFile manner isForced name with
      | .ok opened => move opened
      | .error message => return (saved, some message)
  | .hereText _ text => move (← openText m text)
  | .closed _ => do
      let saved ← save keeps channel none saved
      ask (.close channel)
      return (saved, none)
  | .copy _ source => do
      if source = channel then return (saved, none)
      let saved ← save keeps channel none saved
      if ← ask (.copy source channel) then return (saved, none)
      return (saved, some (Text.decimal source ++ ": Bad file descriptor"))

/-- Lets channels lead elsewhere, up to one for which something is wrong. -/
def leadAll (m : Means) (keeps : Bool) : Saved → List Leading → Action (Saved × Option String)
  | saved, [] => return (saved, none)
  | saved, l :: ls => do
      match ← lead m keeps saved l with
      | (saved, none) => leadAll m keeps saved ls
      | refused => return refused

def restore : Saved → Action Unit
  | [] => return
  | (channel, kept) :: rest => do
      match kept with
      | none => ask (.close channel)
      | some kept =>
          let _ ← ask (.copy kept channel)
          ask (.close kept)
      restore rest

def forget : Saved → Action Unit
  | [] => return
  | (_, kept) :: rest => do
      if let some kept := kept then ask (.close kept)
      forget rest

def redirect (m : Means) (ls : List Leading) : Action Unit := do
  match ← leadAll m false [] ls with
  | (_, none) => return
  | (_, some message) => fail message

/-- Does something while channels lead elsewhere.  What is wrong with that is said, and something
else is done then. -/
def redirected (m : Means) (ls : List Leading) (body refused : Action Nat) : Action Nat := do
  if ls.isEmpty then return ← body
  let (saved, message) ← leadAll m true [] ls
  inAnyCase
    (match message with
      | none => body
      | some message => do
          complain message
          refused)
    (restore saved)

/-! ## Commands of the shell -/

/-- A command that a shell carries out itself. -/
structure Command where
  name : String
  -- Whether its failure ends the shell, and what is set in front of it stays.
  isSpecial : Bool := false
  isAssigning : Bool := false
  run : Means → List String → Action Nat

/-- The options in one word of letters, and the words behind it. -/
def optionLetters? (allowed : List Char) : List Char → List String →
    Except String (List (Char × String) × List String)
  | [], rest => .ok ([], rest)
  | c :: cs, rest =>
      if c = ':' || !allowed.contains c then .error ("Illegal option -" ++ c.toString)
      else if (allowed.dropWhile (· ≠ c))[1]? = some ':' then
        match cs, rest with
        | [], [] => .error ("No arg for -" ++ c.toString ++ " option")
        | [], value :: rest => .ok ([(c, value)], rest)
        | cs, rest => .ok ([(c, String.ofList cs)], rest)
      else do
        let (others, rest) ← optionLetters? allowed cs rest
        return ((c, "") :: others, rest)

/-- The options in front of some words, at most so many words. -/
def optionsUpTo (allowed : List Char) : Nat → List String →
    Except String (List (Char × String) × List String)
  | 0, words => .ok ([], words)
  | _, [] => .ok ([], [])
  | bound + 1, word :: rest =>
      match word.toList with
      | ['-', '-'] => .ok ([], rest)
      | '-' :: c :: cs => do
          let (first, rest) ← optionLetters? allowed (c :: cs) rest
          let (others, rest) ← optionsUpTo allowed bound rest
          return (first ++ others, rest)
      | _ => .ok ([], word :: rest)

/-- The options in front of some words, and the other words.  A letter with a colon behind it has a
value. -/
def takeOptions (allowed : String) (words : List String) :
    Action (List (Char × String) × List String) := do
  match optionsUpTo allowed.toList words.length words with
  | .ok result => return result
  | .error message => fail message

/-- A text between quotes, at most so many characters of it. -/
def quotedUpTo : Nat → List Char → List Char
  | 0, _ => []
  | bound + 1, cs =>
      let (plain, rest) := cs.span (· ≠ '\'')
      let (marks, rest) := rest.span (· = '\'')
      let first := '\'' :: plain ++ ['\'']
      let second := if marks = [] then [] else '"' :: marks ++ ['"']
      first ++ second ++ (if rest = [] then [] else quotedUpTo bound rest)

def quoted (text : String) : String :=
  String.ofList (quotedUpTo (text.length + 1) text.toList)

/-! ## Printing, and conditions -/

def printFormat (_ : Means) (words : List String) : Action Nat := do
  let (_, words) ← takeOptions "" words
  match words with
  | [] => fail "usage: printf format [arg ...]"
  | format :: arguments =>
      let result := Printf.run .shell format arguments
      for message in result.complaints do complain message
      match result.refusal with
      | none => return max result.code (← put result.output)
      | some message =>
          let _ ← put result.output
          fail message

def test (words : List String) : Action Nat := do
  let (files, place) ← ask .look
  match Condition.holds ⟨files, place⟩ words with
  | .ok answer => return if answer then 0 else 1
  | .error message => fail message

def bracket (words : List String) : Action Nat :=
  if words.getLast? = some "]" then test words.dropLast else fail "missing ]"

/-- The commands that print, and conditions. -/
def printCommands : List Command :=
  [{ name := ":", isSpecial := true, run := fun _ _ => return 0 },
    { name := "true", run := fun _ _ => return 0 },
    { name := "false", run := fun _ _ => return 1 },
    { name := "echo", run := fun _ words => put (echoCommand words) },
    { name := "printf", run := printFormat },
    { name := "test", run := fun _ words => test words },
    { name := "[", run := fun _ words => bracket words }]

/-! ## The directory -/

def placeText (place : Place) : String :=
  Octets.spell ("/" ++ "/".intercalate place)

/-- Works in a directory from now on, and says so if that is asked for. -/
def enter (place : Place) (isPrinted : Bool) : Action Nat := do
  let (_, old) ← ask .look
  ask (.enter place)
  alter "OLDPWD" fun v => { v with value := some (placeText old), isExported := true }
  alter "PWD" fun v => { v with value := some (placeText place), isExported := true }
  if isPrinted then put (placeText place ++ "\n") else return 0

/-- The directories in which another one is looked for, the empty one being the shell's. -/
def placePath (s : Shell) (path : String) : List String :=
  let first := path.splitOn "/" |>.headD ""
  if first = "" || first = "." || first = ".." then [""]
  else
    match valueOf? s "CDPATH" with
    | some text => text.splitOn ":" ++ [""]
    | none => [""]

def changePlace (_ : Means) (words : List String) : Action Nat := do
  let (_, words) ← takeOptions "LP" words
  let s ← get
  let isBack := words.head? = some "-"
  let path := (if isBack then valueOf? s "OLDPWD" else (words.head?).or (valueOf? s "HOME")).getD ""
  let (files, place) ← ask .look
  if path = "" then return ← enter place isBack
  let candidates := (placePath s path).map fun directory =>
    (if directory = "" then path else directory ++ "/" ++ path, directory != "")
  let found := candidates.findSome? fun (path, isElsewhere) =>
    match Match.placeOf? files place path with
    | some place =>
        if files.nodeAt? place = some .directory then some (place, isElsewhere) else none
    | none => none
  match found with
  | some (place, isElsewhere) => enter place (isBack || isElsewhere)
  | none => fail ("can't cd to " ++ path)

def printPlace (_ : Means) (words : List String) : Action Nat := do
  let _ ← takeOptions "LP" words
  let (_, place) ← ask .look
  put (placeText place ++ "\n")

def placeCommands : List Command :=
  [{ name := "cd", run := changePlace }, { name := "chdir", run := changePlace },
    { name := "pwd", run := printPlace }]

/-! ## Variables, options and arguments -/

/-- Shows variables as they can be read back, sorted by their names. -/
def showVariables (start : String) (isShown : Variable → Bool) : Action Nat := do
  let all := (← get).bindings.filter fun (_, v) => isShown v
  let line (name : String) (v : Variable) : String :=
    let value :=
      match v.value with
      | some value => "=" ++ quoted value
      | none => ""
    start ++ name ++ value ++ "\n"
  let sorted := all.mergeSort fun a b => a.1 ≤ b.1
  put (String.join (sorted.map fun (name, v) => line name v))

/-- Marks variables, some of which are set as well. -/
def markVariables (command : String) (isMarked : Variable → Bool) (mark : Variable → Variable)
    (words : List String) : Action Nat := do
  let (chosen, names) ← takeOptions "p" words
  if chosen ≠ [] || names = [] then return ← showVariables (command ++ " ") isMarked
  for word in names do
    let (name, value) := splitAssignment word
    if !isName name then fail (name ++ ": bad variable name")
    if let some value := value then assign name value false
    alter name mark
  return 0

/-- Hides variables until the function ends, some of which are set as well. -/
def hideVariables (_ : Means) (words : List String) : Action Nat := do
  if (← get).hidden = [] then fail "not in a function"
  for word in words do
    if word = "-" then
      hideOptions
    else
      let (name, value) := splitAssignment word
      if !isName name then fail (name ++ ": bad variable name")
      hide name
      match value with
      | some value => assign name value false
      | none => alter name id
  return 0

def remove (_ : Means) (words : List String) : Action Nat := do
  let (chosen, names) ← takeOptions "vf" words
  if (chosen.getLast?).any (·.1 = 'f') then
    modify fun s => { s with functions := s.functions.filter fun (n, _) => !names.contains n }
  else
    for name in names do
      if !isName name then fail (name ++ ": bad variable name")
      unassign name
  return 0

def optionNames : List (String × Option Char) :=
  [("errexit", some 'e'), ("noglob", some 'f'), ("ignoreeof", some 'I'), ("interactive", some 'i'),
    ("monitor", some 'm'), ("noexec", some 'n'), ("stdin", some 's'), ("xtrace", some 'x'),
    ("verbose", some 'v'), ("vi", some 'V'), ("emacs", some 'E'), ("noclobber", some 'C'),
    ("allexport", some 'a'), ("notify", some 'b'), ("nounset", some 'u'), ("privileged", some 'p'),
    ("nolog", none), ("debug", none)]

def setOption (isSet : Bool) (letter : Char) : Action Unit := do
  if !optionNames.any (·.2 = some letter) then fail ("Illegal option -" ++ letter.toString)
  modify fun s =>
    let others := s.options.filter (· ≠ letter)
    { s with options := if isSet then letter :: others else others }

def showOptions (isSet : Bool) : Action Unit := do
  let s ← get
  let isOn (letter : Option Char) : Bool := letter.any s.options.contains
  let table := optionNames.map fun (name, letter) =>
    let blanks := String.ofList (List.replicate (16 - name.length) ' ')
    name ++ blanks ++ (if isOn letter then "on" else "off") ++ "\n"
  let commands := optionNames.map fun (name, letter) =>
    "set " ++ (if isOn letter then "-" else "+") ++ "o " ++ name ++ "\n"
  let _ ← put <|
    if isSet then "Current option settings\n" ++ String.join table else String.join commands

def setNamed (isSet : Bool) (name : String) : Action Unit := do
  match optionNames.lookup name with
  | some (some letter) => setOption isSet letter
  | some none => return
  | none => fail ("Illegal option -o " ++ name)

def setArguments (arguments : List String) : Action Unit :=
  modify fun s => { s with arguments, optionPlace := (1, none) }

/-- Sets the options of one word of letters, and gives the words behind them. -/
def setLetters (isSet : Bool) : List Char → List String → Action (List String)
  | [], rest => return rest
  | 'o' :: cs, [] => do
      showOptions isSet
      setLetters isSet cs []
  | 'o' :: cs, name :: rest => do
      setNamed isSet name
      setLetters isSet cs rest
  | c :: cs, rest => do
      setOption isSet c
      setLetters isSet cs rest

/-- Sets options, and gives the other words with whether a mark stood before them. -/
def setOptions : Nat → List String → Action (List String × Bool)
  | 0, words => return (words, false)
  | _, [] => return ([], false)
  | bound + 1, word :: rest => do
      match word.toList with
      | ['-'] =>
          modify fun s => { s with options := s.options.filter fun c => c ≠ 'x' && c ≠ 'v' }
          return (rest, false)
      | ['-', '-'] => return (rest, true)
      | '-' :: letters => setOptions bound (← setLetters true letters rest)
      | '+' :: letters => setOptions bound (← setLetters false letters rest)
      | _ => return (word :: rest, false)

/-- Sets options and arguments, or shows the variables. -/
def configure (_ : Means) (words : List String) : Action Nat := do
  if words = [] then return ← showVariables "" (·.value.isSome)
  let (arguments, isMarked) ← setOptions words.length words
  if isMarked || arguments ≠ [] then setArguments arguments
  return 0

/-- Drops arguments, as many as a word says. -/
def shift (_ : Means) (words : List String) : Action Nat := do
  let count ← match words with
    | [] => pure 1
    | word :: _ => number word
  let s ← get
  if s.arguments.length < count then fail "can't shift that many"
  setArguments (s.arguments.drop count)
  return 0

/-- The commands for variables, options and arguments. -/
def variableCommands : List Command :=
  let exported (v : Variable) : Variable := { v with isExported := true }
  let fixed (v : Variable) : Variable := { v with isFixed := true }
  [{ name := "export", isSpecial := true, isAssigning := true
     run := fun _ => markVariables "export" (·.isExported) exported },
    { name := "readonly", isSpecial := true, isAssigning := true
      run := fun _ => markVariables "readonly" (·.isFixed) fixed },
    { name := "local", isSpecial := true, isAssigning := true, run := hideVariables },
    { name := "unset", isSpecial := true, run := remove },
    { name := "set", isSpecial := true, run := configure },
    { name := "shift", isSpecial := true, run := shift }]

/-! ## Lines and options that are taken apart -/

/-- A line that is being read. -/
structure Line where
  -- What was read, the latest first, where quoted characters do not separate words.
  stretches : List Stretch := []
  latest : List Bit := []
  isQuoting : Bool := false

def Line.put (l : Line) (c : Char) : Line :=
  let bit := Bit.glyph ⟨c, false⟩
  if !l.isQuoting then { l with latest := bit :: l.latest }
  else
    let stretches := ⟨.separators, l.latest.reverse⟩ :: l.stretches
    { stretches := if c = '\n' then stretches else ⟨.none, [bit]⟩ :: stretches }

def Line.all (l : Line) : List Stretch :=
  (⟨.separators, l.latest.reverse⟩ :: l.stretches).reverse

/-- Reads a line byte by byte, and gives the code of the command that does. -/
def lineFrom (isRaw : Bool) : Nat → Line → Action (Line × Nat)
  | 0, l => return (l, 1)
  | bound + 1, l => do
      match ← ask (.read 0 1) with
      | .error (.os 4) =>
          fetchSignals
          if (← get).pending = [] then lineFrom isRaw bound l else return (l, 1)
      | .error _ => return (l, 1)
      | .ok octets =>
          match (Octets.text octets).toList with
          | [] => return (l, 1)
          | c :: _ =>
              if c = '\x00' then lineFrom isRaw bound l
              else if l.isQuoting then lineFrom isRaw bound (l.put c)
              else if c = '\\' && !isRaw then lineFrom isRaw bound { l with isQuoting := true }
              else if c = '\n' then return (l, 0)
              else lineFrom isRaw bound (l.put c)

/-- Sets variables to some values, and those that are left to nothing. -/
def assignAll : List String → List (List Glyph) → Action Unit
  | [], _ => return
  | name :: names, values => do
      assign name ((values.head?.map Glyph.text).getD "") false
      assignAll names (values.drop 1)

/-- Reads a line into variables, the last of which takes all that is left. -/
def readLine (_ : Means) (words : List String) : Action Nat := do
  let (chosen, names) ← takeOptions "p:r" words
  if names = [] then fail "arg count"
  let (l, code) ← lineFrom (chosen.any (·.1 = 'r')) manyEnds {}
  for name in names do
    if !isName name then fail (name ++ ": bad variable name")
  assignAll names (Stretch.fields (separators (← get)) (some names.length) l.all)
  return code

/-- What was found when an option was looked for. -/
structure Found where
  letter : Char
  value : Option String
  message : String := ""
  -- The argument in which the next option is looked for, and how far in the one before it.
  place : Nat × Option Nat
  isOver : Bool := false

/-- The letters that are left in the word at which options were looked for. -/
def lettersLeft (arguments : List String) (place : Nat × Option Nat) : List Char :=
  match place with
  | (n + 2, some offset) => ((arguments[n]?).getD "").toList.drop offset
  | _ => []

/-- The next option of some arguments, where a letter with a colon behind it has a value. -/
def nextOption (allowed : List Char) (arguments : List String) (place : Nat × Option Nat) : Found :=
  let isSilent := allowed.head? = some ':'
  let index := place.1
  let noOption (index : Nat) : Found := ⟨'?', none, "", (index, none), true⟩
  let take (c : Char) (cs : List Char) (index : Nat) : Found :=
    let offset := ((arguments[index - 2]?).getD "").length - cs.length
    let behind : Nat × Option Nat := (index, some offset)
    let refused (sign : Char) (message : String) : Found :=
      if isSilent then ⟨sign, some c.toString, "", behind, false⟩
      else ⟨'?', none, message, behind, false⟩
    let rest := allowed.dropWhile (· ≠ c)
    if c = ':' || rest = [] then refused '?' ("Illegal option -" ++ c.toString ++ "\n")
    else if rest[1]? ≠ some ':' then ⟨c, some "", "", behind, false⟩
    else if cs ≠ [] then ⟨c, some (String.ofList cs), "", (index, none), false⟩
    else
      match arguments[index - 1]? with
      | some value => ⟨c, some value, "", (index + 1, none), false⟩
      | none =>
          let found := refused ':' ("No arg for -" ++ c.toString ++ " option\n")
          { found with place := (index, none) }
  match lettersLeft arguments place with
  | c :: cs => take c cs index
  | [] =>
      match ((arguments[index - 1]?).getD "").toList with
      | ['-', '-'] => noOption (index + 1)
      | '-' :: c :: cs => take c cs (index + 1)
      | _ => noOption index

def takeOption (_ : Means) (words : List String) : Action Nat := do
  match words with
  | allowed :: name :: others =>
      let s ← get
      let arguments := if others = [] then s.arguments else others
      let found := nextOption allowed.toList arguments s.optionPlace
      say found.message
      if !found.isOver then
        match found.value with
        | some value => assign "OPTARG" value false
        | none => unassign "OPTARG"
      assign "OPTIND" (Text.decimal found.place.1) false
      if !isName name then fail (name ++ ": bad variable name")
      assign name found.letter.toString false
      modify fun s => { s with optionPlace := found.place }
      return if found.isOver then 1 else 0
  | _ => fail "Usage: getopts optstring var [arg...]"

def inputCommands : List Command :=
  [{ name := "read", run := readLine }, { name := "getopts", run := takeOption }]

end Shell
end Rehearsal
end BuildStamp
