import BuildStamp.Host.IoError
import BuildStamp.Rehearsal.Octets
import BuildStamp.Rehearsal.World

/-!
# Basic — what the tools of a rehearsal have in common

* `Tool` — a program;
* `Task.iterate` — a loop;
* `Tool.complain` — what a tool says about a failure;
* `Tool.Output` — output that is held back until there is enough of it;
* `Tool.forChunks` — reads something to its end;
* `Choice` — an option;
* `Choice.read` — the options and the other words, or what is wrong with them.
-/

namespace BuildStamp
namespace Rehearsal

/-! ## Loops -/

/-- A program: what it does, given its name and the words behind it, and its code. -/
abbrev Tool := String → List String → Task Nat

namespace Task

def maxRounds : Nat := 2 ^ 62

/-- Does something again and again, each time with what the last round left, until a round gives a
value. -/
def iterate {σ α : Type} (round : σ → Task (σ ⊕ α)) : σ → Task α :=
  go maxRounds
where
  /-- The same in at most so many rounds. -/
  go : Nat → σ → Task α
    | 0, _ => Task.finish (pure 1)
    | bound + 1, state => do
        match ← round state with
        | .inl state => go bound state
        | .inr value => return value

end Task

namespace Tool

/-! ## Messages -/

def tell (text : String) : Task Unit := do
  let _ ← Task.ask (.write 2 (Octets.ofText text))

def complain (name message : String) : Task Unit :=
  tell (name ++ ": " ++ message ++ "\n")

def wording : IoError → String
  | .os number => IoError.describe number
  | e => e.message

def misused (name message : String) : Task Nat := do
  complain name message
  tell ("Try '" ++ name ++ " --help' for more information.\n")
  return 1

/-! ## Output -/

/-- Output that is held back until there is enough of it. -/
structure Output where
  held : ByteArray := .empty
  refusal : Option IoError := none

namespace Output

def limit : Nat := 4096

def flush (o : Output) : Task Output := do
  if o.held.isEmpty then return o
  match ← Task.ask (.write 1 o.held) with
  | .ok _ => return { o with held := .empty }
  | .error e => return { held := .empty, refusal := o.refusal.or (some e) }

def put (o : Output) (octets : ByteArray) : Task Output :=
  let o := { o with held := o.held ++ octets }
  if limit ≤ o.held.size then o.flush else return o

def putText (o : Output) (text : String) : Task Output :=
  o.put (Octets.ofText text)

/-- Writes what is held back, and says something about a failure behind it. -/
def complainBehind (o : Output) (name message : String) : Task Output := do
  let o ← o.flush
  Tool.complain name message
  return o

/-- Writes the rest, and gives the code of a tool that would have ended with a certain one. -/
def close (o : Output) (name : String) (code : Nat) : Task Nat := do
  match (← o.flush).refusal with
  | none => return code
  | some e =>
      complain name ("write error: " ++ wording e)
      return max code 1

end Output

/-! ## Input -/

/-- Reads a channel to its end, so many bytes at a time, with a value that is passed on; gives the
value, and why the rest could not be read. -/
def forChunks {σ : Type} (channel most : Nat) (f : σ → ByteArray → Task σ) (start : σ) :
    Task (σ × Option IoError) :=
  Task.iterate (fun state => do
    match ← Task.ask (.read channel most) with
    | .error e => return .inr (state, some e)
    | .ok octets =>
        if octets.isEmpty then return .inr (state, none)
        else return .inl (← f state octets)) start

/-- Works with the channel of a file, or with the input for a single dash, and closes it again. -/
def withFile {α : Type} (file : String) (f : Nat → Task α) : Task (Except IoError α) := do
  if file = "-" then return .ok (← f 0)
  match ← Task.ask (.openFile file .reading) with
  | .error e => return .error e
  | .ok channel =>
      let value ← f channel
      Task.ask (.close channel)
      return .ok value

/-! ## Options -/

/-- An option of a tool. -/
structure Choice where
  letter : Char
  name : String
  isValued : Bool := false

namespace Choice

/-- An option with its value, which is empty for one that has none. -/
abbrev Chosen := Char × String

def behind? (missing : String) : List String → Except String (String × List String)
  | value :: rest => .ok (value, rest)
  | [] => .error missing

/-- The options in one word of letters, and the words behind it. -/
def letters (all : List Choice) : List Char → List String →
    Except String (List Chosen × List String)
  | [], rest => .ok ([], rest)
  | c :: cs, rest =>
      match all.find? fun o => o.letter = c && c.isAlphanum with
      | none => .error ("invalid option -- '" ++ c.toString ++ "'")
      | some o =>
          if !o.isValued then do
            let (chosen, rest) ← letters all cs rest
            return ((c, "") :: chosen, rest)
          else if cs ≠ [] then .ok ([(c, String.ofList cs)], rest)
          else do
            let missing := "option requires an argument -- '" ++ c.toString ++ "'"
            let (value, rest) ← behind? missing rest
            return ([(c, value)], rest)

/-- The option of a name, which need not be all of it. -/
def named (all : List Choice) (name : String) : Except String Choice :=
  match all.filter (·.name = name), all.filter (·.name.startsWith name) with
  | o :: _, _ => .ok o
  | [], [] => .error ("unrecognized option '--" ++ name ++ "'")
  | [], [o] => .ok o
  | [], os =>
      .error ("option '--" ++ name ++ "' is ambiguous; possibilities:" ++
        String.join (os.map fun o => " '--" ++ o.name ++ "'"))

/-- The option of a long word, and the words behind it. -/
def long (all : List Choice) (word : List Char) (rest : List String) :
    Except String (Chosen × List String) := do
  let (name, value) := word.span (· ≠ '=')
  let o ← named all (String.ofList name)
  match o.isValued, value with
  | false, [] => return ((o.letter, ""), rest)
  | false, _ => throw ("option '--" ++ o.name ++ "' doesn't allow an argument")
  | true, _ :: value => return ((o.letter, String.ofList value), rest)
  | true, [] =>
      let (value, rest) ← behind? ("option '--" ++ o.name ++ "' requires an argument") rest
      return ((o.letter, value), rest)

/-- The options and the other words.  Options may stand anywhere, or only before the other words if
`isStrict`; behind a double dash there are none. -/
def read (all : List Choice) (isStrict : Bool) (words : List String) :
    Except String (List Chosen × List String) :=
  go words.length words
where
  /-- The same for at most so many words. -/
  go : Nat → List String → Except String (List Chosen × List String)
    | 0, words => .ok ([], words)
    | _, [] => .ok ([], [])
    | bound + 1, word :: rest => do
        match word.toList with
        | ['-', '-'] => return ([], rest)
        | '-' :: '-' :: name =>
            let (chosen, rest) ← long all name rest
            let (others, operands) ← go bound rest
            return (chosen :: others, operands)
        | '-' :: c :: cs =>
            let (chosen, rest) ← letters all (c :: cs) rest
            let (others, operands) ← go bound rest
            return (chosen ++ others, operands)
        | _ =>
            if isStrict then return ([], word :: rest)
            let (chosen, operands) ← go bound rest
            return (chosen, word :: operands)

end Choice
end Tool
end Rehearsal
end BuildStamp
