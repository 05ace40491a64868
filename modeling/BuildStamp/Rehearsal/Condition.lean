import BuildStamp.Host.FileSystem
import BuildStamp.Rehearsal.Arithmetic
import BuildStamp.Rehearsal.Octets
import BuildStamp.Rehearsal.World

/-!
# Condition — the conditions that scripts ask for

* `Condition.Surroundings` — the files;
* `Condition.holds` — whether the words of a condition hold, or what is wrong with them.
-/

namespace BuildStamp
namespace Rehearsal
namespace Condition

/-! ## Files -/

/-- What files there are, seen from a directory. -/
structure Surroundings where
  files : FileSystem
  place : Place

def Surroundings.placeOf? (s : Surroundings) (path : String) : Option Place := do
  let path ← Octets.read? path
  (s.files.resolve s.place ⟨path⟩).toOption

def Surroundings.nodeOf? (s : Surroundings) (path : String) : Option FileSystem.Node := do
  s.files.nodeAt? (← s.placeOf? path)

def Surroundings.isDevice (s : Surroundings) (path : String) : Bool :=
  ((s.placeOf? path).bind Device.at?).isSome

/-! ## Questions -/

def unaries : List String :=
  ["-r", "-w", "-x", "-e", "-f", "-d", "-c", "-b", "-p", "-u", "-g", "-k", "-s", "-t", "-z", "-n",
    "-h", "-O", "-G", "-L", "-S"]

def binaries : List String :=
  ["=", "!=", "<", ">", "-eq", "-ne", "-ge", "-gt", "-le", "-lt", "-nt", "-ot", "-ef"]

/-- A number, or what is said if it is none. -/
def number (word : String) : Except String Int :=
  match Arithmetic.decimal? word with
  | some n => .ok n
  | none => .error ("Illegal number: " ++ word)

/-- The answer to a question about a word, or about the descriptor of a number, none of which is a
terminal. -/
def unary (s : Surroundings) (operator word : String) : Except String Bool := do
  let node := s.nodeOf? word
  if operator = "-t" then
    let _ ← number word
  return match operator with
  | "-z" => word = ""
  | "-n" => word ≠ ""
  | "-f" => node.any (· ≠ .directory) && !s.isDevice word
  | "-d" => node = some .directory
  | "-c" => s.isDevice word
  | "-x" =>
      node.any fun
        | .directory => true
        | .file _ executable => executable
  | "-s" =>
      node.any fun
        | .directory => true
        | .file content _ => content.size ≠ 0
  | "-r" | "-w" | "-e" | "-O" | "-G" => node.isSome
  | _ => false

def binary (s : Surroundings) (left operator right : String) : Except String Bool := do
  match operator with
  | "=" => return left = right
  | "!=" => return left ≠ right
  | "<" => return left < right
  | ">" => return right < left
  | "-ef" => return (s.placeOf? left).isSome && s.placeOf? left = s.placeOf? right
  | "-nt" => return false
  | "-ot" => return false
  | _ =>
      let a ← number left
      let b ← number right
      return match operator with
        | "-eq" => a = b
        | "-ne" => a ≠ b
        | "-ge" => a ≥ b
        | "-gt" => a > b
        | "-le" => a ≤ b
        | _ => a < b

/-! ## Words -/

/-- What a word is, where it stands. -/
inductive Token where
  | none
  | operand (word : String)
  | unary (operator : String)
  | binary (operator : String)
  | joint (word : String)
  deriving DecidableEq, Repr

def isOperand : List String → Bool
  | [] => true
  | [_] => false
  | next :: _ => binaries.contains next

def tokenOf : List String → Token
  | [] => .none
  | word :: rest =>
      if unaries.contains word then
        if isOperand rest then .operand word else .unary word
      else if binaries.contains word then .binary word
      else if word = "(" then (if rest = [] then .operand word else .joint word)
      else if ["!", "-a", "-o", ")"].contains word then .joint word
      else .operand word

def misplaced (word message : String) : String :=
  if word = "" then message else word ++ ": " ++ message

/-- A reading of conditions: whether one holds and what is behind it, or what is wrong. -/
abbrev Reading := Except String (Bool × List String)

mutual

/-- One of some conditions, in at most so many steps.  All of them are read. -/
def readAny (s : Surroundings) : Nat → List String → Reading
  | 0, _ => .error "too long"
  | bound + 1, words => do
      let (first, rest) ← readEvery s bound words
      match rest with
      | "-o" :: rest =>
          let (second, rest) ← readAny s bound rest
          return (first || second, rest)
      | _ => return (first, rest)

def readEvery (s : Surroundings) : Nat → List String → Reading
  | 0, _ => .error "too long"
  | bound + 1, words => do
      let (first, rest) ← readNegated s bound words
      match rest with
      | "-a" :: rest =>
          let (second, rest) ← readEvery s bound rest
          return (first && second, rest)
      | _ => return (first, rest)

def readNegated (s : Surroundings) : Nat → List String → Reading
  | 0, _ => .error "too long"
  | bound + 1, words =>
      match tokenOf words with
      | .joint "!" => do
          let (inner, rest) ← readNegated s bound (words.drop 1)
          return (!inner, rest)
      | _ => readPrimary s bound words

def readPrimary (s : Surroundings) : Nat → List String → Reading
  | 0, _ => .error "too long"
  | bound + 1, words =>
      match tokenOf words, words with
      | .none, _ => .ok (false, [])
      | _, [] => .ok (false, [])
      | .joint "(", _ :: rest => do
          if rest.head? = some ")" then return (false, rest.drop 1)
          let (inner, rest) ← readAny s bound rest
          if rest.head? = some ")" then return (inner, rest.drop 1)
          throw "closing paren expected"
      | .unary operator, _ :: rest =>
          match rest with
          | [] => .error (misplaced operator "argument expected")
          | word :: rest => return (← unary s operator word, rest)
      | _, word :: rest =>
          match tokenOf rest, rest with
          | .binary operator, _ :: right :: rest => do
              return (← binary s word operator right, rest)
          | .binary operator, _ => .error (misplaced operator "argument expected")
          | _, _ => .ok (word ≠ "", rest)

end

/-- Whether a condition holds, where nothing may be left. -/
def readWhole (s : Surroundings) (words : List String) : Except String Bool := do
  let (answer, rest) ← readAny s (8 * (words.length + 2)) words
  if rest = [] then return answer
  let last := words[words.length - rest.length - 1]?
  throw (misplaced (last.getD "") "unexpected operator")

/-- Whether the words of a condition hold, or what is wrong with them.  Three words with a question
in the middle are a question whatever else they could be. -/
def holds (s : Surroundings) : List String → Except String Bool
  | [] => .ok false
  | [left, operator, right] =>
      if binaries.contains operator then binary s left operator right
      else if left = "(" ∧ right = ")" then readWhole s [operator]
      else if left = "!" then return !(← holds s [operator, right])
      else readWhole s [left, operator, right]
  | [a, b, c, d] =>
      if a = "(" ∧ d = ")" then readWhole s [b, c]
      else if a = "!" then return !(← holds s [b, c, d])
      else readWhole s [a, b, c, d]
  | words => readWhole s words

end Condition
end Rehearsal
end BuildStamp
