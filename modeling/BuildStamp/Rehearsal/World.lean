import BuildStamp.Host.Basic
import BuildStamp.Host.FileSystem
import BuildStamp.Rehearsal.Octets

/-!
# World — the processes of a rehearsal and what they share

A process computes by itself and asks for everything else, one request after the other.  What it
does is a tree: a request with what comes next for each answer.  Times are nanoseconds since the
start of the first process.

* `Request` — the requests with the types of their answers;
* `Routine` — what a process does;
* `Task` — what gives a value and may ask for something on the way;
* `Target`, `Opening`, `Channel` — where the channels of processes lead;
* `Pipe`, `Process` — pipes and processes;
* `World` — all of them, with the files;
* `World.finish`, `World.deliver` — a process ends, and a signal reaches it;
* `Device.all` — the devices and where they are;
* `Device.emptied` — the files where something was written to devices;
* `Device.sameAs?` — the channel that a path names.
-/

namespace BuildStamp
namespace Rehearsal

/-! ## Requests -/

/-- How a file is opened. -/
inductive Manner where
  | reading
  -- To be written from its beginning, without what was in it.
  | writing
  | appending
  | both
  -- To be written if it is not there.
  | making
  deriving DecidableEq, Repr

/-- What a signal does to a process. -/
inductive Disposition where
  | usual
  | ignored
  | caught
  deriving DecidableEq, Repr

/-- What waiting for a child process comes to. -/
inductive Awaited where
  | ended (process : Nat) (status : ExitStatus)
  | unfinished
  | none
  | interrupted
  deriving DecidableEq, Repr

/-- What a process can ask for, by the type of the answer. -/
inductive Request : Type → Type where
  | pause (span : Nat) : Request Unit
  | openFile (path : String) (manner : Manner) : Request (Except IoError Nat)
  | close (channel : Nat) : Request Unit
  -- To let a channel lead where another one leads, if that one is open.
  | copy (source target : Nat) : Request Bool
  -- To keep where a channel leads as another one that programs do not inherit.
  | keep (channel : Nat) : Request (Option Nat)
  | pipe : Request (Nat × Nat)
  -- To read at most so many bytes; none are read only at the end.
  | read (channel most : Nat) : Request (Except IoError ByteArray)
  | write (channel : Nat) (octets : ByteArray) : Request (Except IoError Unit)
  | goBack (channel count : Nat) : Request Unit
  | size (channel : Nat) : Request (Option Nat)
  -- Whether a channel would read what another one writes.
  | readsBack (channel other : Nat) : Request Bool
  | look : Request (FileSystem × Place)
  | enter (place : Place) : Request Unit
  | identity : Request Nat
  | parent : Request Nat
  | signal (target : Int) (number : Nat) : Request (Except IoError Unit)
  | disposition (signal : Nat) : Request Disposition
  | dispose (signal : Nat) (disposition : Disposition) : Request Unit
  -- The signals that were noted down since they were last asked for.
  | signals : Request (List Nat)
  -- The end of a child process, a certain one or any; whether it is waited for, and whether a
  -- signal ends the waiting.
  | await (child : Option Nat) (waits interruptible : Bool) : Request Awaited
  -- To become another program: what is not inherited is given up.
  | become : Request Unit

/-! ## Routines -/

/-- What a process does. -/
inductive Routine : Type 1 where
  | ended (code : Nat)
  | ask {α : Type} (request : Request α) (next : α → Routine)
  | fork (child : Routine) (next : Nat → Routine)

/-- What gives a value and may ask for something on the way, told what comes next. -/
def Task (α : Type) : Type 1 :=
  (α → Routine) → Routine

instance : Monad Task where
  pure a := fun next => next a
  bind t f := fun next => t fun a => f a next

namespace Task

def ask {α : Type} (request : Request α) : Task α :=
  fun next => .ask request next

def fork (child : Task Nat) : Task Nat :=
  fun next => .fork (child .ended) next

/-- Exits with the value of a task, whatever comes next. -/
def finish {α : Type} (last : Task Nat) : Task α :=
  fun _ => last .ended

def routine (t : Task Nat) : Routine :=
  t .ended

end Task

/-! ## Channels -/

/-- What is read or written. -/
inductive Target where
  | nothing
  | zeros
  | full
  | file (place : Place)
  | directory (place : Place)
  | source (pipe : Nat)
  | sink (pipe : Nat)
  deriving DecidableEq, Repr

/-- Something that was opened.  Several channels, also of several processes, may share it. -/
structure Opening where
  target : Target
  readable : Bool
  writable : Bool
  appending : Bool := false
  offset : Nat := 0

/-- A channel of a process. -/
structure Channel where
  number : Nat
  opening : Nat
  isPrivate : Bool := false

/-! ## Pipes and processes -/

/-- A pipe. -/
structure Pipe where
  -- What was written, apart from a part that was read and forgotten.
  content : ByteArray := .empty
  taken : Nat := 0

def Pipe.capacity : Nat := 65536

def Pipe.size (p : Pipe) : Nat :=
  p.content.size - p.taken

/-- How far a process has come. -/
inductive Stage : Type 1 where
  | ready (due : Nat) (next : Routine)
  -- It waits until it can have what it asks for.
  | waiting (next : Routine)
  | busy
  -- It ended, and nobody has asked for that.
  | ended (status : ExitStatus)

/-- A process. -/
structure Process where
  number : Nat
  -- The process that made it, if that one has not ended.
  parent : Option Nat
  channels : List Channel
  place : Place
  dispositions : List (Nat × Disposition) := []
  noted : List Nat := []
  isHalted : Bool := false
  stage : Stage

def Process.isOver (p : Process) : Bool :=
  match p.stage with
  | .ended _ => true
  | _ => false

def Process.disposition (p : Process) (signal : Nat) : Disposition :=
  (p.dispositions.lookup signal).getD .usual

/-! ## The world -/

def firstProcess : Nat := 100

def outputPipe : Nat := 0

/-- The processes and what they share. -/
structure World where
  now : Nat := 0
  processes : List Process
  nextNumber : Nat := firstProcess + 1
  openings : List (Nat × Opening)
  nextOpening : Nat
  pipes : List (Nat × Pipe) := []
  nextPipe : Nat := outputPipe + 1
  files : FileSystem
  -- What was made of the files and when, the latest first.
  changes : List (Nat × FileSystem) := []
  -- What came out of the output, the latest part first.
  output : List ByteArray := []
  ending : Option (Nat × ExitStatus) := none
  -- When the last process was gone that could write to the output.
  closing : Option Nat := none
  -- How many bytes were kept somewhere.
  stored : Nat := 0

namespace World

def change (w : World) (number : Nat) (f : Process → Process) : World :=
  { w with processes := w.processes.map fun p => if p.number = number then f p else p }

def process? (w : World) (number : Nat) : Option Process :=
  w.processes.find? (·.number = number)

/-- Where a channel of a process leads, with the number of what was opened. -/
def opening? (w : World) (p : Process) (channel : Nat) : Option (Nat × Opening) := do
  let c ← p.channels.find? (·.number = channel)
  let o ← w.openings.lookup c.opening
  return (c.opening, o)

def holds (w : World) (target : Target) : Bool :=
  w.processes.any fun p => p.channels.any fun c =>
    (w.openings.lookup c.opening).any (·.target = target)

/-- Forgets what no channel leads to any more, and notes the time at which nobody can write to the
output any more. -/
def tidy (w : World) : World :=
  let isReached (number : Nat) : Bool :=
    w.processes.any fun p => p.channels.any (·.opening = number)
  let openings := w.openings.filter fun (number, _) => isReached number
  let isOpen (pipe : Nat) : Bool :=
    openings.any fun (_, o) => o.target = .source pipe || o.target = .sink pipe
  let pipes := w.pipes.filter fun (number, _) => isOpen number
  let closing := if isOpen outputPipe then none else w.closing.or (some w.now)
  { w with openings, pipes, closing }

def changePipe (w : World) (pipe : Nat) (f : Pipe → Pipe) : World :=
  { w with pipes := w.pipes.map fun (number, p) => (number, if number = pipe then f p else p) }

def changeOpening (w : World) (opening : Nat) (f : Opening → Opening) : World :=
  { w with
    openings := w.openings.map fun (number, o) => (number, if number = opening then f o else o) }

def store (w : World) (files : FileSystem) : World :=
  { w with files, changes := (w.now, files) :: w.changes }

/-! ## Ends and signals -/

def orphan (number : Nat) (processes : List Process) : List Process :=
  processes.filterMap fun p =>
    if p.parent ≠ some number then some p
    else if p.isOver then none
    else some { p with parent := none }

def childSignal : Nat := 17

/-- Notes down a signal that is caught, once. -/
def noteSignal (w : World) (number signal : Nat) : World :=
  w.change number fun p =>
    if p.disposition signal = .caught && !p.noted.contains signal then
      { p with noted := p.noted ++ [signal] }
    else p

def finish (w : World) (number : Nat) (status : ExitStatus) : World :=
  let w := w.change number fun p => { p with stage := .ended status, channels := [] }
  let w := { w with processes := orphan number w.processes }
  let w := if number = firstProcess then { w with ending := some (w.now, status) } else w
  let w :=
    match (w.process? number).bind (·.parent) with
    | some parent => w.noteSignal parent childSignal
    | none => { w with processes := w.processes.filter (·.number ≠ number) }
  w.tidy

def isHarmless (signal : Nat) : Bool :=
  [17, 18, 23, 28].contains signal

def isStop (signal : Nat) : Bool :=
  [19, 20, 21, 22].contains signal

def deliver (w : World) (p : Process) (signal : Nat) : World :=
  if signal = 0 || p.isOver then w
  else if signal = 9 then w.finish p.number (.signaled 9 false)
  else
    let w := if signal = 18 then w.change p.number ({ · with isHalted := false }) else w
    match p.disposition signal with
    | .ignored => if signal = 19 then w.change p.number ({ · with isHalted := true }) else w
    | .caught => w.noteSignal p.number signal
    | .usual =>
        if isHarmless signal then w
        else if isStop signal then w.change p.number ({ · with isHalted := true })
        else w.finish p.number (.signaled signal false)

end World

namespace Device

/-! ## Files that are none -/

def directory : Place := ["dev"]

def all : List (Place × Target) :=
  let named : List (String × Target) :=
    [("null", .nothing), ("zero", .zeros), ("full", .full), ("random", .zeros), ("urandom", .zeros)]
  named.map fun (name, target) => (directory ++ [name], target)

def at? (place : Place) : Option Target :=
  all.lookup place

/-- Devices keep nothing of what is written to them. -/
def emptied (files : FileSystem) : FileSystem :=
  all.foldl (fun files (place, _) =>
    if (files.nodeAt? place).isSome then files.put place (.file .empty false) else files) files

def sameAs? (path : String) : Option Nat :=
  let number (directory : String) : Option Nat :=
    if path.startsWith directory then
      Text.naturalOf? (path.toList.drop directory.length)
    else none
  match path with
  | "/dev/stdin" => some 0
  | "/dev/stdout" => some 1
  | "/dev/stderr" => some 2
  | _ => (number "/dev/fd/").or (number "/proc/self/fd/")

end Device
end Rehearsal
end BuildStamp
