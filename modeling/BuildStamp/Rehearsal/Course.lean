import BuildStamp.Rehearsal.World

/-!
# Course — what happens in a world

A process is given what it asks for, at once or when there is something to give.  What happens next
is what is due first.  A world that goes on for too long is left as it is, and what has not happened
by then counts as what never happens.

* `World.openFile` — opens a file;
* `World.read`, `World.write` — what is read, and how much can be written;
* `World.isBlocked` — whether an answer has to wait;
* `World.answer` — all answers;
* `World.span` — how long a request takes;
* `World.step` — what happens next;
* `World.run` — all that happens.
-/

namespace BuildStamp
namespace Rehearsal
namespace World

/-! ## Opening -/

def badChannel : IoError := .os 9

def brokenPipe : IoError := .os 32

def noRoom : IoError := .os 28

def noProcess : IoError := .os 3

/-- The first number from a certain one on that is not among some. -/
def firstFree (numbers : List Nat) : Nat → Nat → Nat
  | 0, least => least
  | bound + 1, least =>
      if numbers.contains least then firstFree numbers bound (least + 1) else least

/-- The first channel from a certain one on that a process does not use. -/
def freeChannel (p : Process) (least : Nat) : Nat :=
  firstFree (p.channels.map (·.number)) (p.channels.length + 1) least

def addChannel (w : World) (p : Process) (c : Channel) : World :=
  w.change p.number fun p =>
    { p with channels := p.channels.filter (·.number ≠ c.number) ++ [c] }

def addOpening (w : World) (p : Process) (o : Opening) : World × Nat :=
  let number := freeChannel p 0
  let opening := w.nextOpening
  let w := { w with openings := (opening, o) :: w.openings, nextOpening := opening + 1 }
  (w.addChannel p { number, opening }, number)

def openingOf (target : Target) (manner : Manner) : Opening :=
  { target
    readable := manner = .reading || manner = .both
    writable := manner ≠ .reading
    appending := manner = .appending }

/-- The same end of a pipe or the other one, depending on the manner in which it is opened. -/
def reopened (manner : Manner) : Target → Target
  | .source pipe => if manner = .reading then .source pipe else .sink pipe
  | .sink pipe => if manner = .reading then .source pipe else .sink pipe
  | target => target

/-- What is opened at a place where something can be written, and the files then. -/
def openToWrite (files : FileSystem) (manner : Manner) (place : Place) :
    Except IoError (Target × Option FileSystem) :=
  match Device.at? place with
  | some target => .ok (target, none)
  | none =>
      match files.nodeAt? place with
      | none => .ok (.file place, some (files.put place (.file .empty false)))
      | some .directory => .error .isDirectory
      | some (.file _ executable) =>
          if manner = .making then .error .alreadyThere
          else if manner = .writing then
            .ok (.file place, some (files.put place (.file .empty executable)))
          else .ok (.file place, none)

/-- What is opened at a path, and the files then. -/
def openPath (w : World) (p : Process) (path : String) (manner : Manner) :
    Except IoError (Target × Option FileSystem) :=
  match Device.sameAs? path with
  | some channel =>
      match w.opening? p channel with
      | some (_, o) =>
          match o.target with
          | .file place => if manner = .reading then .ok (o.target, none)
              else openToWrite w.files manner place
          | target => .ok (reopened manner target, none)
      | none => .error .notFound
  | none =>
      match Octets.read? path with
      | none => .error (if manner = .reading then .notFound else .os 84)
      | some path =>
          if manner = .reading then do
            let place ← w.files.resolve p.place ⟨path⟩
            match w.files.nodeAt? place with
            | some .directory => return (.directory place, none)
            | _ => return ((Device.at? place).getD (.file place), none)
          else do
            openToWrite w.files manner (← w.files.writeTarget p.place ⟨path⟩)

def openFile (w : World) (p : Process) (path : String) (manner : Manner) :
    World × Except IoError Nat :=
  match w.openPath p path manner with
  | .error e => (w, .error e)
  | .ok (target, files) =>
      let w := match files with
        | some files => w.store files
        | none => w
      let (w, channel) := w.addOpening p (openingOf target manner)
      (w, .ok channel)

/-! ## Reading and writing -/

/-- The content of a file, which may be gone. -/
def contentOf (files : FileSystem) (place : Place) : ByteArray :=
  match files.nodeAt? place with
  | some (.file content _) => content
  | _ => .empty

def zeros (count : Nat) : ByteArray :=
  ⟨Array.replicate count 0⟩

def moveOn (w : World) (opening : Nat) (f : Nat → Nat) : World :=
  w.changeOpening opening fun o => { o with offset := f o.offset }

def take (w : World) (pipe most : Nat) : World × ByteArray :=
  match w.pipes.lookup pipe with
  | none => (w, .empty)
  | some p =>
      let taken := min p.content.size (p.taken + most)
      let octets := p.content.extract p.taken taken
      let left : Pipe := if taken = p.content.size then {} else { p with taken }
      (w.changePipe pipe fun _ => left, octets)

def read (w : World) (p : Process) (channel most : Nat) : World × Except IoError ByteArray :=
  match w.opening? p channel with
  | none => (w, .error badChannel)
  | some (number, o) =>
      if !o.readable then (w, .error badChannel)
      else
        match o.target with
        | .nothing => (w, .ok .empty)
        | .zeros => (w, .ok (zeros most))
        | .full => (w, .ok (zeros most))
        | .directory _ => (w, .error .isDirectory)
        | .sink _ => (w, .error badChannel)
        | .source pipe =>
            let (w, octets) := w.take pipe most
            (w, .ok octets)
        | .file place =>
            let octets := (contentOf w.files place).extract o.offset (o.offset + most)
            (w.moveOn number (· + octets.size), .ok octets)

def overwrite (content : ByteArray) (offset : Nat) (octets : ByteArray) : ByteArray :=
  content.extract 0 offset ++ zeros (offset - content.size) ++ octets ++
    content.extract (offset + octets.size) content.size

def writeFile (w : World) (number : Nat) (o : Opening) (place : Place) (octets : ByteArray) :
    World :=
  let content := contentOf w.files place
  let offset := if o.appending then content.size else o.offset
  let content := overwrite content offset octets
  let node := FileSystem.Node.file content (w.files.isExecutable place)
  let w := { w with stored := w.stored + content.size }
  (w.store (w.files.put place node)).moveOn number fun _ => offset + octets.size

/-- Puts bytes into a pipe, as many as there is room for, and gives those that are left.  The
output of the first process has room for all. -/
def writePipe (w : World) (p : Process) (pipe : Nat) (octets : ByteArray) :
    World × Except IoError ByteArray :=
  if pipe = outputPipe then
    ({ w with output := octets :: w.output, stored := w.stored + octets.size }, .ok .empty)
  else if !w.holds (.source pipe) then (w.deliver p 13, .error brokenPipe)
  else
    let room := Pipe.capacity - ((w.pipes.lookup pipe).elim 0 Pipe.size)
    let fill (p : Pipe) : Pipe :=
      { content := p.content.extract p.taken p.content.size ++ octets.extract 0 room }
    (w.changePipe pipe fill, .ok (octets.extract room octets.size))

/-- Writes to a channel, and gives the bytes for which there is no room yet. -/
def write (w : World) (p : Process) (channel : Nat) (octets : ByteArray) :
    World × Except IoError ByteArray :=
  match w.opening? p channel with
  | none => (w, .error badChannel)
  | some (number, o) =>
      if !o.writable then (w, .error badChannel)
      else if octets.isEmpty then (w, .ok .empty)
      else
        match o.target with
        | .nothing => (w, .ok .empty)
        | .zeros => (w, .ok .empty)
        | .full => (w, .error noRoom)
        | .directory _ => (w, .error badChannel)
        | .source _ => (w, .error badChannel)
        | .file place => (w.writeFile number o place octets, .ok .empty)
        | .sink pipe => w.writePipe p pipe octets

/-! ## Waiting -/

/-- The children of a process, or a certain one of them. -/
def childrenOf (w : World) (p : Process) (child : Option Nat) : List Process :=
  w.processes.filter fun c => c.parent = some p.number && child.all (· = c.number)

def endedOf? (children : List Process) : Option (Nat × ExitStatus) :=
  children.findSome? fun c =>
    match c.stage with
    | .ended status => some (c.number, status)
    | _ => none

def await (w : World) (p : Process) (child : Option Nat) (waits interruptible : Bool) :
    World × Awaited :=
  let children := w.childrenOf p child
  let isInterrupted := waits && interruptible && !children.isEmpty
  if isInterrupted && p.noted.any (· ≠ childSignal) then (w, .interrupted)
  else
    match endedOf? children with
    | some (number, status) =>
        ({ w with processes := w.processes.filter (·.number ≠ number) }, .ended number status)
    | none =>
        if children.isEmpty then (w, .none)
        else if isInterrupted && p.noted ≠ [] then (w, .interrupted)
        else (w, .unfinished)

def isBlocked (w : World) (p : Process) {α : Type} : Request α → Bool
  | .read channel _ =>
      match w.opening? p channel with
      | some (_, { target := .source pipe, .. }) =>
          (w.pipes.lookup pipe).any (·.size = 0) && w.holds (.sink pipe) && p.noted = []
      | _ => false
  | .write channel _ =>
      match w.opening? p channel with
      | some (_, { target := .sink pipe, .. }) =>
          pipe ≠ outputPipe && (w.pipes.lookup pipe).any (·.size = Pipe.capacity) &&
            w.holds (.source pipe)
      | _ => false
  | .await child waits interruptible =>
      let children := w.childrenOf p child
      waits && !children.isEmpty && (endedOf? children).isNone &&
        !(interruptible && p.noted ≠ [])
  | _ => false

/-! ## Signals -/

/-- Sends a signal to a process, or to all of them for the number zero. -/
def send (w : World) (target : Int) (signal : Nat) : World × Except IoError Unit :=
  if 64 < signal then (w, .error (.os 22))
  else if target = 0 then (w.processes.foldl (fun w p => w.deliver p signal) w, .ok ())
  else
    match w.processes.find? fun p => (p.number : Int) = target with
    | some p => (w.deliver p signal, .ok ())
    | none => (w, .error noProcess)

/-- What a signal does from now on.  The two that cannot be caught stay as they are. -/
def dispose (p : Process) (signal : Nat) (disposition : Disposition) : Process :=
  let others := p.dispositions.filter (·.1 ≠ signal)
  { p with
    dispositions := if disposition = .usual then others else (signal, disposition) :: others
    noted := if disposition = .caught then p.noted else p.noted.filter (· ≠ signal) }

/-! ## Answers -/

def firstKept : Nat := 10

def copy (w : World) (p : Process) (source target : Nat) (isPrivate : Bool) : World × Bool :=
  match p.channels.find? (·.number = source) with
  | none => (w, false)
  | some c =>
      if source = target then (w, true)
      else ((w.addChannel p { number := target, opening := c.opening, isPrivate }).tidy, true)

def addPipe (w : World) (p : Process) : World × (Nat × Nat) :=
  let pipe := w.nextPipe
  let w := { w with pipes := (pipe, {}) :: w.pipes, nextPipe := pipe + 1 }
  let (w, source) := w.addOpening p (openingOf (.source pipe) .reading)
  let p := (w.process? p.number).getD p
  let (w, sink) := w.addOpening p (openingOf (.sink pipe) .writing)
  (w, (source, sink))

def targetOf? (w : World) (p : Process) (channel : Nat) : Option Target :=
  (w.opening? p channel).map (·.2.target)

def endOf (w : World) (o : Opening) (place : Place) : Nat :=
  if o.appending then (contentOf w.files place).size else o.offset

def readsBack (w : World) (p : Process) (channel other : Nat) : Bool :=
  match w.opening? p channel, w.opening? p other with
  | some (_, source), some (_, sink) =>
      match source.target, sink.target with
      | .file place, .file same => place = same && source.offset < w.endOf sink same
      | _, _ => false
  | _, _ => false

def sizeOf? (w : World) (p : Process) (channel : Nat) : Option Nat :=
  match w.targetOf? p channel with
  | some (.file place) => some (contentOf w.files place).size
  | _ => none

def goBack (w : World) (p : Process) (channel count : Nat) : World :=
  match w.opening? p channel with
  | some (number, { target := .file _, .. }) => w.moveOn number (· - count)
  | _ => w

def inherited (p : Process) : Process :=
  { p with
    channels := p.channels.filter (!·.isPrivate)
    dispositions := p.dispositions.filter (·.2 = .ignored)
    noted := [] }

def answer (w : World) (p : Process) : {α : Type} → Request α → World × α
  | _, .pause _ => (w, ())
  | _, .openFile path manner => w.openFile p path manner
  | _, .close channel =>
      let kept (p : Process) := { p with channels := p.channels.filter (·.number ≠ channel) }
      ((w.change p.number kept).tidy, ())
  | _, .copy source target => w.copy p source target false
  | _, .keep channel =>
      let target := freeChannel p firstKept
      let (w, isOpen) := w.copy p channel target true
      (w, if isOpen then some target else none)
  | _, .pipe => w.addPipe p
  | _, .read channel most =>
      if w.isBlocked { p with noted := [] } (.read channel most) then (w, .error (.os 4))
      else w.read p channel most
  | _, .write channel octets =>
      let (w, left) := w.write p channel octets
      (w, left.map fun _ => ())
  | _, .goBack channel count => (w.goBack p channel count, ())
  | _, .size channel => (w, w.sizeOf? p channel)
  | _, .readsBack channel other => (w, w.readsBack p channel other)
  | _, .look => (w, (w.files, p.place))
  | _, .enter place => (w.change p.number ({ · with place }), ())
  | _, .identity => (w, p.number)
  | _, .parent => (w, p.parent.getD 1)
  | _, .signal target number => w.send target number
  | _, .disposition signal => (w, p.disposition signal)
  | _, .dispose signal disposition => (w.change p.number (dispose · signal disposition), ())
  | _, .signals => (w.change p.number ({ · with noted := [] }), p.noted)
  | _, .await child waits interruptible => w.await p child waits interruptible
  | _, .become => ((w.change p.number inherited).tidy, ())

/-! ## Time -/

/-- How long it takes until a process has the answer to a request. -/
def span {α : Type} : Request α → Nat
  | .pause span => span
  | .read .. => 2000
  | .write .. => 2000
  | .openFile .. => 5000
  | .become => 700000
  | .look => 500
  | _ => 200

def forkSpan : Nat := 100000

def birthSpan : Nat := 400000

/-- How long it takes until a process notices that it need not wait any more. -/
def wakeSpan : Nat := 20000

/-! ## Steps -/

/-- Lets a process go on at a time, unless it has ended or waits for something else. -/
def resume (w : World) (number span : Nat) (next : Routine) : World :=
  w.change number fun p =>
    match p.stage with
    | .busy => { p with stage := .ready (w.now + span) next }
    | _ => p

/-- Makes a child process, which shares what is open. -/
def spawn (w : World) (p : Process) (child : Routine) : World × Nat :=
  let number := w.nextNumber
  let born : Process :=
    { p with
      number, parent := some p.number, noted := [], isHalted := false
      stage := .ready (w.now + birthSpan) child }
  ({ w with processes := w.processes ++ [born], nextNumber := number + 1 }, number)

def suspend (w : World) (number : Nat) (next : Routine) : World :=
  w.change number ({ · with stage := .waiting next })

def grant (w : World) (p : Process) {α : Type} (request : Request α) (next : α → Routine) :
    World :=
  let (w, answer) := w.answer p request
  w.resume p.number (span request) (next answer)

/-- Writes as much as there is room for, and lets the process wait for the rest. -/
def grantWrite (w : World) (p : Process) (channel : Nat) (octets : ByteArray)
    (next : Except IoError Unit → Routine) : World :=
  match w.write p channel octets with
  | (w, .error e) => w.resume p.number (span (.write channel octets)) (next (.error e))
  | (w, .ok left) =>
      let rest := if left.isEmpty then next (.ok ()) else .ask (.write channel left) next
      w.resume p.number (span (.write channel octets)) rest

def perform (w : World) (p : Process) : Routine → World
  | .ended code => w.finish p.number (.exited (code % 256))
  | .fork child next =>
      let (w, number) := w.spawn p child
      w.resume p.number forkSpan (next number)
  | .ask request next =>
      if w.isBlocked p request then w.suspend p.number (.ask request next)
      else
        match request, next with
        | .write channel octets, next => w.grantWrite p channel octets next
        | request, next => w.grant p request next

def wake (w : World) (p : Process) : Process :=
  match p.stage with
  | .waiting (.ask request next) =>
      if w.isBlocked p request then p
      else { p with stage := .ready (w.now + wakeSpan) (.ask request next) }
  | _ => p

/-- When a process is due, and what it does then. -/
def dueOf? (p : Process) : Option (Nat × Routine) :=
  match p.stage with
  | .ready due next => if p.isHalted then none else some (due, next)
  | _ => none

def earlier (first : Option (Nat × Process × Routine)) (p : Process) :
    Option (Nat × Process × Routine) :=
  match dueOf? p with
  | none => first
  | some (due, next) =>
      match first with
      | some (sooner, q, r) => if sooner ≤ due then some (sooner, q, r) else some (due, p, next)
      | none => some (due, p, next)

def step (w : World) : Option World :=
  match w.processes.foldl earlier none with
  | none => none
  | some (due, p, next) =>
      let w := { w with now := max w.now due }
      let w := w.change p.number ({ · with stage := .busy })
      let w := w.perform p next
      some { w with processes := w.processes.map w.wake }

/-! ## Runs -/

def maxStored : Nat := 2 ^ 27

/-- How many processes a world has before it goes on for too long. -/
def maxProcesses : Nat := 1000

/-- All that happens, in at most so many steps. -/
def run : Nat → World → World
  | 0, w => w
  | bound + 1, w =>
      if maxStored < w.stored || maxProcesses < w.processes.length then w
      else
        match w.step with
        | some w => run bound w
        | none => w

def maxSteps : Nat := 1000000

end World
end Rehearsal
end BuildStamp
