import BuildStamp.Proofs.Generator.Isolation
import BuildStamp.Rehearsal.Programs

/-!
# Files — what a rehearsal makes of the files

The processes of a rehearsal touch the files only by opening some to write and by writing to what
they opened.  So no directory is made or removed, no file goes away, and what was recorded of the
files is in the order of time.  All this is an invariant of a world, which most of what happens
leaves alone because it changes nothing about the files and opens none.

* `FileSystem.Keeps` — files in which all that was there still is;
* `World.Unmoved` — what happened to a world has nothing to do with files;
* `World.Sound` — the invariant;
* `World.sound_answer`, `World.sound_step`, `World.sound_run` — it survives every answer, every step
  and every run;
* `Rehearsal.changes_ordered`, `Rehearsal.filesAt_keeps` — what it says of a started program;
* `Generator.generate_rehearsed_iff` — a rehearsed tool keeps no header from being written.
-/

namespace BuildStamp

/-! ## Files that stay -/

namespace FileSystem

variable {fs mid fs' : FileSystem} {place : Place} {content : ByteArray}

/-- The directories are the same, and every file is still one, executable if it was. -/
structure Keeps (fs fs' : FileSystem) : Prop where
  directories : SameDirectories fs fs'
  files : ∀ place content executable, fs.nodeAt? place = some (.file content executable) →
    ∃ content', fs'.nodeAt? place = some (.file content' executable)

theorem Keeps.refl (fs : FileSystem) : fs.Keeps fs :=
  ⟨fun _ => Iff.rfl, fun _ content _ h => ⟨content, h⟩⟩

theorem Keeps.trans (h : fs.Keeps mid) (h' : mid.Keeps fs') : fs.Keeps fs' := by
  refine ⟨fun place => (h.directories place).trans (h'.directories place), ?_⟩
  intro place content executable hfile
  obtain ⟨content', hmid⟩ := h.files place content executable hfile
  exact h'.files place content' executable hmid

/-- A file is put where no directory is, and stays executable. -/
theorem keeps_put (hplace : fs.nodeAt? place ≠ some .directory) :
    fs.Keeps (fs.put place (.file content (fs.isExecutable place))) := by
  have hroot : place ≠ [] := by
    rintro rfl
    exact hplace rfl
  refine ⟨sameDirectories_put hroot hplace, ?_⟩
  intro other before executable hfile
  rw [nodeAt?_put _ _ _ _ hroot]
  by_cases hother : other = place
  · subst hother
    exact ⟨content, by simp [isExecutable, hfile]⟩
  · exact ⟨before, by rw [if_neg hother, hfile]⟩

end FileSystem

namespace Rehearsal

/-- No device is a file. -/
theorem Device.ne_file_of_at? {place other : Place} {target : Target}
    (h : Device.at? place = some target) : target ≠ .file other := by
  obtain ⟨front, back, heq, -⟩ := List.lookup_eq_some_iff.1 h
  have hmem : (place, target) ∈ Device.all := heq ▸ by simp
  simp only [Device.all, List.map_cons, List.map_nil, List.mem_cons, Prod.mk.injEq,
    List.not_mem_nil, or_false] at hmem
  rcases hmem with ⟨-, rfl⟩ | ⟨-, rfl⟩ | ⟨-, rfl⟩ | ⟨-, rfl⟩ | ⟨-, rfl⟩ <;> exact nofun

namespace World

variable {w w' v : World} {p : Process} {before files : FileSystem} {place : Place}

/-! ## What leaves the files alone -/

/-- Something that was opened leads to the file at a place. -/
def Opens (w : World) (place : Place) : Prop :=
  ∃ entry ∈ w.openings, entry.2.target = .file place

/-- Time, files and their record are the same, and no file was opened. -/
structure Unmoved (w w' : World) : Prop where
  now : w'.now = w.now
  files : w'.files = w.files
  changes : w'.changes = w.changes
  opens : ∀ place, w'.Opens place → w.Opens place

namespace Unmoved

theorem refl (w : World) : w.Unmoved w :=
  ⟨rfl, rfl, rfl, fun _ h => h⟩

theorem trans (h : w.Unmoved v) (h' : v.Unmoved w') : w.Unmoved w' :=
  ⟨h'.now.trans h.now, h'.files.trans h.files, h'.changes.trans h.changes,
    fun place hplace => h.opens place (h'.opens place hplace)⟩

theorem of_foldl {α : Type 1} {f : World → α → World}
    (hf : ∀ (w : World) (a : α), w.Unmoved (f w a)) (l : List α) (w : World) :
    w.Unmoved (l.foldl f w) := by
  induction l generalizing w with
  | nil => exact refl w
  | cons a l ih => exact (hf w a).trans (ih (f w a))

end Unmoved

theorem unmoved_change (w : World) (number : Nat) (f : Process → Process) :
    w.Unmoved (w.change number f) :=
  ⟨rfl, rfl, rfl, fun _ h => h⟩

theorem unmoved_changePipe (w : World) (pipe : Nat) (f : Pipe → Pipe) :
    w.Unmoved (w.changePipe pipe f) :=
  ⟨rfl, rfl, rfl, fun _ h => h⟩

theorem unmoved_tidy (w : World) : w.Unmoved w.tidy := by
  refine ⟨rfl, rfl, rfl, ?_⟩
  rintro place ⟨entry, hmem, htarget⟩
  exact ⟨entry, (List.mem_filter.1 hmem).1, htarget⟩

/-- What is opened stays the same where only its position moves. -/
theorem unmoved_moveOn (w : World) (opening : Nat) (f : Nat → Nat) :
    w.Unmoved (w.moveOn opening f) := by
  refine ⟨rfl, rfl, rfl, ?_⟩
  rintro place ⟨entry, hmem, htarget⟩
  obtain ⟨⟨number, o⟩, ho, rfl⟩ := List.mem_map.1 hmem
  refine ⟨(number, o), ho, ?_⟩
  by_cases hnumber : number = opening
  · simpa [hnumber] using htarget
  · simpa [hnumber] using htarget

/-- Something is opened that is no file. -/
theorem unmoved_addOpening (w : World) (p : Process) {o : Opening}
    (ho : ∀ place, o.target ≠ .file place) : w.Unmoved (w.addOpening p o).1 := by
  refine ⟨rfl, rfl, rfl, ?_⟩
  rintro place ⟨entry, hmem, htarget⟩
  rcases List.mem_cons.1 hmem with rfl | hmem
  · exact absurd htarget (ho place)
  · exact ⟨entry, hmem, htarget⟩

theorem unmoved_finish (w : World) (number : Nat) (status : ExitStatus) :
    w.Unmoved (w.finish number status) := by
  unfold finish
  refine Unmoved.trans ?_ (unmoved_tidy _)
  split <;> split <;> exact ⟨rfl, rfl, rfl, fun _ h => h⟩

theorem unmoved_deliver (w : World) (p : Process) (signal : Nat) :
    w.Unmoved (w.deliver p signal) := by
  unfold deliver
  split
  · exact .refl w
  split
  · exact unmoved_finish _ _ _
  dsimp only
  -- A signal that lets a process go on may also be caught, or end it.
  have hgo : w.Unmoved
      (if signal = 18 then w.change p.number ({ · with isHalted := false }) else w) := by
    split
    · exact unmoved_change _ _ _
    · exact .refl w
  refine hgo.trans ?_
  generalize (if signal = 18 then w.change p.number ({ · with isHalted := false }) else w) = v
  cases p.disposition signal with
  | ignored =>
      dsimp only
      split
      · exact unmoved_change _ _ _
      · exact .refl v
  | caught => exact unmoved_change _ _ _
  | usual =>
      dsimp only
      split
      · exact .refl v
      split
      · exact unmoved_change _ _ _
      · exact unmoved_finish _ _ _

theorem unmoved_send (w : World) (target : Int) (signal : Nat) :
    w.Unmoved (w.send target signal).1 := by
  unfold send
  split
  · exact .refl w
  split
  · exact .of_foldl (fun w p => unmoved_deliver w p signal) w.processes w
  split
  · exact unmoved_deliver _ _ _
  · exact .refl w

theorem unmoved_take (w : World) (pipe most : Nat) : w.Unmoved (w.take pipe most).1 := by
  unfold take
  split
  · exact .refl w
  · dsimp only
    exact unmoved_changePipe _ _ _

theorem unmoved_read (w : World) (p : Process) (channel most : Nat) :
    w.Unmoved (w.read p channel most).1 := by
  unfold read
  split
  · exact .refl w
  split
  · exact .refl w
  split
  case h_6 => exact unmoved_take _ _ _
  case h_7 =>
    dsimp only
    exact unmoved_moveOn _ _ _
  all_goals exact .refl w

theorem unmoved_writePipe (w : World) (p : Process) (pipe : Nat) (octets : ByteArray) :
    w.Unmoved (w.writePipe p pipe octets).1 := by
  unfold writePipe
  split
  · exact ⟨rfl, rfl, rfl, fun _ h => h⟩
  split
  · exact unmoved_deliver _ _ _
  · dsimp only
    exact unmoved_changePipe _ _ _

theorem unmoved_await (w : World) (p : Process) (child : Option Nat) (waits interruptible : Bool) :
    w.Unmoved (w.await p child waits interruptible).1 := by
  unfold await
  dsimp only
  split
  · exact .refl w
  split
  · exact ⟨rfl, rfl, rfl, fun _ h => h⟩
  split
  · exact .refl w
  split <;> exact .refl w

theorem unmoved_copy (w : World) (p : Process) (source target : Nat) (isPrivate : Bool) :
    w.Unmoved (w.copy p source target isPrivate).1 := by
  unfold copy
  split
  · exact .refl w
  split
  · exact .refl w
  · exact (unmoved_change _ _ _).trans (unmoved_tidy _)

theorem unmoved_addPipe (w : World) (p : Process) : w.Unmoved (w.addPipe p).1 := by
  unfold addPipe
  have hpipe : w.Unmoved
      { w with pipes := (w.nextPipe, {}) :: w.pipes, nextPipe := w.nextPipe + 1 } :=
    ⟨rfl, rfl, rfl, fun _ h => h⟩
  refine (hpipe.trans (unmoved_addOpening _ p ?_)).trans (unmoved_addOpening _ _ ?_)
  · intro place h
    cases h
  · intro place h
    cases h

theorem unmoved_goBack (w : World) (p : Process) (channel count : Nat) :
    w.Unmoved (w.goBack p channel count) := by
  unfold goBack
  split
  · exact unmoved_moveOn _ _ _
  · exact .refl w

/-! ## The invariant -/

/-- What all worlds have in common that began with these files. -/
structure Sound (before : FileSystem) (w : World) : Prop where
  kept : before.Keeps w.files
  opened : ∀ place, w.Opens place → before.nodeAt? place ≠ some .directory
  recorded : ∀ c ∈ w.changes, before.Keeps c.2 ∧ c.2.Keeps w.files ∧ c.1 ≤ w.now
  -- The record has the latest files first.
  ordered : w.changes.Pairwise fun later sooner => sooner.1 ≤ later.1 ∧ sooner.2.Keeps later.2

namespace Sound

theorem unmoved (h : Sound before w) (hw : w.Unmoved w') : Sound before w' where
  kept := hw.files ▸ h.kept
  opened place hplace := h.opened place (hw.opens place hplace)
  recorded := by
    rw [hw.changes, hw.files, hw.now]
    exact h.recorded
  ordered := hw.changes ▸ h.ordered

theorem later (h : Sound before w) {now : Nat} (hle : w.now ≤ now) :
    Sound before { w with now } where
  kept := h.kept
  opened := h.opened
  recorded c hc := ⟨(h.recorded c hc).1, (h.recorded c hc).2.1, (h.recorded c hc).2.2.trans hle⟩
  ordered := h.ordered

/-- What was opened is no directory by now either. -/
theorem not_directory (h : Sound before w) (hplace : w.Opens place) :
    w.files.nodeAt? place ≠ some .directory :=
  fun hdirectory => h.opened place hplace ((h.kept.directories place).2 hdirectory)

theorem store (h : Sound before w) (hfiles : w.files.Keeps files) :
    Sound before (w.store files) where
  kept := h.kept.trans hfiles
  opened := h.opened
  recorded := by
    intro c hc
    rcases List.mem_cons.1 hc with rfl | hc
    · exact ⟨h.kept.trans hfiles, .refl files, Nat.le_refl w.now⟩
    · obtain ⟨hbefore, hnow, hle⟩ := h.recorded c hc
      exact ⟨hbefore, hnow.trans hfiles, hle⟩
  ordered := by
    refine List.pairwise_cons.2 ⟨fun c hc => ?_, h.ordered⟩
    obtain ⟨-, hnow, hle⟩ := h.recorded c hc
    exact ⟨hle, hnow.trans hfiles⟩

theorem addOpening (h : Sound before w) (p : Process) {o : Opening}
    (ho : ∀ place, o.target = .file place → before.nodeAt? place ≠ some .directory) :
    Sound before (w.addOpening p o).1 where
  kept := h.kept
  opened := by
    rintro place ⟨entry, hmem, htarget⟩
    rcases List.mem_cons.1 hmem with rfl | hmem
    · exact ho place htarget
    · exact h.opened place ⟨entry, hmem, htarget⟩
  recorded := h.recorded
  ordered := h.ordered

end Sound

/-! ## Opening and writing files -/

/-- What may be opened: nothing goes away, and no directory is opened as a file. -/
structure Openable (files : FileSystem) (target : Target) (after : FileSystem) : Prop where
  keeps : files.Keeps after
  target : ∀ place, target = .file place → files.nodeAt? place ≠ some .directory

theorem openable_of_ne_file {target : Target} (h : ∀ place, target ≠ .file place) :
    Openable files target files :=
  ⟨.refl files, fun place htarget => absurd htarget (h place)⟩

theorem openable_file (h : files.nodeAt? place ≠ some .directory) :
    Openable files (.file place) files := by
  refine ⟨.refl files, ?_⟩
  rintro other hother
  obtain rfl := Target.file.inj hother
  exact h

theorem openable_put {content : ByteArray} {executable : Bool}
    (h : files.nodeAt? place ≠ some .directory)
    (hexecutable : executable = files.isExecutable place) :
    Openable files (.file place) (files.put place (.file content executable)) :=
  ⟨hexecutable ▸ FileSystem.keeps_put h, (openable_file h).target⟩

theorem openable_of_openToWrite {manner : Manner} {target : Target} {made : Option FileSystem}
    (h : openToWrite files manner place = .ok (target, made)) :
    Openable files target (made.getD files) := by
  unfold openToWrite at h
  cases hdevice : Device.at? place with
  | some device =>
      simp only [hdevice, Except.ok.injEq, Prod.mk.injEq] at h
      obtain ⟨rfl, rfl⟩ := h
      -- A device is opened as itself, and no file is behind it.
      exact openable_of_ne_file fun _ => Device.ne_file_of_at? hdevice
  | none =>
      cases hnode : files.nodeAt? place with
      | none =>
          simp only [hdevice, hnode, Except.ok.injEq, Prod.mk.injEq] at h
          obtain ⟨rfl, rfl⟩ := h
          exact openable_put (by simp [hnode]) (by simp [FileSystem.isExecutable, hnode])
      | some node =>
          cases node with
          | directory =>
              simp only [hdevice, hnode] at h
              cases h
          | file content executable =>
              simp only [hdevice, hnode] at h
              split at h
              · -- A file that must not be there is not opened; any other is emptied or kept.
                cases h
              split at h
              · obtain ⟨rfl, rfl⟩ := Prod.mk.inj (Except.ok.inj h)
                exact openable_put (by simp [hnode]) (by simp [FileSystem.isExecutable, hnode])
              · obtain ⟨rfl, rfl⟩ := Prod.mk.inj (Except.ok.inj h)
                exact openable_file (by simp [hnode])

theorem opens_of_opening? {channel number : Nat} {o : Opening}
    (h : w.opening? p channel = some (number, o)) (htarget : o.target = .file place) :
    w.Opens place := by
  unfold opening? at h
  simp only [Option.bind_eq_bind, Option.bind_eq_some_iff] at h
  obtain ⟨c, -, o', hlookup, heq⟩ := h
  obtain ⟨rfl, rfl⟩ := Prod.mk.inj (Option.some.inj heq)
  obtain ⟨front, back, hopenings, -⟩ := List.lookup_eq_some_iff.1 hlookup
  exact ⟨(c.opening, o'), hopenings ▸ by simp, htarget⟩

/-- A path that names a channel opens what is open already; all others are looked up. -/
theorem openable_of_openPath (h : Sound before w) {path : String} {manner : Manner}
    {target : Target} {made : Option FileSystem}
    (hopen : w.openPath p path manner = .ok (target, made)) :
    Openable w.files target (made.getD w.files) := by
  unfold openPath at hopen
  split at hopen
  · split at hopen
    · -- The path names an opening that the process has; a file behind it was opened before.
      rename_i number o hopening
      split at hopen
      · rename_i place htarget
        split at hopen
        · obtain ⟨rfl, rfl⟩ := Prod.mk.inj (Except.ok.inj hopen)
          rw [htarget]
          exact openable_file (h.not_directory (opens_of_opening? hopening htarget))
        · exact openable_of_openToWrite hopen
      · rename_i hfile
        obtain ⟨rfl, rfl⟩ := Prod.mk.inj (Except.ok.inj hopen)
        refine openable_of_ne_file fun place hplace => ?_
        unfold reopened at hplace
        split at hplace
        · split at hplace <;> cases hplace
        · split at hplace <;> cases hplace
        · exact hfile place hplace
    · -- A descriptor that is not open cannot be opened again.
      cases hopen
  · split at hopen
    · cases hopen
    split at hopen
    · obtain ⟨place, -, hopen⟩ := bind_eq_ok_iff.1 hopen
      split at hopen
      · obtain ⟨rfl, rfl⟩ := Prod.mk.inj (Except.ok.inj hopen)
        exact openable_of_ne_file nofun
      · rename_i hdirectory
        obtain ⟨rfl, rfl⟩ := Prod.mk.inj (Except.ok.inj hopen)
        cases hdevice : Device.at? place with
        | none => exact openable_file hdirectory
        | some device => exact openable_of_ne_file fun _ => Device.ne_file_of_at? hdevice
    · obtain ⟨place, -, hopen⟩ := bind_eq_ok_iff.1 hopen
      exact openable_of_openToWrite hopen

theorem sound_openFile (h : Sound before w) (p : Process) (path : String) (manner : Manner) :
    Sound before (w.openFile p path manner).1 := by
  unfold openFile
  split
  · exact h
  · rename_i target made hopen
    obtain ⟨hkeeps, htarget⟩ := openable_of_openPath h hopen
    have htarget' : ∀ place, (openingOf target manner).target = .file place →
        before.nodeAt? place ≠ some .directory := fun place hplace hdirectory =>
      htarget place hplace ((h.kept.directories place).1 hdirectory)
    cases made with
    | none => exact h.addOpening p htarget'
    | some files => exact (h.store hkeeps).addOpening p htarget'

theorem sound_writeFile (h : Sound before w) (number : Nat) (o : Opening) (octets : ByteArray)
    (hplace : w.Opens place) : Sound before (w.writeFile number o place octets) := by
  have hstored (stored : Nat) : Sound before { w with stored } :=
    h.unmoved ⟨rfl, rfl, rfl, fun _ h => h⟩
  have hkeeps (content : ByteArray) :
      w.files.Keeps (w.files.put place (.file content (w.files.isExecutable place))) :=
    FileSystem.keeps_put (h.not_directory hplace)
  unfold writeFile
  dsimp only
  refine Sound.unmoved ?_ (unmoved_moveOn _ _ _)
  exact (hstored _).store (hkeeps _)

theorem sound_write (h : Sound before w) (p : Process) (channel : Nat) (octets : ByteArray) :
    Sound before (w.write p channel octets).1 := by
  unfold write
  split
  · exact h
  rename_i number o hopening
  split
  · exact h
  split
  · exact h
  split
  case h_6 htarget => exact sound_writeFile h _ _ _ (opens_of_opening? hopening htarget)
  case h_7 => exact h.unmoved (unmoved_writePipe _ _ _ _)
  all_goals exact h

/-! ## Answers, steps and runs -/

theorem sound_answer (h : Sound before w) (p : Process) {α : Type} (request : Request α) :
    Sound before (w.answer p request).1 := by
  -- Only opening and writing touch a file; all the other requests leave the files unmoved.
  cases request with
  | openFile path manner => exact sound_openFile h p path manner
  | close => exact h.unmoved ((unmoved_change _ _ _).trans (unmoved_tidy _))
  | copy source target => exact h.unmoved (unmoved_copy _ _ _ _ _)
  | keep channel => exact h.unmoved (unmoved_copy _ _ _ _ _)
  | pipe => exact h.unmoved (unmoved_addPipe _ _)
  | read channel most =>
      simp only [answer]
      split
      · exact h
      · exact h.unmoved (unmoved_read _ _ _ _)
  | write channel octets => exact sound_write h p channel octets
  | goBack channel count => exact h.unmoved (unmoved_goBack _ _ _ _)
  | enter => exact h.unmoved (unmoved_change _ _ _)
  | signal target number => exact h.unmoved (unmoved_send _ _ _)
  | dispose => exact h.unmoved (unmoved_change _ _ _)
  | signals => exact h.unmoved (unmoved_change _ _ _)
  | await child waits interruptible => exact h.unmoved (unmoved_await _ _ _ _ _)
  | become => exact h.unmoved ((unmoved_change _ _ _).trans (unmoved_tidy _))
  | _ => exact h

theorem sound_grantWrite (h : Sound before w) (p : Process) (channel : Nat) (octets : ByteArray)
    (next : Except IoError Unit → Routine) : Sound before (w.grantWrite p channel octets next) := by
  have hwrite := sound_write h p channel octets
  unfold grantWrite
  split
  · rename_i heq
    rw [heq] at hwrite
    exact hwrite.unmoved (unmoved_change _ _ _)
  · rename_i heq
    rw [heq] at hwrite
    exact hwrite.unmoved (unmoved_change _ _ _)

theorem sound_perform (h : Sound before w) (p : Process) (routine : Routine) :
    Sound before (w.perform p routine) := by
  cases routine with
  | ended code => exact h.unmoved (unmoved_finish _ _ _)
  | fork child next =>
      have hspawn : w.Unmoved (w.spawn p child).1 := ⟨rfl, rfl, rfl, fun _ h => h⟩
      exact h.unmoved (hspawn.trans (unmoved_change _ _ _))
  | ask request next =>
      simp only [perform]
      split
      · exact h.unmoved (unmoved_change _ _ _)
      split
      · exact sound_grantWrite h p _ _ _
      · exact (sound_answer h p _).unmoved (unmoved_change _ _ _)

/-- One step keeps the invariant: time does not go back, and the process that is due does one
thing. -/
theorem sound_step (h : Sound before w) (hstep : w.step = some w') : Sound before w' := by
  unfold step at hstep
  split at hstep
  · cases hstep
  · rename_i due p next heq
    obtain rfl := Option.some.inj hstep
    have hlater := h.later (Nat.le_max_left w.now due)
    have hbusy := hlater.unmoved (unmoved_change _ p.number ({ · with stage := .busy }))
    exact (sound_perform hbusy p next).unmoved ⟨rfl, rfl, rfl, fun _ h => h⟩

/-- A whole run keeps it, by induction on the steps that are left. -/
theorem sound_run (h : Sound before w) (bound : Nat) : Sound before (w.run bound) := by
  induction bound generalizing w with
  | zero => exact h
  | succ bound ih =>
      unfold run
      split
      · exact h
      split
      · rename_i hstep
        exact ih (sound_step h hstep)
      · exact h

end World

/-! ## Started programs -/

theorem sound_firstWorld (files : FileSystem) (place : Place) (routine : Routine) :
    World.Sound files (firstWorld files place routine) where
  kept := .refl files
  opened := by
    rintro place ⟨entry, hmem, htarget⟩
    simp only [firstWorld, firstOpenings, List.mem_cons, List.not_mem_nil, or_false] at hmem
    rcases hmem with rfl | rfl | rfl <;> cases htarget
  recorded := nofun
  ordered := .nil

variable {environment : List (String × String)} {files : FileSystem} {place : Place}
  {command : Command} {child : Child}

/-- What a started program makes of the files is what a sound world recorded. -/
theorem exists_world (h : programs environment files place command = .ok child) :
    ∃ w : World, w.Sound files ∧ child.changes = w.changes.reverse := by
  unfold programs at h
  obtain ⟨path, -, h⟩ := bind_eq_ok_iff.1 h
  obtain rfl := Except.ok.inj h
  exact ⟨_, World.sound_run (sound_firstWorld _ _ _) _, rfl⟩

/-- What a started program makes of the files is recorded in the order of time, and all that was
there at one time is still there at the next. -/
theorem changes_ordered (h : programs environment files place command = .ok child) :
    child.changes.Pairwise fun sooner later => sooner.1 ≤ later.1 ∧ sooner.2.Keeps later.2 := by
  obtain ⟨w, hsound, hchanges⟩ := exists_world h
  rw [hchanges, List.pairwise_reverse]
  exact hsound.ordered

theorem keeps_of_mem_changes (h : programs environment files place command = .ok child)
    {change : Nat × FileSystem} (hmem : change ∈ child.changes) : files.Keeps change.2 := by
  obtain ⟨w, hsound, hchanges⟩ := exists_world h
  rw [hchanges, List.mem_reverse] at hmem
  exact (hsound.recorded change hmem).1

/-- The changes up to a time, and behind them those up to a later one. -/
theorem exists_append_of_le (changes : List (Nat × FileSystem)) {now later : Nat}
    (hle : now ≤ later) :
    ∃ between, changes.takeWhile (·.1 ≤ later) = changes.takeWhile (·.1 ≤ now) ++ between := by
  have hsooner : (changes.takeWhile (·.1 ≤ later)).takeWhile (·.1 ≤ now) =
      changes.takeWhile (·.1 ≤ now) := by
    rw [List.takeWhile_takeWhile]
    congr 1
    funext change
    simp only [decide_eq_true_eq, Bool.decide_and]
    grind
  obtain ⟨between, hbetween⟩ :=
    List.takeWhile_prefix (l := changes.takeWhile (·.1 ≤ later)) (·.1 ≤ now)
  exact ⟨between, by rw [← hsooner, hbetween]⟩

/-- Whatever is there while a started program runs, it is there at every later time: no directory
is made or removed, and no file goes away. -/
theorem filesAt_keeps (h : programs environment files place command = .ok child) {now later : Nat}
    (hle : now ≤ later) : (child.filesAt files now).Keeps (child.filesAt files later) := by
  obtain ⟨between, hbetween⟩ := exists_append_of_le child.changes hle
  have hsub := List.takeWhile_sublist (l := child.changes) (·.1 ≤ later)
  have hordered := (changes_ordered h).sublist hsub
  rw [hbetween] at hordered hsub
  unfold Child.filesAt
  rw [hbetween, List.getLast?_append]
  cases hlast : between.getLast? with
  | none => exact .refl _
  | some last =>
      have hmem : last ∈ between := List.mem_of_getLast? hlast
      cases hfirst : (child.changes.takeWhile (·.1 ≤ now)).getLast? with
      | none => exact keeps_of_mem_changes h (hsub.mem (List.mem_append_right _ hmem))
      | some first =>
          exact ((List.pairwise_append.1 hordered).2.2 first (List.mem_of_getLast? hfirst) last
            hmem).2

/-- Before anything is recorded the files are those that the program was started with. -/
theorem keeps_filesAt (h : programs environment files place command = .ok child) (now : Nat) :
    files.Keeps (child.filesAt files now) := by
  unfold Child.filesAt
  cases hlast : (child.changes.takeWhile (·.1 ≤ now)).getLast? with
  | none => exact .refl files
  | some last =>
      exact keeps_of_mem_changes h
        ((List.takeWhile_sublist _).mem (List.mem_of_getLast? hlast))

end Rehearsal

/-! ## Lookups and headers -/

variable {host : Host} {files : FileSystem} {directory : Path}

/-- Whatever is started, the directories stay what they are. -/
def Programs.KeepDirectories (programs : Programs) : Prop :=
  ∀ files place command child, programs files place command = .ok child →
    ∀ now, files.SameDirectories (child.filesAt files now)

theorem Rehearsal.programs_keepDirectories (environment : List (String × String)) :
    (Rehearsal.programs environment).KeepDirectories :=
  fun _ _ _ _ h now => (Rehearsal.keeps_filesAt h now).directories

theorem CommitLookup.sameDirectories_of_find {l : CommitLookup} {found : CommitLookup.Found}
    (hkeep : host.programs.KeepDirectories) (h : l.find host files directory = .ok found) :
    files.SameDirectories found.files := by
  rcases find_cases h with ⟨cause, -, rfl⟩ | ⟨child, hstart, -, rfl⟩
  · exact fun _ => Iff.rfl
  · obtain ⟨-, place, -, hchild⟩ := start_eq_ok_iff.1 hstart
    exact hkeep files place l.command child hchild _

namespace Generator

/-- A tool that leaves the directories alone keeps no header from being written, and lets none be
written that could not be. -/
theorem generate_written_iff (g : Generator) (hkeep : host.programs.KeepDirectories)
    {run : Outcome} (h : g.generate host files directory = .ok run) :
    run.result = .ok (g.target directory) ↔
      ∃ place, files.writeTarget host.workingDirectory (g.target directory) = .ok place := by
  obtain ⟨found, hfind⟩ : ∃ found, g.lookup.find host files directory = .ok found := by
    cases hfind : g.lookup.find host files directory with
    | error cause => cases (generate_of_broken hfind).symm.trans h
    | ok found => exact ⟨found, rfl⟩
  -- The tool may change files, but the directories are those from before the lookup.
  have hsame := CommitLookup.sameDirectories_of_find hkeep hfind
  obtain rfl := Except.ok.inj ((generate_of_find hfind).symm.trans h)
  cases htarget : found.files.writeTarget host.workingDirectory (g.target directory) with
  | ok place =>
      rw [Header.write_of_target _ htarget]
      exact ⟨fun _ => ⟨place, hsame.symm.writeTarget htarget⟩, fun _ => rfl⟩
  | error cause =>
      rw [Header.write_of_refusal _ htarget]
      refine ⟨nofun, ?_⟩
      rintro ⟨place, hplace⟩
      cases htarget.symm.trans (hsame.writeTarget hplace)

/-- So it is with every tool that is rehearsed, if the clock can show the end of its time. -/
theorem generate_rehearsed_iff (g : Generator) {environment : List (String × String)}
    (hprograms : host.programs = Rehearsal.programs environment)
    (hfits : Lookup.deadlineFits host.uptime g.lookup.limit = true) :
    ∃ run, g.generate host files directory = .ok run ∧
      (run.result = .ok (g.target directory) ↔
        ∃ place, files.writeTarget host.workingDirectory (g.target directory) = .ok place) := by
  obtain ⟨run, hrun⟩ := (generate_returns_iff g host files directory).2 (.inr hfits)
  refine ⟨run, hrun, generate_written_iff g ?_ hrun⟩
  rw [hprograms]
  exact Rehearsal.programs_keepDirectories environment

end Generator
end BuildStamp
