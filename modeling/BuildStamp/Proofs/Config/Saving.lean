import BuildStamp.Proofs.Config.File

/-!
# Saving — saves that are refused leave the files alone

A save makes the text of the settings, opens the file, which is empty from then on, and fills it.
What was done before a refusal is not undone, so it matters that whatever can be refused comes
before the file is emptied.  Of the settings only the timeout can be refused: there is a way to
quote every text, but there are longer timeouts than the document format has integers.

* `FileSystem.Deed`, `FileSystem.carryOut` — what is done to the files, one thing after the other;
* `FileSystem.openEmptied`, `FileSystem.fill` — the two parts of a write;
* `Config.saveInParts`, `Config.carryOut_saveInParts` — a save, part by part;
* `Config.exists_place_of_save` — what a save that succeeds changes;
* `Config.save_clean` — what a save leaves, refused or not.
-/

namespace BuildStamp

/-! ## Deeds -/

namespace FileSystem

variable {ε α β : Type}

/-- Something that is done to the files and may be refused.  What was done before a refusal is not
undone. -/
abbrev Deed (ε α : Type) := ExceptT ε (StateM FileSystem) α

/-- What a deed comes to, and the files behind it. -/
def carryOut (d : Deed ε α) (fs : FileSystem) : Except ε α × FileSystem :=
  StateT.run d.run fs

/-- Behind a deed the next one is done, unless the first was refused. -/
theorem carryOut_bind (d : Deed ε α) (f : α → Deed ε β) (fs : FileSystem) :
    carryOut (d >>= f) fs =
      match carryOut d fs with
      | (.ok a, after) => carryOut (f a) after
      | (.error e, after) => (.error e, after) := by
  unfold carryOut ExceptT.run StateT.run
  simp only [bind, ExceptT.bind, ExceptT.mk, StateT.bind, ExceptT.bindCont]
  cases d fs with
  | mk result after => cases result <;> rfl

theorem carryOut_lift (x : Except ε α) (fs : FileSystem) :
    carryOut (liftM x : Deed ε α) fs = (x, fs) :=
  rfl

theorem carryOut_adapt {ε' : Type} (f : ε → ε') (d : Deed ε α) (fs : FileSystem) :
    carryOut (ExceptT.adapt f d) fs = ((carryOut d fs).1.mapError f, (carryOut d fs).2) :=
  rfl

/-- Opens a file to be written anew.  It is empty then, whether or not it was there. -/
def openEmptied (cwd : Place) (p : Path) : Deed IoError Place := do
  let fs ← get
  let place ← fs.writeTarget cwd p
  set (fs.put place (.file ByteArray.empty (fs.isExecutable place)))
  return place

/-- Fills the file at a place. -/
def fill (place : Place) (content : ByteArray) : Deed ε Unit :=
  modify fun fs => fs.put place (.file content (fs.isExecutable place))

theorem carryOut_openEmptied (cwd : Place) (p : Path) (fs : FileSystem) :
    carryOut (openEmptied cwd p) fs =
      match fs.writeTarget cwd p with
      | .ok place => (.ok place, fs.put place (.file ByteArray.empty (fs.isExecutable place)))
      | .error cause => (.error cause, fs) := by
  have hget : carryOut (get : Deed IoError FileSystem) fs = (.ok fs, fs) := rfl
  unfold openEmptied
  rw [carryOut_bind, hget]
  simp only [carryOut_bind, carryOut_lift]
  cases fs.writeTarget cwd p <;> rfl

/-- A file that was opened and filled is as if it had been put there at once. -/
theorem carryOut_fill_of_target {fs : FileSystem} {cwd place : Place} {p : Path}
    (h : fs.writeTarget cwd p = .ok place) (content : ByteArray) :
    carryOut (fill place content : Deed ε Unit)
        (fs.put place (.file ByteArray.empty (fs.isExecutable place))) =
      (.ok (), fs.put place (.file content (fs.isExecutable place))) := by
  have hfill (files : FileSystem) : carryOut (fill place content : Deed ε Unit) files =
      (.ok (), files.put place (.file content (files.isExecutable place))) := rfl
  rw [hfill, isExecutable_put (ne_nil_of_writeTarget h), put_put]

end FileSystem

namespace Config

variable {c : Config} {cwd : Place} {files after : FileSystem} {path : Path}

/-! ## A save in parts -/

/-- Writes the settings into a file, part by part. -/
def saveInParts (cwd : Place) (path : Path) (c : Config) : FileSystem.Deed Error Unit := do
  let text ← c.text
  let place ← ExceptT.adapt Error.io (FileSystem.openEmptied cwd path)
  FileSystem.fill place text.toUTF8

/-- The parts come to the save as a whole, and leave the files as they were where it is refused. -/
theorem carryOut_saveInParts (cwd : Place) (path : Path) (c : Config) (files : FileSystem) :
    FileSystem.carryOut (c.saveInParts cwd path) files =
      match c.save cwd files path with
      | .ok after => (.ok (), after)
      | .error e => (.error e, files) := by
  unfold saveInParts
  -- There are two places for a refusal, and at both of them no file has been opened yet.
  simp only [FileSystem.carryOut_bind, FileSystem.carryOut_lift, FileSystem.carryOut_adapt,
    FileSystem.carryOut_openEmptied]
  cases htext : c.text with
  | error e => simp only [save_of_text_error htext]
  | ok text =>
      cases htarget : files.writeTarget cwd path with
      | error cause => simp only [htarget, Except.mapError, save_of_refusal htext htarget]
      | ok place =>
          simp only [htarget, Except.mapError, save_of_target htext htarget]
          exact FileSystem.carryOut_fill_of_target htarget text.toUTF8

theorem save_of_carryOut_error {e : Error}
    (h : FileSystem.carryOut (c.saveInParts cwd path) files = (.error e, after)) :
    c.save cwd files path = .error e ∧ after = files := by
  rw [carryOut_saveInParts] at h
  cases hsave : c.save cwd files path with
  | error e' =>
      rw [hsave] at h
      cases h
      exact ⟨rfl, rfl⟩
  | ok after' =>
      rw [hsave] at h
      cases h

theorem save_of_carryOut_ok
    (h : FileSystem.carryOut (c.saveInParts cwd path) files = (.ok (), after)) :
    c.save cwd files path = .ok after := by
  rw [carryOut_saveInParts] at h
  cases hsave : c.save cwd files path with
  | error e =>
      rw [hsave] at h
      cases h
  | ok after' =>
      rw [hsave] at h
      cases h
      rfl

/-- A save that succeeds changes what one file holds, which is read back under the path, and nothing
else. -/
theorem exists_place_of_save (h : c.save cwd files path = .ok after) :
    ∃ text place, c.text = .ok text ∧ files.writeTarget cwd path = .ok place ∧
      after.nodeAt? place = some (.file text.toUTF8 (files.isExecutable place)) ∧
      after.readText cwd path = .ok text ∧
      ∀ other, other ≠ place → after.nodeAt? other = files.nodeAt? other := by
  rcases save_eq_ok_iff.1 h with ⟨text, htext, hwrite⟩
  have hread := FileSystem.readText_of_writeText hwrite
  rcases FileSystem.write_eq_ok_iff.1 hwrite with ⟨place, htarget, rfl⟩
  have hplace := FileSystem.ne_nil_of_writeTarget htarget
  exact ⟨text, place, htext, htarget, FileSystem.nodeAt?_put_self hplace files _, hread,
    fun other hother => FileSystem.nodeAt?_put_of_ne hplace files _ hother⟩

/-! ## What a save leaves -/

/-- What a save leaves.  It is refused as one that cannot be put into words exactly if the timeout
is beyond the integers of the format, and otherwise only if no text whatever can be written under
the path.  A save that is refused leaves all files as they were, also when it is carried out part by
part; one that is not refused leaves a single file with a new content, which is the text of the
settings. -/
theorem save_clean (c : Config) (cwd : Place) (files : FileSystem) (path : Path) :
    ((∃ e, c.save cwd files path = .error e ∧ e.heading = .serialization) ↔
      2 ^ 63 - 1 < c.git.timeoutSeconds) ∧
    (∀ e, c.save cwd files path = .error e → e.heading = .serialization ∨
      ∃ cause, e = .io cause ∧ ∀ text, files.writeText cwd path text = .error cause) ∧
    (∀ e after, FileSystem.carryOut (c.saveInParts cwd path) files = (.error e, after) →
      c.save cwd files path = .error e ∧ after = files) ∧
    ∀ after, FileSystem.carryOut (c.saveInParts cwd path) files = (.ok (), after) →
      c.save cwd files path = .ok after ∧
        ∃ text place, c.text = .ok text ∧ files.writeTarget cwd path = .ok place ∧
          after.nodeAt? place = some (.file text.toUTF8 (files.isExecutable place)) ∧
          after.readText cwd path = .ok text ∧
          ∀ other, other ≠ place → after.nodeAt? other = files.nodeAt? other := by
  refine ⟨?_, ?_, fun e after => save_of_carryOut_error, ?_⟩
  · constructor
    · rintro ⟨e, hsave, hheading⟩
      -- A refused write has another heading.
      rcases save_eq_error_iff.1 hsave with ⟨hlong, -⟩ | ⟨-, cause, -, rfl⟩
      · exact hlong
      · cases hheading
    · intro hlong
      exact ⟨_, save_eq_error_iff.2 (.inl ⟨hlong, rfl⟩), rfl⟩
  · intro e hsave
    rcases save_eq_error_iff.1 hsave with ⟨-, rfl⟩ | ⟨-, cause, htarget, rfl⟩
    · exact .inl rfl
    · exact .inr ⟨cause, rfl, fun text => FileSystem.write_eq_error_iff.2 htarget⟩
  · intro after hrun
    have hsave := save_of_carryOut_ok hrun
    exact ⟨hsave, exists_place_of_save hsave⟩

/-- A configuration that is there, and may be executed. -/
def oldSettings : FileSystem :=
  ⟨[(["fwstamp.toml"], .file "version = \"1\"\n".toUTF8 true)]⟩

/-- With the shortest timeout that cannot be given, the old configuration stays; with the longest
that can be given, it is replaced, and may be executed as before. -/
theorem save_clean_replaced :
    (∃ e, FileSystem.carryOut
        (({ git := { timeoutSeconds := 2 ^ 63 } } : Config).saveInParts [] ⟨"fwstamp.toml"⟩)
        oldSettings = (.error e, oldSettings) ∧ e.heading = .serialization) ∧
      ∃ after, ∃ text : String, FileSystem.carryOut
        (({ git := { timeoutSeconds := 2 ^ 63 - 1 } } : Config).saveInParts [] ⟨"fwstamp.toml"⟩)
        oldSettings = (.ok (), after) ∧
        after.nodeAt? ["fwstamp.toml"] = some (.file text.toUTF8 true) := by
  constructor
  · obtain ⟨e, hsave, hheading⟩ :=
      (save_clean { git := { timeoutSeconds := 2 ^ 63 } } [] oldSettings ⟨"fwstamp.toml"⟩).1.2
        (by decide)
    refine ⟨e, ?_, hheading⟩
    rw [carryOut_saveInParts, hsave]
  · have htarget : oldSettings.writeTarget [] ⟨"fwstamp.toml"⟩ = .ok ["fwstamp.toml"] := rfl
    have hsave := save_of_target
      (text_eq_ok (c := { git := { timeoutSeconds := 2 ^ 63 - 1 } }) (by decide)) htarget
    have hrun := carryOut_saveInParts [] ⟨"fwstamp.toml"⟩
      { git := { timeoutSeconds := 2 ^ 63 - 1 } } oldSettings
    rw [hsave] at hrun
    obtain ⟨-, text, place, -, hplace, hnode, -⟩ := (save_clean _ _ _ _).2.2.2 _ hrun
    obtain rfl := Except.ok.inj (htarget.symm.trans hplace)
    exact ⟨_, text, hrun, hnode⟩

end Config
end BuildStamp
