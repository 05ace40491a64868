import BuildStamp.Host.FileSystem

/-!
# Walk — where a path leads

A path is followed segment by segment, and all that is walked through must be directories.  So the
directories alone decide where a file can be written: a file that is put somewhere changes nothing
about it.

* `bind_eq_ok_iff` — two steps that may be refused succeed together;
* `FileSystem.walk` — follows segments to a directory;
* `FileSystem.directoryAt_eq_ok_iff` — a path names a directory by all its segments;
* `FileSystem.Names`, `FileSystem.names_of_writeTarget` — and a file by the last of them;
* `FileSystem.SameDirectories` — file systems in which the same paths can be walked;
* `FileSystem.walk_unique` — a walk that comes to an end always comes to the same.
-/

namespace BuildStamp

/-! ## Steps that may be refused -/

section Except

variable {ε α β : Type} {x : Except ε α}

theorem ok_bind (a : α) (f : α → Except ε β) : (Except.ok a >>= f) = f a :=
  rfl

theorem error_bind (e : ε) (f : α → Except ε β) : (Except.error e >>= f) = .error e :=
  rfl

/-- Two steps succeed only if both do. -/
theorem bind_eq_ok_iff {f : α → Except ε β} {b : β} :
    (x >>= f) = .ok b ↔ ∃ a, x = .ok a ∧ f a = .ok b := by
  cases x with
  | error e => simp [error_bind]
  | ok a => simp [ok_bind]

end Except

namespace FileSystem

variable {fs fs' : FileSystem} {cwd place next : Place} {segment : List Char}

/-! ## One segment -/

theorem enter_eq_ok_iff {u : Unit} :
    fs.enter place = .ok u ↔ fs.nodeAt? place = some .directory := by
  unfold enter
  cases hnode : fs.nodeAt? place with
  | none => simp
  | some node => cases node <;> simp

/-- A segment that is the name of an entry. -/
structure IsName (segment : List Char) : Prop where
  notFiller : Path.isFiller segment = false
  notParent : segment ≠ ['.', '.']
  short : (String.ofList segment).utf8ByteSize ≤ maxNameBytes

/-- Where a segment leads from a directory. -/
inductive LeadsTo (fs : FileSystem) (place : Place) (segment : List Char) : Place → Prop where
  | filler (h : Path.isFiller segment = true) : LeadsTo fs place segment place
  | parent (h : segment = ['.', '.']) : LeadsTo fs place segment place.dropLast
  | name (h : IsName segment) (hthere : (fs.nodeAt? (place ++ [String.ofList segment])).isSome) :
      LeadsTo fs place segment (place ++ [String.ofList segment])

theorem step_eq_ok_iff :
    fs.step place segment = .ok next ↔
      fs.nodeAt? place = some .directory ∧ fs.LeadsTo place segment next := by
  unfold step
  rw [bind_eq_ok_iff]
  constructor
  · rintro ⟨u, henter, h⟩
    refine ⟨enter_eq_ok_iff.1 henter, ?_⟩
    -- The step asks for a filler, a parent, a long name and an entry, in this order.
    by_cases hfiller : Path.isFiller segment = true
    · simp [hfiller, pure, Except.pure] at h
      exact h ▸ .filler hfiller
    by_cases hparent : segment = ['.', '.']
    · subst hparent
      simp [hfiller, pure, Except.pure] at h
      exact h ▸ .parent rfl
    by_cases hlong : maxNameBytes < (String.ofList segment).utf8ByteSize
    · simp [hfiller, hparent, hlong, throw, throwThe, MonadExceptOf.throw, error_bind] at h
    have hname : IsName segment := ⟨by simpa using hfiller, hparent, Nat.not_lt.1 hlong⟩
    cases hnode : fs.nodeAt? (place ++ [String.ofList segment]) with
    | none =>
        simp [hfiller, hparent, hlong, hnode, throw, throwThe, MonadExceptOf.throw] at h
    | some node =>
        simp [hfiller, hparent, hlong, hnode, pure, Except.pure] at h
        exact h ▸ .name hname (by simp [hnode])
  · rintro ⟨hplace, hleads⟩
    refine ⟨(), enter_eq_ok_iff.2 hplace, ?_⟩
    cases hleads with
    | filler hfiller => simp [hfiller, pure, Except.pure]
    | parent hparent =>
        subst hparent
        rfl
    | name hname hthere =>
        obtain ⟨node, hnode⟩ := Option.isSome_iff_exists.1 hthere
        simp [hname.notFiller, hname.notParent, Nat.not_lt.2 hname.short, hnode, pure, Except.pure]

/-! ## Walks -/

/-- Follows segments to a directory. -/
def walk (fs : FileSystem) (start : Place) (segments : List (List Char)) :
    Except IoError Place := do
  let place ← segments.foldlM fs.step start
  fs.enter place
  return place

theorem walk_eq_ok_iff {segments : List (List Char)} :
    fs.walk place segments = .ok next ↔
      segments.foldlM fs.step place = .ok next ∧ fs.nodeAt? next = some .directory := by
  unfold walk
  rw [bind_eq_ok_iff]
  constructor
  · rintro ⟨mid, hsteps, h⟩
    obtain ⟨u, henter, hmid⟩ := bind_eq_ok_iff.1 h
    obtain rfl : mid = next := Except.ok.inj hmid
    exact ⟨hsteps, enter_eq_ok_iff.1 henter⟩
  · rintro ⟨hsteps, hnext⟩
    exact ⟨next, hsteps, bind_eq_ok_iff.2 ⟨(), enter_eq_ok_iff.2 hnext, rfl⟩⟩

theorem walk_nil_iff :
    fs.walk place [] = .ok next ↔ place = next ∧ fs.nodeAt? next = some .directory := by
  rw [walk_eq_ok_iff]
  simp [pure, Except.pure]

theorem walk_cons_iff {segments : List (List Char)} :
    fs.walk place (segment :: segments) = .ok next ↔
      ∃ mid, fs.step place segment = .ok mid ∧ fs.walk mid segments = .ok next := by
  simp only [walk_eq_ok_iff, List.foldlM_cons, bind_eq_ok_iff]
  constructor
  · rintro ⟨⟨mid, hstep, hsteps⟩, hnext⟩
    exact ⟨mid, hstep, hsteps, hnext⟩
  · rintro ⟨mid, hstep, hsteps, hnext⟩
    exact ⟨⟨mid, hstep, hsteps⟩, hnext⟩

/-- A walk begins in a directory. -/
theorem nodeAt?_of_walk {segments : List (List Char)} (h : fs.walk place segments = .ok next) :
    fs.nodeAt? place = some .directory := by
  cases segments with
  | nil =>
      obtain ⟨rfl, hplace⟩ := walk_nil_iff.1 h
      exact hplace
  | cons segment segments =>
      obtain ⟨mid, hstep, -⟩ := walk_cons_iff.1 h
      exact (step_eq_ok_iff.1 hstep).1

theorem walk_append_iff {first second : List (List Char)} :
    fs.walk place (first ++ second) = .ok next ↔
      ∃ mid, fs.walk place first = .ok mid ∧ fs.walk mid second = .ok next := by
  induction first generalizing place with
  | nil =>
      constructor
      · intro h
        -- A walk of no segments still looks whether its place is a directory; the longer one did
        -- too.
        exact ⟨place, walk_nil_iff.2 ⟨rfl, nodeAt?_of_walk h⟩, h⟩
      · rintro ⟨mid, hfirst, hsecond⟩
        obtain ⟨rfl, -⟩ := walk_nil_iff.1 hfirst
        exact hsecond
  | cons segment first ih =>
      simp only [List.cons_append, walk_cons_iff, ih]
      constructor
      · rintro ⟨mid, hstep, far, hfirst, hsecond⟩
        exact ⟨far, ⟨mid, hstep, hfirst⟩, hsecond⟩
      · rintro ⟨far, ⟨mid, hstep, hfirst⟩, hsecond⟩
        exact ⟨mid, hstep, far, hfirst, hsecond⟩

/-- An empty segment behind others leads nowhere else. -/
theorem walk_empty_iff : fs.walk place [[]] = .ok next ↔ fs.walk place [] = .ok next := by
  have hfiller : Path.isFiller [] = true := rfl
  rw [walk_cons_iff]
  constructor
  · rintro ⟨mid, hstep, hwalk⟩
    obtain ⟨-, hleads⟩ := step_eq_ok_iff.1 hstep
    cases hleads with
    | filler => exact hwalk
    | parent hparent => simp at hparent
    | name hname => exact absurd hname.notFiller (by simp [hfiller])
  · intro h
    exact ⟨place, step_eq_ok_iff.2 ⟨nodeAt?_of_walk h, .filler hfiller⟩, h⟩

/-! ## Places of paths -/

variable {p : Path}

theorem directoryAt_eq_ok_iff :
    fs.directoryAt cwd p = .ok place ↔
      checkPath p = .ok () ∧ fs.walk (startOf cwd p) (Path.segments p.text.toList) = .ok place := by
  simp only [directoryAt, resolve, bind_eq_ok_iff, walk_eq_ok_iff]
  constructor
  · rintro ⟨mid, ⟨u, hcheck, hsteps⟩, v, henter, hmid⟩
    obtain rfl : mid = place := Except.ok.inj hmid
    exact ⟨hcheck, hsteps, enter_eq_ok_iff.1 henter⟩
  · rintro ⟨hcheck, hsteps, hplace⟩
    exact ⟨place, ⟨(), hcheck, hsteps⟩, (), enter_eq_ok_iff.2 hplace, rfl⟩

/-- A path names a file by its last segment, in the directory that the others lead to. -/
structure Names (fs : FileSystem) (cwd : Place) (p : Path) (above : List (List Char))
    (last : List Char) (dir : Place) : Prop where
  check : checkPath p = .ok ()
  split : Path.segments p.text.toList = above ++ [last]
  isName : IsName last
  walk : fs.walk (startOf cwd p) above = .ok dir

/-- A path that ends in a slash names no file, whatever stands before the slash. -/
theorem writeTarget_ne_ok_of_slash {above : List (List Char)}
    (hsplit : Path.segments p.text.toList = above ++ [[]]) : fs.writeTarget cwd p ≠ .ok place := by
  intro h
  unfold writeTarget at h
  simp only [hsplit, bind_eq_ok_iff] at h
  obtain ⟨u, -, dir, -, v, -, h⟩ := h
  have hshorter : (above.reverse.dropWhile List.isEmpty).length < above.length + 1 := by
    have hle := (List.dropWhile_sublist (l := above.reverse) List.isEmpty).length_le
    rw [List.length_reverse] at hle
    exact Nat.lt_succ_of_le hle
  split at h
  · simp [throw, throwThe, MonadExceptOf.throw] at h
  · simp [hshorter, throw, throwThe, MonadExceptOf.throw, error_bind] at h

theorem names_of_writeTarget (h : fs.writeTarget cwd p = .ok place) :
    ∃ above last dir, fs.Names cwd p above last dir ∧ place = dir ++ [String.ofList last] ∧
      fs.nodeAt? place ≠ some .directory := by
  obtain ⟨above, last, hsplit⟩ :=
    (List.eq_nil_or_concat (Path.segments p.text.toList)).resolve_left (Path.segments_ne_nil _)
  rw [List.concat_eq_append] at hsplit
  by_cases hempty : last = []
  · exact absurd h (writeTarget_ne_ok_of_slash (hempty ▸ hsplit))
  have hnamed : ((above ++ [last]).reverse.dropWhile (· == [])).reverse = above ++ [last] := by
    simp [hempty]
  unfold writeTarget at h
  simp only [hsplit, bind_eq_ok_iff, hnamed, List.dropLast_concat, List.getLast?_concat,
    Nat.lt_irrefl, false_or] at h
  obtain ⟨u, hcheck, dir, hsteps, v, henter, h⟩ := h
  by_cases hdots : last = ['.'] ∨ last = ['.', '.']
  · simp [hdots, throw, throwThe, MonadExceptOf.throw, error_bind] at h
  by_cases hlong : maxNameBytes < (String.ofList last).utf8ByteSize
  · simp [hdots, hlong, throw, throwThe, MonadExceptOf.throw, error_bind] at h
  -- What is left of the last segment is a name that can be there.
  rw [not_or] at hdots
  have hname : IsName last :=
    ⟨by simp [Path.isFiller, hempty, hdots.1], hdots.2, Nat.not_lt.1 hlong⟩
  have hwalk := walk_eq_ok_iff.2 ⟨hsteps, enter_eq_ok_iff.1 henter⟩
  refine ⟨above, last, dir, ⟨hcheck, hsplit, hname, hwalk⟩, ?_⟩
  simp only [hdots.1, hdots.2, hlong, or_self, if_false] at h
  split at h
  · simp [throw, throwThe, MonadExceptOf.throw] at h
  · rename_i hnode
    obtain rfl : dir ++ [String.ofList last] = place := Except.ok.inj h
    exact ⟨rfl, hnode⟩

theorem Names.writeTarget {above : List (List Char)} {last : List Char} {dir : Place}
    (h : fs.Names cwd p above last dir)
    (hnode : fs.nodeAt? (dir ++ [String.ofList last]) ≠ some .directory) :
    fs.writeTarget cwd p = .ok (dir ++ [String.ofList last]) := by
  obtain ⟨hcheck, hsplit, hname, hwalk⟩ := h
  obtain ⟨hsteps, hdir⟩ := walk_eq_ok_iff.1 hwalk
  have hne : last ≠ [] := by
    rintro rfl
    exact absurd hname.notFiller (by decide)
  have hdot : last ≠ ['.'] := by
    rintro rfl
    exact absurd hname.notFiller (by decide)
  -- No slash stands at the end, so there is nothing to cut.
  have hnamed : ((above ++ [last]).reverse.dropWhile (· == [])).reverse = above ++ [last] := by
    simp [hne]
  unfold FileSystem.writeTarget
  simp only [hsplit, hnamed, List.dropLast_concat, List.getLast?_concat, bind_eq_ok_iff]
  refine ⟨(), hcheck, dir, hsteps, (), enter_eq_ok_iff.2 hdir, ?_⟩
  simp [hdot, hname.notParent, Nat.not_lt.2 hname.short, pure, Except.pure]

/-- A path that names something that is there leads to it. -/
theorem Names.resolve {above : List (List Char)} {last : List Char} {dir : Place}
    (h : fs.Names cwd p above last dir)
    (hthere : (fs.nodeAt? (dir ++ [String.ofList last])).isSome) :
    fs.resolve cwd p = .ok (dir ++ [String.ofList last]) := by
  obtain ⟨hcheck, hsplit, hname, hwalk⟩ := h
  obtain ⟨hsteps, hdir⟩ := walk_eq_ok_iff.1 hwalk
  have hstep := step_eq_ok_iff.2 ⟨hdir, LeadsTo.name hname hthere⟩
  simp only [FileSystem.resolve, hcheck, ok_bind, hsplit, List.foldlM_append, hsteps,
    List.foldlM_cons, hstep, List.foldlM_nil]
  rfl

theorem has_eq_true_iff : fs.has cwd p = true ↔ ∃ place, fs.resolve cwd p = .ok place := by
  unfold has
  cases fs.resolve cwd p <;> simp [Except.isOk, Except.toBool]

/-- A path to a file leads to something exactly if there is something at the file's place. -/
theorem has_iff_of_writeTarget (h : fs.writeTarget cwd p = .ok place) :
    fs.has cwd p = true ↔ (fs.nodeAt? place).isSome := by
  obtain ⟨above, last, dir, hnames, rfl, -⟩ := names_of_writeTarget h
  unfold has
  constructor
  · intro hhas
    cases hresolve : fs.resolve cwd p with
    | error cause =>
        rw [hresolve] at hhas
        cases hhas
    | ok found =>
        obtain ⟨hsteps, hdir⟩ := walk_eq_ok_iff.1 hnames.walk
        unfold FileSystem.resolve at hresolve
        rw [hnames.check, ok_bind, hnames.split, List.foldlM_append, hsteps, ok_bind,
          List.foldlM_cons] at hresolve
        -- The directory is walked alike in both, so only the last step says something.
        obtain ⟨next, hstep, -⟩ := bind_eq_ok_iff.1 hresolve
        obtain ⟨-, hleads⟩ := step_eq_ok_iff.1 hstep
        cases hleads with
        | filler hfiller => exact absurd hfiller (by simp [hnames.isName.notFiller])
        | parent hparent => exact absurd hparent hnames.isName.notParent
        | name hname hthere => exact hthere
  · intro hthere
    rw [hnames.resolve hthere]
    rfl

theorem has_eq_false_of_free (h : fs.writeTarget cwd p = .ok place)
    (hfree : fs.nodeAt? place = none) : fs.has cwd p = false := by
  rw [← Bool.not_eq_true, has_iff_of_writeTarget h, hfree]
  decide

/-! ## The same directories -/

/-- The same places are directories. -/
def SameDirectories (fs fs' : FileSystem) : Prop :=
  ∀ place, fs.nodeAt? place = some .directory ↔ fs'.nodeAt? place = some .directory

theorem SameDirectories.symm (h : SameDirectories fs fs') : SameDirectories fs' fs :=
  fun place => (h place).symm

theorem SameDirectories.walk (h : SameDirectories fs fs') {segments : List (List Char)}
    (hwalk : fs.walk place segments = .ok next) : fs'.walk place segments = .ok next := by
  induction segments generalizing place with
  | nil =>
      obtain ⟨rfl, hplace⟩ := walk_nil_iff.1 hwalk
      exact walk_nil_iff.2 ⟨rfl, (h place).1 hplace⟩
  | cons segment segments ih =>
      obtain ⟨mid, hstep, hrest⟩ := walk_cons_iff.1 hwalk
      obtain ⟨hplace, hleads⟩ := step_eq_ok_iff.1 hstep
      -- What a walk goes on from is a directory, so it is there in both.
      have hmid := (h mid).1 (nodeAt?_of_walk hrest)
      refine walk_cons_iff.2 ⟨mid, step_eq_ok_iff.2 ⟨(h place).1 hplace, ?_⟩, ih hrest⟩
      cases hleads with
      | filler hfiller => exact .filler hfiller
      | parent hparent => exact .parent hparent
      | name hname => exact .name hname (by simp [hmid])

theorem SameDirectories.writeTarget (h : SameDirectories fs fs')
    (htarget : fs.writeTarget cwd p = .ok place) : fs'.writeTarget cwd p = .ok place := by
  obtain ⟨above, last, dir, hnames, rfl, hnode⟩ := names_of_writeTarget htarget
  obtain ⟨hcheck, hsplit, hname, hwalk⟩ := hnames
  have hnames' : fs'.Names cwd p above last dir := ⟨hcheck, hsplit, hname, h.walk hwalk⟩
  exact hnames'.writeTarget (fun hdirectory => hnode ((h _).2 hdirectory))

/-- Segments that are followed to the end go on from directories only. -/
theorem eq_or_nodeAt?_of_steps {segments : List (List Char)}
    (h : segments.foldlM fs.step place = .ok next) :
    place = next ∨ fs.nodeAt? place = some .directory := by
  cases segments with
  | nil => exact .inl (Except.ok.inj h)
  | cons segment segments =>
      rw [List.foldlM_cons] at h
      rcases bind_eq_ok_iff.1 h with ⟨mid, hstep, -⟩
      exact .inr (step_eq_ok_iff.1 hstep).1

theorem SameDirectories.steps (h : SameDirectories fs fs') {segments : List (List Char)}
    (hsteps : segments.foldlM fs.step place = .ok next)
    (hthere : (fs.nodeAt? next).isSome → (fs'.nodeAt? next).isSome) :
    segments.foldlM fs'.step place = .ok next := by
  induction segments generalizing place with
  | nil => exact hsteps
  | cons segment segments ih =>
      rw [List.foldlM_cons] at hsteps ⊢
      rcases bind_eq_ok_iff.1 hsteps with ⟨mid, hstep, hrest⟩
      rcases step_eq_ok_iff.1 hstep with ⟨hplace, hleads⟩
      refine bind_eq_ok_iff.2 ⟨mid, step_eq_ok_iff.2 ⟨(h place).1 hplace, ?_⟩, ih hrest⟩
      cases hleads with
      | filler hfiller => exact .filler hfiller
      | parent hparent => exact .parent hparent
      | name hname hmid =>
          refine .name hname ?_
          -- The entry is the last one, of which it is assumed, or a directory that is gone through.
          rcases eq_or_nodeAt?_of_steps hrest with rfl | hdirectory
          · exact hthere hmid
          · simp [(h _).1 hdirectory]

/-- A path leads to the same place, if there is still something. -/
theorem SameDirectories.resolve (h : SameDirectories fs fs')
    (hresolve : fs.resolve cwd p = .ok place)
    (hthere : (fs.nodeAt? place).isSome → (fs'.nodeAt? place).isSome) :
    fs'.resolve cwd p = .ok place := by
  unfold FileSystem.resolve at hresolve ⊢
  rcases bind_eq_ok_iff.1 hresolve with ⟨u, hcheck, hsteps⟩
  exact bind_eq_ok_iff.2 ⟨u, hcheck, h.steps hsteps hthere⟩

theorem SameDirectories.directoryAt (h : SameDirectories fs fs')
    (hplace : fs.directoryAt cwd p = .ok place) : fs'.directoryAt cwd p = .ok place := by
  obtain ⟨hcheck, hwalk⟩ := directoryAt_eq_ok_iff.1 hplace
  exact directoryAt_eq_ok_iff.2 ⟨hcheck, h.walk hwalk⟩

/-! ## Places that do not change -/

/-- Where a segment leads, it leads to one place, whatever else is there. -/
theorem LeadsTo.unique {next' : Place} (h : fs.LeadsTo place segment next)
    (h' : fs'.LeadsTo place segment next') : next = next' := by
  -- The three kinds of segments exclude each other.
  cases h with
  | filler hfiller =>
      cases h' with
      | filler => rfl
      | parent hparent => exact absurd hfiller (by simp [hparent, Path.isFiller])
      | name hname => exact absurd hfiller (by simp [hname.notFiller])
  | parent hparent =>
      cases h' with
      | filler hfiller => exact absurd hfiller (by simp [hparent, Path.isFiller])
      | parent => rfl
      | name hname => exact absurd hparent hname.notParent
  | name hname =>
      cases h' with
      | filler hfiller => exact absurd hfiller (by simp [hname.notFiller])
      | parent hparent => exact absurd hparent hname.notParent
      | name => rfl

/-- Fillers lead nowhere. -/
theorem eq_of_fillers {segments : List (List Char)}
    (hfillers : ∀ s ∈ segments, Path.isFiller s = true)
    (h : segments.foldlM fs.step place = .ok next) : place = next := by
  induction segments generalizing place with
  | nil => exact Except.ok.inj h
  | cons segment segments ih =>
      rcases List.forall_mem_cons.1 hfillers with ⟨hfiller, hrest⟩
      rw [List.foldlM_cons] at h
      rcases bind_eq_ok_iff.1 h with ⟨mid, hstep, hsteps⟩
      have hstay : fs.LeadsTo place segment place := .filler hfiller
      obtain rfl : mid = place := (step_eq_ok_iff.1 hstep).2.unique hstay
      exact ih hrest hsteps

/-- A walk ends at one place, whatever happens to the files between two walks. -/
theorem walk_unique {next' : Place} {segments : List (List Char)}
    (h : fs.walk place segments = .ok next) (h' : fs'.walk place segments = .ok next') :
    next = next' := by
  induction segments generalizing place with
  | nil =>
      rcases walk_nil_iff.1 h with ⟨rfl, -⟩
      exact (walk_nil_iff.1 h').1
  | cons segment segments ih =>
      rcases walk_cons_iff.1 h with ⟨mid, hstep, hrest⟩
      rcases walk_cons_iff.1 h' with ⟨mid', hstep', hrest'⟩
      obtain rfl := (step_eq_ok_iff.1 hstep).2.unique (step_eq_ok_iff.1 hstep').2
      exact ih hrest hrest'

theorem directoryAt_unique {place' : Place} (h : fs.directoryAt cwd p = .ok place)
    (h' : fs'.directoryAt cwd p = .ok place') : place = place' :=
  walk_unique (directoryAt_eq_ok_iff.1 h).2 (directoryAt_eq_ok_iff.1 h').2

end FileSystem
end BuildStamp
