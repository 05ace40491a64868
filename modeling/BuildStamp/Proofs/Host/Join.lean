import BuildStamp.Proofs.Host.Walk

/-!
# Join — where a path below another leads

A path below another leads where its own segments lead from the directory of the other.  So a
directory that is reached through the working directory itself is the one that is reached from it,
however the way to it is written.

* `Path.toList_join`, `Path.segments_join` — the two paths, one behind the other;
* `Path.components_join`, `Path.components_join_entry` — and their components;
* `FileSystem.walk_join_iff`, `FileSystem.writeTarget_join_iff` — the places of such paths;
* `FileSystem.exists_directory_of_writeTarget` — a file below a path is in the directory it names;
* `FileSystem.SameDirectory` — paths to one directory;
* `FileSystem.sameDirectory_of_beside` — a path seen through the working directory.
-/

namespace BuildStamp

/-! ## Joined texts -/

namespace Path

variable {base p q : Path} {cs ds : List Char}

/-- A path without one slash at its end. -/
def stem (cs : List Char) : List Char :=
  if cs.getLast? = some '/' then cs.dropLast else cs

theorem stem_concat (cs : List Char) (c : Char) :
    stem (cs ++ [c]) = if c = '/' then cs else cs ++ [c] := by
  simp [stem]

theorem eq_stem_or (cs : List Char) : cs = stem cs ∨ cs = stem cs ++ ['/'] := by
  rcases List.eq_nil_or_concat cs with rfl | ⟨cs, c, rfl⟩
  · exact .inl rfl
  · rw [List.concat_eq_append, stem_concat]
    by_cases hc : c = '/' <;> simp [hc]

theorem stem_append (h : ds ≠ []) : stem (cs ++ ds) = cs ++ stem ds := by
  obtain ⟨ds, d, rfl⟩ := (List.eq_nil_or_concat ds).resolve_left h
  rw [List.concat_eq_append, ← List.append_assoc, stem_concat, stem_concat]
  by_cases hd : d = '/' <;> simp [hd]

theorem toList_ne_nil (h : p.text ≠ "") : p.text.toList ≠ [] :=
  fun hnil => h (String.toList_eq_nil_iff.1 hnil)

/-- There is exactly one slash between two paths, unless the upper one brings several. -/
theorem toList_join (hbase : base.text ≠ "") (hp : p.isAbsolute = false) :
    (base.join p).text.toList = stem base.text.toList ++ '/' :: p.text.toList := by
  obtain ⟨cs, c, hbase'⟩ := (List.eq_nil_or_concat _).resolve_left (toList_ne_nil hbase)
  rw [List.concat_eq_append] at hbase'
  by_cases hc : c = '/' <;> simp [join, hp, hbase', stem_concat, hc]

theorem join_ne_empty (hbase : base.text ≠ "") (hp : p.isAbsolute = false) :
    (base.join p).text ≠ "" := by
  intro hempty
  have hjoin := toList_join hbase hp
  rw [hempty] at hjoin
  simp at hjoin

theorem isAbsolute_join (hbase : base.text ≠ "") (hp : p.isAbsolute = false) :
    (base.join p).isAbsolute = base.isAbsolute := by
  have hjoin := toList_join hbase hp
  unfold isAbsolute
  rw [hjoin]
  rcases eq_stem_or base.text.toList with hstem | hstem
  · obtain ⟨c, cs, hcs⟩ := List.exists_cons_of_ne_nil (toList_ne_nil hbase)
    rw [← hstem, hcs]
    rfl
  · rw [hstem, stem_concat, if_pos rfl]
    cases stem base.text.toList <;> rfl

/-- Three paths are joined from either side. -/
theorem join_assoc (hbase : base.text ≠ "") (hp : p.isAbsolute = false) (hne : p.text ≠ "")
    (hq : q.isAbsolute = false) : (base.join p).join q = base.join (p.join q) := by
  have hlower : (p.join q).isAbsolute = false := (isAbsolute_join hne hq).trans hp
  have htext : ((base.join p).join q).text.toList = (base.join (p.join q)).text.toList := by
    calc ((base.join p).join q).text.toList
        = stem (stem base.text.toList ++ '/' :: p.text.toList) ++ '/' :: q.text.toList := by
          rw [toList_join (join_ne_empty hbase hp) hq, toList_join hbase hp]
      _ = stem base.text.toList ++ '/' :: (stem p.text.toList ++ '/' :: q.text.toList) := by
          have hstem : stem (['/'] ++ p.text.toList) = ['/'] ++ stem p.text.toList :=
            stem_append (toList_ne_nil hne)
          rw [List.singleton_append] at hstem
          rw [stem_append (List.cons_ne_nil _ _), hstem]
          simp
      _ = (base.join (p.join q)).text.toList := by
          rw [toList_join hbase hlower, toList_join hne hq]
  exact congrArg mk (String.toList_injective htext)

theorem mem_join (hbase : base.text ≠ "") (hp : p.isAbsolute = false) {c : Char} (hc : c ≠ '/') :
    c ∈ (base.join p).text.toList ↔ c ∈ base.text.toList ∨ c ∈ p.text.toList := by
  rw [toList_join hbase hp]
  rcases eq_stem_or base.text.toList with hstem | hstem
  · rw [← hstem]
    simp [hc]
  · generalize stem base.text.toList = cs at hstem ⊢
    simp [hstem, hc]

theorem utf8ByteSize_join_le (hp : p.isAbsolute = false) :
    base.text.utf8ByteSize + p.text.utf8ByteSize ≤ (base.join p).text.utf8ByteSize := by
  unfold join
  simp only [hp, Bool.false_eq_true, if_false]
  split
  · simp
  · simp only [String.utf8ByteSize_append]
    omega

/-! ## Segments -/

theorem segments_append (cs ds : List Char) :
    segments (cs ++ '/' :: ds) = segments cs ++ segments ds := by
  induction cs with
  | nil => simp [segments]
  | cons c cs ih =>
      by_cases hc : c = '/'
      · simp [segments, hc, ih]
      · obtain ⟨first, rest, hsegments⟩ := List.exists_cons_of_ne_nil (segments_ne_nil cs)
        simp [segments, hc, ih, hsegments, consFirst]

theorem segments_of_noSlash (h : '/' ∉ cs) : segments cs = [cs] := by
  induction cs with
  | nil => rfl
  | cons c cs ih =>
      rw [List.mem_cons, not_or] at h
      obtain ⟨hc, hcs⟩ := h
      simp [segments, Ne.symm hc, ih hcs, consFirst]

/-- Behind the segments of the upper path stand those of the lower one.  If the upper path brings
the slash between the two, it has an empty segment more. -/
theorem segments_join (hbase : base.text ≠ "") (hp : p.isAbsolute = false) :
    ∃ above, segments (base.join p).text.toList = above ++ segments p.text.toList ∧
      (segments base.text.toList = above ∨ segments base.text.toList = above ++ [[]]) := by
  refine ⟨segments (stem base.text.toList), ?_, ?_⟩
  · rw [toList_join hbase hp, segments_append]
  · rcases eq_stem_or base.text.toList with hstem | hstem
    · exact .inl (congrArg segments hstem)
    · exact .inr ((congrArg segments hstem).trans (segments_append _ []))

/-! ## Components -/

theorem isAbsolute_of_noSlash {name : String} (h : '/' ∉ name.toList) :
    (⟨name⟩ : Path).isAbsolute = false := by
  unfold isAbsolute
  cases hchars : name.toList with
  | nil => rfl
  | cons c cs =>
      have hne : c ≠ '/' := by
        rintro rfl
        exact h (hchars ▸ List.mem_cons_self)
      simpa using hne

theorem join_of_empty (h : base.text = "") : base.join p = p := by
  unfold join
  cases p.isAbsolute <;> simp [h]

/-- The components that the first segment of a path makes. -/
def leading (absolute : Bool) (first : List Char) : List Component :=
  if absolute then [.root]
  else if first = ['.'] then [.current]
  else (componentOf? first).toList

theorem components_of_segments {first : List Char} {rest : List (List Char)}
    (h : segments p.text.toList = first :: rest) :
    p.components = leading p.isAbsolute first ++ rest.filterMap componentOf? := by
  unfold components
  rw [h]
  rfl

/-- Behind the components of the upper path stand those that the segments of the lower one make. -/
theorem components_join (hbase : base.text ≠ "") (hp : p.isAbsolute = false) :
    (base.join p).components =
      base.components ++ (segments p.text.toList).filterMap componentOf? := by
  rcases segments_join hbase hp with ⟨above, hjoin, hsegments⟩
  cases above with
  | nil =>
      -- Only the empty path has no segment but an empty one.
      rcases hsegments with hnil | hempty
      · exact absurd hnil (segments_ne_nil _)
      · have hchars := ofSegments_segments base.text.toList
        rw [hempty] at hchars
        exact absurd hchars.symm (toList_ne_nil hbase)
  | cons first rest =>
      have hupper : base.components =
          leading base.isAbsolute first ++ rest.filterMap componentOf? := by
        rcases hsegments with hsegments | hsegments
        · exact components_of_segments hsegments
        · have hfiller : componentOf? [] = none := rfl
          rw [components_of_segments hsegments]
          simp [hfiller]
      rw [List.cons_append] at hjoin
      rw [components_of_segments hjoin, isAbsolute_join hbase hp, hupper, List.filterMap_append,
        List.append_assoc]

/-- A name that is one component, wherever it stands. -/
structure IsEntry (name : String) : Prop where
  noSlash : '/' ∉ name.toList
  component : componentOf? name.toList = some (.name name)

theorem IsEntry.components {name : String} (h : IsEntry name) :
    (⟨name⟩ : Path).components = [.name name] := by
  have hdot : name.toList ≠ ['.'] := by
    intro hdot
    have hcomponent := h.component
    rw [hdot] at hcomponent
    cases hcomponent
  have hsegments : segments (⟨name⟩ : Path).text.toList = [name.toList] :=
    segments_of_noSlash h.noSlash
  rw [components_of_segments hsegments, isAbsolute_of_noSlash h.noSlash]
  simp [leading, hdot, h.component]

/-- An entry is seen below a path as one component behind those of the path, also where the path is
empty, is the root, or ends in a slash or a dot. -/
theorem components_join_entry {name : String} (base : Path) (h : IsEntry name) :
    (base.join ⟨name⟩).components = base.components ++ [.name name] ∧
      (base.join ⟨name⟩).isAbsolute = base.isAbsolute := by
  have hrelative := isAbsolute_of_noSlash h.noSlash
  by_cases hempty : base.text = ""
  · rcases base with ⟨text⟩
    -- Behind an empty path there is the name alone, without a separator.
    obtain rfl : text = "" := hempty
    rw [join_of_empty rfl, h.components, hrelative]
    exact ⟨rfl, rfl⟩
  · refine ⟨?_, isAbsolute_join hempty hrelative⟩
    calc
      (base.join ⟨name⟩).components
          = base.components ++ (segments name.toList).filterMap componentOf? :=
            components_join hempty hrelative
      _ = base.components ++ [name.toList].filterMap componentOf? := by
            rw [segments_of_noSlash h.noSlash]
      _ = base.components ++ [.name name] := by
            rw [List.filterMap_cons_some h.component, List.filterMap_nil]

/-- The segments of an entry below a path end in its name. -/
theorem exists_segments_join (base : Path) {name : String} (h : '/' ∉ name.toList) :
    ∃ above, segments (base.join ⟨name⟩).text.toList = above ++ [name.toList] := by
  by_cases hempty : base.text = ""
  · exact ⟨[], by rw [join_of_empty hempty, segments_of_noSlash h, List.nil_append]⟩
  · rcases segments_join hempty (isAbsolute_of_noSlash h) with ⟨above, hjoin, -⟩
    rw [segments_of_noSlash h] at hjoin
    exact ⟨above, hjoin⟩

end Path

namespace FileSystem

variable {fs : FileSystem} {cwd start place dir : Place} {base p q : Path} {name : String}

/-! ## Walks -/

/-- An empty segment at the end changes nothing. -/
theorem walk_of_segments {segments above : List (List Char)}
    (h : segments = above ∨ segments = above ++ [[]]) :
    fs.walk start segments = .ok dir ↔ fs.walk start above = .ok dir := by
  rcases h with rfl | rfl
  · rfl
  · rw [walk_append_iff]
    constructor
    · rintro ⟨mid, habove, hempty⟩
      obtain ⟨rfl, -⟩ := walk_nil_iff.1 (walk_empty_iff.1 hempty)
      exact habove
    · intro habove
      have hdir := (walk_eq_ok_iff.1 habove).2
      exact ⟨dir, habove, walk_empty_iff.2 (walk_nil_iff.2 ⟨rfl, hdir⟩)⟩

theorem walk_join_iff (hbase : base.text ≠ "") (hp : p.isAbsolute = false) :
    fs.walk start (Path.segments (base.join p).text.toList) = .ok dir ↔
      ∃ mid, fs.walk start (Path.segments base.text.toList) = .ok mid ∧
        fs.walk mid (Path.segments p.text.toList) = .ok dir := by
  obtain ⟨above, hjoin, hsegments⟩ := Path.segments_join hbase hp
  simp only [hjoin, walk_append_iff, walk_of_segments hsegments]

theorem startOf_join (hbase : base.text ≠ "") (hp : p.isAbsolute = false) :
    startOf cwd (base.join p) = startOf cwd base := by
  simp only [startOf, Path.isAbsolute_join hbase hp]

/-! ## Paths that are looked at -/

theorem checkPath_eq_ok_iff {u : Unit} :
    checkPath p = .ok u ↔
      '\x00' ∉ p.text.toList ∧ p.text ≠ "" ∧ p.text.utf8ByteSize < maxPathBytes := by
  unfold checkPath
  by_cases hnul : '\x00' ∈ p.text.toList
  · simp [hnul]
  by_cases hempty : p.text = ""
  · simp [hempty]
  by_cases hlong : maxPathBytes ≤ p.text.utf8ByteSize
  · simp [hnul, hempty, hlong]
  · simp [hnul, hempty, hlong, Nat.not_le.1 hlong]

/-- Paths are looked at if the longer one that they make together is. -/
theorem checkPath_of_join (hbase : base.text ≠ "") (hp : p.isAbsolute = false) {u : Unit}
    (h : checkPath (base.join p) = .ok u) :
    checkPath base = .ok () ∧ (p.text ≠ "" → checkPath p = .ok ()) := by
  obtain ⟨hnul, -, hshort⟩ := checkPath_eq_ok_iff.1 h
  rw [Path.mem_join hbase hp (by decide), not_or] at hnul
  have hsize : base.text.utf8ByteSize + p.text.utf8ByteSize ≤ (base.join p).text.utf8ByteSize :=
    Path.utf8ByteSize_join_le hp
  refine ⟨checkPath_eq_ok_iff.2 ⟨hnul.1, hbase, by omega⟩, ?_⟩
  intro hne
  exact checkPath_eq_ok_iff.2 ⟨hnul.2, hne, by omega⟩

theorem checkPath_join {u v : Unit} (hbase : checkPath base = .ok u) (hp : checkPath p = .ok v)
    (hrelative : p.isAbsolute = false)
    (hshort : (base.join p).text.utf8ByteSize < maxPathBytes) :
    checkPath (base.join p) = .ok () := by
  obtain ⟨hnul, hne, -⟩ := checkPath_eq_ok_iff.1 hbase
  obtain ⟨hnul', -, -⟩ := checkPath_eq_ok_iff.1 hp
  refine checkPath_eq_ok_iff.2 ⟨?_, Path.join_ne_empty hne hrelative, hshort⟩
  rw [Path.mem_join hne hrelative (by decide), not_or]
  exact ⟨hnul, hnul'⟩

/-! ## Files in a directory -/

/-- The name of an entry, without a slash in it. -/
structure IsFileName (name : String) : Prop where
  noSlash : '/' ∉ name.toList
  isName : IsName name.toList

theorem IsFileName.isAbsolute (h : IsFileName name) : (⟨name⟩ : Path).isAbsolute = false :=
  Path.isAbsolute_of_noSlash h.noSlash

/-- A file is written where its directory is found. -/
theorem writeTarget_join_iff (hp : p.text ≠ "") (hname : IsFileName name) :
    fs.writeTarget cwd (p.join ⟨name⟩) = .ok place ↔
      checkPath (p.join ⟨name⟩) = .ok () ∧
        ∃ dir, fs.walk (startOf cwd p) (Path.segments p.text.toList) = .ok dir ∧
          place = dir ++ [name] ∧ fs.nodeAt? place ≠ some .directory := by
  obtain ⟨above, hjoin, hsegments⟩ := Path.segments_join hp hname.isAbsolute
  rw [Path.segments_of_noSlash hname.noSlash] at hjoin
  have hstart : startOf cwd (p.join ⟨name⟩) = startOf cwd p := startOf_join hp hname.isAbsolute
  constructor
  · intro htarget
    obtain ⟨above', last, dir, hnames, rfl, hnode⟩ := names_of_writeTarget htarget
    -- A name is one segment, so the splits at the last segment are the same.
    obtain ⟨rfl, hlast⟩ := List.append_inj' (hnames.split.symm.trans hjoin) rfl
    obtain rfl := List.singleton_inj.1 hlast
    rw [String.ofList_toList] at hnode ⊢
    have hwalk := hstart ▸ hnames.walk
    exact ⟨hnames.check, dir, (walk_of_segments hsegments).2 hwalk, rfl, hnode⟩
  · rintro ⟨hcheck, dir, hwalk, rfl, hnode⟩
    have habove := (walk_of_segments hsegments).1 hwalk
    have hnames : fs.Names cwd (p.join ⟨name⟩) above name.toList dir :=
      ⟨hcheck, hjoin, hname.isName, hstart ▸ habove⟩
    have htarget := hnames.writeTarget (by rwa [String.ofList_toList])
    rwa [String.ofList_toList] at htarget

/-- What is written as an entry below a path is in the directory that the path names, or, below the
empty path, in the working directory. -/
theorem exists_directory_of_writeTarget (hslash : '/' ∉ name.toList)
    (h : fs.writeTarget cwd (p.join ⟨name⟩) = .ok place) :
    ∃ dir, place = dir ++ [name] ∧
      (p.text = "" ∧ dir = cwd ∨ fs.directoryAt cwd p = .ok dir) := by
  rcases names_of_writeTarget h with ⟨above, last, dir, hnames, hplace, -⟩
  rcases Path.exists_segments_join p hslash with ⟨above', hjoin⟩
  obtain ⟨rfl, hlast⟩ := List.append_inj' (hnames.split.symm.trans hjoin) rfl
  obtain rfl : last = name.toList := List.singleton_inj.1 hlast
  rw [String.ofList_toList] at hplace
  refine ⟨dir, hplace, ?_⟩
  by_cases hempty : p.text = ""
  · -- There is no segment to walk before the name.
    left
    rw [Path.join_of_empty hempty, Path.segments_of_noSlash hslash] at hjoin
    have habove : above = [] := List.append_left_eq_self.1 hjoin.symm
    have hwalk := hnames.walk
    rw [habove, Path.join_of_empty hempty, startOf, Path.isAbsolute_of_noSlash hslash] at hwalk
    rcases walk_nil_iff.1 hwalk with ⟨hdir, -⟩
    exact ⟨hempty, hdir.symm⟩
  · right
    -- What was written to has a name, so the path above it was walked to its end.
    have hname : IsFileName name := ⟨hslash, hnames.isName⟩
    rcases (writeTarget_join_iff hempty hname).1 h with ⟨hcheck, dir', hwalk, hplace', -⟩
    obtain ⟨rfl, -⟩ := List.append_inj' (hplace.symm.trans hplace') rfl
    exact directoryAt_eq_ok_iff.2 ⟨(checkPath_of_join hempty hname.isAbsolute hcheck).1, hwalk⟩

/-! ## One directory -/

/-- Two paths lead to one directory, as far as a file of this name can be written into it. -/
structure SameDirectory (fs : FileSystem) (cwd : Place) (name : String) (p q : Path) : Prop where
  target : ∀ place,
    fs.writeTarget cwd (p.join ⟨name⟩) = .ok place ↔ fs.writeTarget cwd (q.join ⟨name⟩) = .ok place
  directory : ∀ target, fs.writeTarget cwd (q.join ⟨name⟩) = .ok target →
    ∀ place, fs.directoryAt cwd p = .ok place ↔ fs.directoryAt cwd q = .ok place

theorem SameDirectory.of_eq (h : p = q) : fs.SameDirectory cwd name p q := by
  subst h
  exact ⟨fun _ => Iff.rfl, fun _ _ _ => Iff.rfl⟩

/-- A path that is not empty, seen through the directory it starts in, leads where it leads from
there, unless it gets too long. -/
theorem sameDirectory_of_beside (hname : IsFileName name) (hbase : base.text ≠ "")
    (hcwd : fs.directoryAt cwd base = .ok cwd) (hp : p.text ≠ "") (hrelative : p.isAbsolute = false)
    (hshort : ((base.join p).join ⟨name⟩).text.utf8ByteSize < maxPathBytes) :
    fs.SameDirectory cwd name (base.join p) p := by
  obtain ⟨hcheckBase, hwalk⟩ := directoryAt_eq_ok_iff.1 hcwd
  have hjoin := Path.join_ne_empty hbase hrelative
  have hassoc := Path.join_assoc hbase hrelative hp hname.isAbsolute
  have hlower : (p.join ⟨name⟩).isAbsolute = false :=
    (Path.isAbsolute_join hp hname.isAbsolute).trans hrelative
  have hcheck :
      checkPath ((base.join p).join ⟨name⟩) = .ok () ↔ checkPath (p.join ⟨name⟩) = .ok () := by
    rw [hassoc] at hshort ⊢
    constructor
    · intro h
      exact (checkPath_of_join hbase hlower h).2 (Path.join_ne_empty hp hname.isAbsolute)
    · intro h
      exact checkPath_join hcheckBase h hlower hshort
  -- The way through `base` comes to where `p` starts.
  have hwalks (dir : Place) :
      fs.walk (startOf cwd (base.join p)) (Path.segments (base.join p).text.toList) = .ok dir ↔
        fs.walk (startOf cwd p) (Path.segments p.text.toList) = .ok dir := by
    have hstart : startOf cwd p = cwd := by simp [startOf, hrelative]
    rw [startOf_join hbase hrelative, walk_join_iff hbase hrelative, hstart]
    constructor
    · rintro ⟨mid, hmid, hdir⟩
      obtain rfl := Except.ok.inj (hwalk.symm.trans hmid)
      exact hdir
    · intro hdir
      exact ⟨cwd, hwalk, hdir⟩
  constructor
  · intro place
    rw [writeTarget_join_iff hjoin hname, writeTarget_join_iff hp hname, hcheck]
    simp only [hwalks]
  · intro target htarget place
    -- What can be written into is looked at, under either path.
    have hlooked := ((writeTarget_join_iff hp hname).1 htarget).1
    have hcheckLower := (checkPath_of_join hp hname.isAbsolute hlooked).1
    have hcheckUpper := (checkPath_of_join hjoin hname.isAbsolute (hcheck.2 hlooked)).1
    rw [directoryAt_eq_ok_iff, directoryAt_eq_ok_iff, hwalks, hcheckLower, hcheckUpper]

end FileSystem
end BuildStamp
