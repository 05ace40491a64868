import BuildStamp.Proofs.Host.Walk

/-!
# Write — what writing a file changes

A write is refused before anything is changed, or it puts a file at the place that its path names.
It makes and removes no directory, so every path leads to the same place after it.

* `FileSystem.SameBut` — file systems that differ at most in the file of one path;
* `FileSystem.sameBut_of_write` — a write changes no other file;
* `FileSystem.sameDirectories_of_write` — nor any directory;
* `FileSystem.resolve_of_write`, `FileSystem.readText_of_writeText` — what was written is there, and
  is read back;
* `FileSystem.resolve_put_iff` — only a path to the file itself leads to something new;
* `FileSystem.put_put` — a file that is written again is written once.
-/

namespace BuildStamp
namespace FileSystem

variable {fs fs' : FileSystem} {cwd place : Place} {p : Path} {content : ByteArray} {text : String}

/-! ## Refused or done -/

theorem ne_nil_of_writeTarget (h : fs.writeTarget cwd p = .ok place) : place ≠ [] := by
  obtain ⟨above, last, dir, -, rfl, -⟩ := names_of_writeTarget h
  simp

theorem not_directory_of_writeTarget (h : fs.writeTarget cwd p = .ok place) :
    fs.nodeAt? place ≠ some .directory := by
  obtain ⟨above, last, dir, -, -, hnode⟩ := names_of_writeTarget h
  exact hnode

theorem write_eq_ok_iff :
    fs.write cwd p content = .ok fs' ↔
      ∃ place, fs.writeTarget cwd p = .ok place ∧
        fs' = fs.put place (.file content (fs.isExecutable place)) := by
  unfold write
  rw [bind_eq_ok_iff]
  constructor
  · rintro ⟨place, htarget, h⟩
    exact ⟨place, htarget, (Except.ok.inj h).symm⟩
  · rintro ⟨place, htarget, rfl⟩
    exact ⟨place, htarget, rfl⟩

theorem write_eq_error_iff {cause : IoError} :
    fs.write cwd p content = .error cause ↔ fs.writeTarget cwd p = .error cause := by
  unfold write
  cases htarget : fs.writeTarget cwd p with
  | error e =>
      rw [error_bind]
      simp
  | ok place =>
      rw [ok_bind]
      simp [pure, Except.pure]

/-! ## What stays -/

/-- The two differ at most in the file that a path names. -/
def SameBut (fs fs' : FileSystem) (cwd : Place) (p : Path) : Prop :=
  ∀ place, fs.writeTarget cwd p ≠ .ok place → fs'.nodeAt? place = fs.nodeAt? place

theorem SameBut.refl (fs : FileSystem) (cwd : Place) (p : Path) : SameBut fs fs cwd p :=
  fun _ _ => rfl

theorem sameBut_put {executable : Bool} (htarget : fs.writeTarget cwd p = .ok place) :
    SameBut fs (fs.put place (.file content executable)) cwd p := by
  intro other hother
  have hne : other ≠ place := by
    rintro rfl
    exact hother htarget
  rw [nodeAt?_put _ _ _ _ (ne_nil_of_writeTarget htarget), if_neg hne]

theorem sameBut_of_write (h : fs.write cwd p content = .ok fs') : SameBut fs fs' cwd p := by
  obtain ⟨place, htarget, rfl⟩ := write_eq_ok_iff.1 h
  exact sameBut_put htarget

/-- A file that is put where no directory is makes and removes none. -/
theorem sameDirectories_put {executable : Bool} (hplace : place ≠ [])
    (hnode : fs.nodeAt? place ≠ some .directory) :
    SameDirectories fs (fs.put place (.file content executable)) := by
  intro other
  rw [nodeAt?_put _ _ _ _ hplace]
  by_cases hother : other = place
  · subst hother
    simp [hnode]
  · rw [if_neg hother]

theorem sameDirectories_of_write (h : fs.write cwd p content = .ok fs') :
    SameDirectories fs fs' := by
  obtain ⟨place, htarget, rfl⟩ := write_eq_ok_iff.1 h
  exact sameDirectories_put (ne_nil_of_writeTarget htarget) (not_directory_of_writeTarget htarget)

/-! ## What is read back -/

/-- Where a file was put at the place that a path names, the path leads to it. -/
theorem resolve_put_of_writeTarget {executable : Bool}
    (htarget : fs.writeTarget cwd p = .ok place) :
    (fs.put place (.file content executable)).resolve cwd p = .ok place := by
  have hplace := ne_nil_of_writeTarget htarget
  have hsame : SameDirectories fs (fs.put place (.file content executable)) :=
    sameDirectories_put hplace (not_directory_of_writeTarget htarget)
  have hnode := nodeAt?_put fs place place (.file content executable) hplace
  rw [if_pos rfl] at hnode
  rcases names_of_writeTarget (hsame.writeTarget htarget) with ⟨above, last, dir, hnames, rfl, -⟩
  exact hnames.resolve (Option.isSome_of_eq_some hnode)

theorem resolve_of_write (htarget : fs.writeTarget cwd p = .ok place)
    (h : fs.write cwd p content = .ok fs') : fs'.resolve cwd p = .ok place := by
  rcases write_eq_ok_iff.1 h with ⟨place', htarget', rfl⟩
  obtain rfl := Except.ok.inj (htarget.symm.trans htarget')
  exact resolve_put_of_writeTarget htarget

/-- A file that was written is there, with its content, under the path that it was written to. -/
theorem read_of_write (h : fs.write cwd p content = .ok fs') :
    fs'.has cwd p = true ∧ fs'.read cwd p = .ok content := by
  rcases write_eq_ok_iff.1 h with ⟨place, htarget, rfl⟩
  have hnode := nodeAt?_put fs place place (.file content (fs.isExecutable place))
    (ne_nil_of_writeTarget htarget)
  rw [if_pos rfl] at hnode
  have hresolve := resolve_of_write htarget h
  refine ⟨has_eq_true_iff.2 ⟨place, hresolve⟩, ?_⟩
  unfold read
  rw [hresolve, ok_bind, hnode]
  rfl

theorem fromUTF8?_toUTF8 (text : String) : String.fromUTF8? text.toUTF8 = some text :=
  dif_pos text.isValidUTF8

/-- Only the UTF-8 of a text is decoded into it. -/
theorem fromUTF8?_eq_some_iff {bytes : ByteArray} {text : String} :
    String.fromUTF8? bytes = some text ↔ bytes = text.toUTF8 := by
  constructor
  · intro h
    unfold String.fromUTF8? at h
    split at h
    · obtain rfl := Option.some.inj h
      rfl
    · cases h
  · rintro rfl
    exact fromUTF8?_toUTF8 text

theorem readText_of_writeText (h : fs.writeText cwd p text = .ok fs') :
    fs'.readText cwd p = .ok text := by
  unfold readText
  rw [(read_of_write h).2, ok_bind, fromUTF8?_toUTF8]
  rfl

theorem readText_of_resolve {executable : Bool} (h : fs.resolve cwd p = .ok place)
    (hnode : fs.nodeAt? place = some (.file text.toUTF8 executable)) :
    fs.readText cwd p = .ok text := by
  unfold readText read
  rw [h, ok_bind, hnode]
  simp only [pure, Except.pure, ok_bind, fromUTF8?_toUTF8]

/-! ## What is seen behind a file that was put -/

section Put

variable {executable : Bool} (hplace : place ≠ []) (hnode : fs.nodeAt? place ≠ some .directory)
include hplace

theorem nodeAt?_put_self (fs : FileSystem) (node : Node) :
    (fs.put place node).nodeAt? place = some node := by
  rw [nodeAt?_put _ _ _ _ hplace, if_pos rfl]

theorem nodeAt?_put_of_ne (fs : FileSystem) {other : Place} (node : Node) (h : other ≠ place) :
    (fs.put place node).nodeAt? other = fs.nodeAt? other := by
  rw [nodeAt?_put _ _ _ _ hplace, if_neg h]

theorem isExecutable_put :
    (fs.put place (.file content executable)).isExecutable place = executable := by
  unfold isExecutable
  rw [nodeAt?_put_self hplace fs]

include hnode

/-- A path that leads elsewhere leads there with and without the file. -/
theorem resolve_put_iff {other : Place} (h : other ≠ place) :
    (fs.put place (.file content executable)).resolve cwd p = .ok other ↔
      fs.resolve cwd p = .ok other := by
  have hsame : SameDirectories fs (fs.put place (.file content executable)) :=
    sameDirectories_put hplace hnode
  have hkept := nodeAt?_put_of_ne hplace fs (.file content executable) h
  constructor
  · intro hresolve
    exact hsame.symm.resolve hresolve fun hthere => hkept ▸ hthere
  · intro hresolve
    exact hsame.resolve hresolve fun hthere => hkept ▸ hthere

/-- A path that led to the place of the file leads there still. -/
theorem resolve_put_self (h : fs.resolve cwd p = .ok place) :
    (fs.put place (.file content executable)).resolve cwd p = .ok place := by
  have hsame : SameDirectories fs (fs.put place (.file content executable)) :=
    sameDirectories_put hplace hnode
  exact hsame.resolve h fun _ => by simp [nodeAt?_put_self hplace fs]

/-- Unless a path leads to the file, it leads to what it led to before, and that is read as
before. -/
theorem has_read_put_of_elsewhere
    (h : (fs.put place (.file content executable)).resolve cwd p ≠ .ok place) :
    (fs.put place (.file content executable)).has cwd p = fs.has cwd p ∧
      (fs.has cwd p = true →
        (fs.put place (.file content executable)).readText cwd p = fs.readText cwd p) := by
  -- Other places are reached as before, and what was written is not reached by assumption.
  have hiff (other : Place) : (fs.put place (.file content executable)).resolve cwd p = .ok other ↔
      fs.resolve cwd p = .ok other := by
    by_cases hother : other = place
    · subst hother
      constructor
      · intro hresolve
        exact absurd hresolve h
      · intro hresolve
        exact absurd (resolve_put_self hplace hnode hresolve) h
    · exact resolve_put_iff hplace hnode hother
  constructor
  · rw [Bool.eq_iff_iff, has_eq_true_iff, has_eq_true_iff]
    exact exists_congr hiff
  · intro hhas
    rcases has_eq_true_iff.1 hhas with ⟨other, hresolve⟩
    have hresolve' := (hiff other).2 hresolve
    have hne : other ≠ place := by
      rintro rfl
      exact h hresolve'
    unfold readText read
    rw [hresolve, hresolve', ok_bind, ok_bind, nodeAt?_put_of_ne hplace fs _ hne]

end Put

theorem putEntry_putEntry (place : Place) (node node' : Node) (entries : List (Place × Node)) :
    putEntry place node' (putEntry place node entries) = putEntry place node' entries := by
  induction entries with
  | nil => simp [putEntry]
  | cons entry entries ih =>
      rcases entry with ⟨p, n⟩
      by_cases hp : p = place
      · simp [putEntry, hp]
      · simp [putEntry, hp, ih]

/-- Of two files put at one place the later one stays. -/
theorem put_put (fs : FileSystem) (place : Place) (node node' : Node) :
    (fs.put place node).put place node' = fs.put place node' :=
  congrArg mk (putEntry_putEntry place node node' fs.nodes)

end FileSystem
end BuildStamp
