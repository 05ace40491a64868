/-!
# Reader — taking things off the front of a text

A reader that succeeds has taken at least one character.  This is part of its type, so a loop that
calls readers ends because the text runs out, and no reader needs a bound of its own.  A `Skip`
takes what it can, possibly nothing, and never fails.

* `Reader`, `Skip` — the two types;
* `Reader.char`, `Reader.word` — single characters and fixed words;
* `Reader.andThen`, `Reader.orElse`, `Reader.thenMaybe`, `Reader.many`, … — combinations;
* `Reader.toEnd?` — reads a whole text as a row of items.
-/

namespace BuildStamp
namespace Text

/-- Takes something off the front of a text. -/
structure Reader (α : Type) where
  run : List Char → Option (α × List Char)
  -- At least one character is taken.
  shorter : ∀ {s : List Char} {a : α} {r : List Char}, run s = some (a, r) → r.length < s.length

/-- Takes away what it can. -/
structure Skip where
  run : List Char → List Char
  -- Nothing is put in front of the text.
  noLonger : ∀ s : List Char, (run s).length ≤ s.length

namespace Reader

variable {α β : Type}

/-! ## Characters -/

def char (p : Char → Bool) : Reader Char where
  run
    | [] => none
    | c :: r => if p c then some (c, r) else none
  shorter := by
    intro s a r h
    cases s with
    | nil => simp at h
    | cons c t =>
        by_cases hc : p c = true
        · simp only [hc, if_true, Option.some.injEq, Prod.mk.injEq] at h
          simp [← h.2]
        · simp [hc] at h

def afterPrefix? : List Char → List Char → Option (List Char)
  | [], s => some s
  | _ :: _, [] => none
  | c :: cs, d :: s => if c = d then afterPrefix? cs s else none

theorem length_of_afterPrefix? {cs s r : List Char} (h : afterPrefix? cs s = some r) :
    r.length + cs.length = s.length := by
  induction cs generalizing s with
  | nil => simp_all [afterPrefix?]
  | cons c cs ih =>
      cases s with
      | nil => simp [afterPrefix?] at h
      | cons d s =>
          by_cases hc : c = d
          · simp only [afterPrefix?, hc, if_true] at h
            have := ih h
            simp only [List.length_cons]
            omega
          · simp [afterPrefix?, hc] at h

/-- Reads the word made of `c` and `cs`. -/
def word (c : Char) (cs : List Char) : Reader Unit where
  run s := (afterPrefix? (c :: cs) s).map ((), ·)
  shorter := by
    intro s a r h
    simp only [Option.map_eq_some_iff, Prod.mk.injEq] at h
    obtain ⟨r', hr, -, rfl⟩ := h
    have := length_of_afterPrefix? hr
    simp only [List.length_cons] at this
    omega

def exactly (c : Char) : Reader Unit :=
  word c []

def never : Reader α where
  run _ := none
  shorter := by simp

/-- Reads something only where no character of a class follows. -/
def notBefore (p : Char → Bool) (r : Reader α) : Reader α where
  run s := (r.run s).filter fun (_, rest) => !rest.head?.any p
  shorter := fun h => r.shorter (Option.eq_some_of_filter_eq_some h)

/-! ## Combinations -/

/-- Keeps what is read only where `f` makes something of it. -/
def filterMap (r : Reader α) (f : α → Option β) : Reader β where
  run s := (r.run s).bind fun (a, rest) => (f a).map (·, rest)
  shorter := by
    intro s b rest h
    simp only [Option.bind_eq_some_iff, Option.map_eq_some_iff, Prod.mk.injEq] at h
    obtain ⟨⟨a, rest'⟩, hr, b', -, -, rfl⟩ := h
    exact r.shorter hr

def map (r : Reader α) (f : α → β) : Reader β :=
  r.filterMap fun a => some (f a)

/-- Keeps what is read only where `p` holds. -/
def filter (r : Reader α) (p : α → Bool) : Reader α :=
  r.filterMap fun a => if p a then some a else none

/-- Reads one thing and then another, which may depend on it. -/
def andThen (r : Reader α) (next : α → Reader β) : Reader β where
  run s := (r.run s).bind fun (a, rest) => (next a).run rest
  shorter := by
    intro s b rest h
    simp only [Option.bind_eq_some_iff] at h
    obtain ⟨⟨a, mid⟩, hr, hn⟩ := h
    exact Nat.lt_trans ((next a).shorter hn) (r.shorter hr)

def both (r : Reader α) (next : Reader β) : Reader (α × β) :=
  r.andThen fun a => next.map fun b => (a, b)

def before (r : Reader α) (next : Reader β) : Reader α :=
  r.andThen fun a => next.map fun _ => a

def after (first : Reader β) (r : Reader α) : Reader α :=
  first.andThen fun _ => r

def orElse (r other : Reader α) : Reader α where
  run s := (r.run s).or (other.run s)
  shorter := by
    intro s a rest h
    cases hr : r.run s with
    | none =>
        simp only [hr, Option.none_or] at h
        exact other.shorter h
    | some x =>
        simp only [hr, Option.some_or] at h
        exact r.shorter (hr.trans h)

/-- Reads one thing and, if it is there, another. -/
def thenMaybe (r : Reader α) (next : Reader β) : Reader (α × Option β) where
  run s := (r.run s).map fun (a, rest) =>
    match next.run rest with
    | some (b, rest') => ((a, some b), rest')
    | none => ((a, none), rest)
  shorter := by
    intro s x rest h
    simp only [Option.map_eq_some_iff] at h
    obtain ⟨⟨a, mid⟩, hr, hx⟩ := h
    have h1 := r.shorter hr
    cases hn : next.run mid with
    | none =>
        simp only [hn, Prod.mk.injEq] at hx
        exact hx.2 ▸ h1
    | some y =>
        obtain ⟨b, rest'⟩ := y
        simp only [hn, Prod.mk.injEq] at hx
        exact hx.2 ▸ Nat.lt_trans (next.shorter hn) h1

/-- Reads one thing, after another if that is there. -/
def maybeAfter (first : Reader β) (r : Reader α) : Reader (Option β × α) :=
  (first.andThen fun b => r.map fun a => (some b, a)).orElse (r.map fun a => (none, a))

/-! ## Skipping -/

def skip (r : Reader α) (gap : Skip) : Reader α where
  run s := (r.run s).map fun (a, rest) => (a, gap.run rest)
  shorter := by
    intro s a rest h
    simp only [Option.map_eq_some_iff, Prod.mk.injEq] at h
    obtain ⟨⟨a', mid⟩, hr, -, rfl⟩ := h
    exact Nat.lt_of_le_of_lt (gap.noLonger mid) (r.shorter hr)

def behind (gap : Skip) (r : Reader α) : Reader α where
  run s := r.run (gap.run s)
  shorter := fun h => Nat.lt_of_lt_of_le (r.shorter h) (gap.noLonger _)

/-! ## Rows -/

/-- Reads at least one and at most `bound + 1` things. -/
def upTo (r : Reader α) : Nat → Reader (List α)
  | 0 => r.map fun a => [a]
  | bound + 1 => (r.thenMaybe (upTo r bound)).map fun (a, as) => a :: as.getD []

/-- Reads one thing after another for as long as there is one. -/
def many (r : Reader α) (s : List Char) : List α × List Char :=
  match _h : r.run s with
  | none => ([], s)
  | some (a, rest) =>
      let (as, rest') := many r rest
      (a :: as, rest')
  termination_by s.length
  decreasing_by exact r.shorter _h

theorem many_none {r : Reader α} {s : List Char} (h : r.run s = none) : r.many s = ([], s) := by
  rw [many]
  split
  · rfl
  · simp_all

theorem many_some {r : Reader α} {s rest : List Char} {a : α} (h : r.run s = some (a, rest)) :
    r.many s = (a :: (r.many rest).1, (r.many rest).2) := by
  rw [many]
  split
  · simp_all
  · simp_all

theorem length_many_le (r : Reader α) (s : List Char) : (r.many s).2.length ≤ s.length := by
  fun_induction many r s with
  | case1 s h => exact Nat.le_refl _
  | case2 s a rest h as rest' heq ih =>
      rw [heq] at ih
      exact Nat.le_trans ih (Nat.le_of_lt (r.shorter h))

def thenMany (r : Reader α) (next : Reader β) : Reader (α × List β) where
  run s := (r.run s).map fun (a, rest) =>
    let (bs, rest') := next.many rest
    ((a, bs), rest')
  shorter := by
    intro s x rest h
    simp only [Option.map_eq_some_iff, Prod.mk.injEq] at h
    obtain ⟨⟨a, mid⟩, hr, -, rfl⟩ := h
    exact Nat.lt_of_le_of_lt (next.length_many_le mid) (r.shorter hr)

/-- Reads one or more things with a separator between them. -/
def separated (r : Reader α) (separator : Reader β) : Reader (List α) :=
  (r.thenMany (separator.after r)).map fun (a, as) => a :: as

def skipMany (r : Reader α) : Skip where
  run s := (r.many s).2
  noLonger := r.length_many_le

/-- Reads a whole text as a row of things, with `gap` before each and behind the last. -/
def toEnd? (gap : Skip) (r : Reader α) (s : List Char) : Option (List α) :=
  let (as, rest) := (behind gap r).many s
  if gap.run rest = [] then some as else none

end Reader
end Text
end BuildStamp
