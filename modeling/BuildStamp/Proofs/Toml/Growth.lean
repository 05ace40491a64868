import BuildStamp.Proofs.Text.Reader
import BuildStamp.Toml.Document

/-!
# Growth — what holds of every table of a document

The tables of a document grow pair by pair and header by header.  Whatever is done to a table comes
down to a few changes: a key that is not there is added, a value is replaced, a key is taken out.  A
property of tables that survives these changes, with one of values that goes with it, holds of every
document if the second holds of every value that is no table.

* `Entries.mem_of_lookup`, `Entries.values_snoc`, `Entries.values_replace` — the values of a table
  that was changed;
* `Invariant` — two properties that survive the changes;
* `Entries.Keeps`, `Invariant.keeps_fill?`, `Invariant.keeps_addTo?` — pairs and headers are made of
  such changes;
* `Invariant.yields_value` — every value that is read has the property of values;
* `Invariant.of_parse?` — and every document that of tables.
-/

namespace BuildStamp
namespace Toml

open Text (Reader)
open Text.Reader

variable {V : Value → Prop} {T : Entries → Prop} {entries inner : Entries} {items : List Entries}
  {key : String} {v : Value} {origin : Origin} {pairs : List Pair}

/-! ## Members -/

namespace Entries

theorem lookup_eq_none_iff : entries.lookup key = none ↔ key ∉ entries.map Prod.fst := by
  rw [List.lookup_eq_none_iff]
  constructor
  · intro h hmem
    obtain ⟨m, hm, rfl⟩ := List.mem_map.1 hmem
    simpa using h m hm
  · intro h m hm
    refine bne_iff_ne.2 ?_
    rintro rfl
    exact h (List.mem_map_of_mem hm)

theorem mem_of_lookup (h : entries.lookup key = some v) : (key, v) ∈ entries := by
  obtain ⟨before, after, rfl, -⟩ := List.lookup_eq_some_iff.1 h
  exact List.mem_append_right before List.mem_cons_self

theorem values_snoc (h : ∀ m ∈ entries, V m.2) (hv : V v) :
    ∀ m ∈ entries ++ [(key, v)], V m.2 := by
  intro m hm
  rcases List.mem_append.1 hm with hm | hm
  · exact h m hm
  · obtain rfl := List.mem_singleton.1 hm
    exact hv

theorem values_replace (h : ∀ m ∈ entries, V m.2) (hv : V v) :
    ∀ m ∈ replace key v entries, V m.2 := by
  intro m hm
  obtain ⟨old, hold, rfl⟩ := List.mem_map.1 hm
  by_cases hkey : old.1 = key
  · simpa [hkey] using hv
  · simpa [hkey] using h old hold

theorem remove_sublist (key : String) (entries : Entries) : (remove key entries).Sublist entries :=
  List.filter_sublist

theorem lookup_remove (key : String) (entries : Entries) :
    (remove key entries).lookup key = none := by
  rw [lookup_eq_none_iff]
  intro hmem
  obtain ⟨m, hm, rfl⟩ := List.mem_map.1 hmem
  simpa [remove] using (List.mem_filter.1 hm).2

end Entries

/-! ## Changes -/

/-- A property of values and one of tables that survive all that is done to a table. -/
structure Invariant (V : Value → Prop) (T : Entries → Prop) : Prop where
  nil : T []
  -- What a table holds has the property of values.
  lookup {entries : Entries} {key : String} {v : Value} (h : T entries)
    (hlookup : entries.lookup key = some v) : V v
  -- A key that is not there is added.
  snoc {entries : Entries} {key : String} {v : Value} (h : T entries)
    (hfresh : entries.lookup key = none) (hv : V v) : T (entries ++ [(key, v)])
  -- The value of a key is replaced.
  replace {entries : Entries} {key : String} {v : Value} (h : T entries) (hv : V v) :
    T (entries.replace key v)
  -- A key is taken out.
  remove {entries : Entries} (h : T entries) (key : String) : T (entries.remove key)
  array {items : List Value} (h : ∀ v ∈ items, V v) : V (.array items)
  table_iff {origin : Origin} {entries : Entries} : V (.table origin entries) ↔ T entries
  tables_iff {items : List Entries} : V (.tables items) ↔ ∀ entries ∈ items, T entries

/-- A change that keeps a property of tables. -/
def Entries.Keeps (T : Entries → Prop) (change : Entries → Option Entries) : Prop :=
  ∀ entries after, T entries → change entries = some after → T after

open Entries (Keeps)

theorem Entries.keeps_foldlM {α : Type} {f : Entries → α → Option Entries} {xs : List α}
    (h : ∀ x ∈ xs, Keeps T fun entries => f entries x) :
    Keeps T fun entries => xs.foldlM f entries := by
  induction xs with
  | nil =>
      rintro entries after hentries hafter
      obtain rfl := Option.some.inj hafter
      exact hentries
  | cons x xs ih =>
      intro entries after hentries hafter
      simp only [List.foldlM_cons] at hafter
      obtain ⟨mid, hmid, hrest⟩ := Option.bind_eq_some_iff.1 hafter
      obtain ⟨hx, hxs⟩ := List.forall_mem_cons.1 h
      exact ih hxs mid after (hx entries mid hentries hmid) hrest

namespace Invariant

variable (inv : Invariant V T)
include inv

/-- One more table behind others. -/
theorem tables_concat (hitems : ∀ entries ∈ items, T entries) (hinner : T inner) :
    V (.tables (items ++ [inner])) := by
  refine inv.tables_iff.2 ?_
  intro entries hmem
  rcases List.mem_append.1 hmem with hmem | hmem
  · exact hitems entries hmem
  · obtain rfl := List.mem_singleton.1 hmem
    exact hinner

section Nested

variable {change : Entries → Option Entries} {after : Entries}

/-- A change of an empty table adds that table. -/
theorem addTable (hchange : Keeps T change) (h : T entries) (hlookup : entries.lookup key = none)
    (hafter : (change [] >>= fun inner => some (entries ++ [(key, .table origin inner)])) =
      some after) : T after := by
  obtain ⟨inner, hinner, hafter⟩ := Option.bind_eq_some_iff.1 hafter
  obtain rfl := Option.some.inj hafter
  exact inv.snoc h hlookup (inv.table_iff.2 (hchange [] inner inv.nil hinner))

/-- A change of a table changes the table that it is a member of. -/
theorem changeTable {old : Entries} (hchange : Keeps T change) (h : T entries)
    (hlookup : entries.lookup key = some (.table origin old))
    (hafter : (change old >>= fun inner =>
      some (Entries.replace key (.table origin inner) entries)) = some after) : T after := by
  have hold := inv.table_iff.1 (inv.lookup h hlookup)
  obtain ⟨inner, hinner, hafter⟩ := Option.bind_eq_some_iff.1 hafter
  obtain rfl := Option.some.inj hafter
  exact inv.replace h (inv.table_iff.2 (hchange old inner hold hinner))

/-- So does a change of the last of some tables. -/
theorem changeLast {old : Entries} (hchange : Keeps T change) (h : T entries)
    (hlookup : entries.lookup key = some (.tables items)) (hlast : items.getLast? = some old)
    (hafter : (change old >>= fun inner =>
      some (Entries.replace key (.tables (items.dropLast ++ [inner])) entries)) = some after) :
    T after := by
  have hitems := inv.tables_iff.1 (inv.lookup h hlookup)
  have hold := hitems old (List.mem_of_getLast? hlast)
  obtain ⟨inner, hinner, hafter⟩ := Option.bind_eq_some_iff.1 hafter
  obtain rfl := Option.some.inj hafter
  have hothers : ∀ entries ∈ items.dropLast, T entries :=
    fun entries hmem => hitems entries (List.dropLast_subset items hmem)
  exact inv.replace h (inv.tables_concat hothers (hchange old inner hold hinner))

end Nested

theorem keeps_addNew? (hv : V v) : Keeps T (Entries.addNew? key v) := by
  intro entries after h hafter
  unfold Entries.addNew? at hafter
  cases hlookup : entries.lookup key with
  | some old => simp [hlookup] at hafter
  | none =>
      simp only [hlookup, Option.isSome_none, Bool.false_eq_true, if_false, Option.some.injEq]
        at hafter
      exact hafter ▸ inv.snoc h hlookup hv

theorem keeps_insert? (hv : V v) (path : List String) : Keeps T (Entries.insert? key v path) := by
  -- The tables on the way are changed from the inside out.
  induction path with
  | nil => exact inv.keeps_addNew? hv
  | cons part path ih =>
      intro entries after h hafter
      unfold Entries.insert? at hafter
      split at hafter
      · rename_i hlookup
        exact inv.addTable ih h hlookup hafter
      · rename_i origin old hlookup
        split at hafter
        · exact inv.changeTable ih h hlookup hafter
        · cases hafter
      · rename_i items hlookup
        split at hafter
        · rename_i old hlast
          split at hafter
          · exact inv.changeLast ih h hlookup hlast hafter
          · cases hafter
        · cases hafter
      · cases hafter

theorem keeps_fill? (hpairs : ∀ p ∈ pairs, V p.value) : Keeps T (Entries.fill? pairs) :=
  Entries.keeps_foldlM fun p hp => inv.keeps_insert? (hpairs p hp) p.path

theorem keeps_within? {change : Entries → Option Entries} (hchange : Keeps T change)
    (path : List String) : Keeps T (Entries.within? change path) := by
  -- What one change keeps at the end of the path, each table on the way to it keeps.
  induction path with
  | nil => exact hchange
  | cons part path ih =>
      intro entries after h hafter
      unfold Entries.within? at hafter
      split at hafter
      · rename_i hlookup
        exact inv.addTable ih h hlookup hafter
      · cases hafter
      · rename_i origin old hinline hlookup
        exact inv.changeTable ih h hlookup hafter
      · rename_i items hlookup
        split at hafter
        · rename_i old hlast
          exact inv.changeLast ih h hlookup hlast hafter
        · cases hafter
      · cases hafter

theorem keeps_open? (hpairs : ∀ p ∈ pairs, V p.value) : Keeps T (Entries.open? key pairs) := by
  intro entries after h hafter
  have hfill := inv.keeps_fill? hpairs
  unfold Entries.open? at hafter
  split at hafter
  · rename_i hlookup
    exact inv.addTable hfill h hlookup hafter
  · -- The table moves behind the others, which is to take it out and add it again.
    rename_i old hlookup
    have hold := inv.table_iff.1 (inv.lookup h hlookup)
    obtain ⟨table, htable, hafter⟩ := Option.bind_eq_some_iff.1 hafter
    obtain rfl := Option.some.inj hafter
    exact inv.snoc (inv.remove h key) (Entries.lookup_remove key entries)
      (inv.table_iff.2 (hfill old table hold htable))
  · cases hafter

theorem keeps_append? (hpairs : ∀ p ∈ pairs, V p.value) : Keeps T (Entries.append? key pairs) := by
  intro entries after h hafter
  have hfill := inv.keeps_fill? hpairs
  unfold Entries.append? at hafter
  split at hafter
  · rename_i hlookup
    obtain ⟨table, htable, hafter⟩ := Option.bind_eq_some_iff.1 hafter
    obtain rfl := Option.some.inj hafter
    have hnone : ∀ entries ∈ ([] : List Entries), T entries := by simp
    exact inv.snoc h hlookup (inv.tables_concat hnone (hfill [] table inv.nil htable))
  · rename_i items hlookup
    have hitems := inv.tables_iff.1 (inv.lookup h hlookup)
    obtain ⟨table, htable, hafter⟩ := Option.bind_eq_some_iff.1 hafter
    obtain rfl := Option.some.inj hafter
    exact inv.replace h (inv.tables_concat hitems (hfill [] table inv.nil htable))
  · cases hafter

end Invariant

/-! ## Reading -/

/-- Of the values that hold no other only the integers are not arbitrary. -/
theorem yields_scalar {I : Int → Prop} (hstring : ∀ text, V (.string text))
    (hmoment : V .moment) (hfloat : ∀ value, V (.float value)) (hread : integer.Yields I)
    (hinteger : ∀ value, I value → V (.integer value)) (hboolean : ∀ value, V (.boolean value)) :
    scalar.Yields V :=
  (string.yields_true.map fun text _ => hstring text).orElse <|
    (moment.yields_true.map fun _ _ => hmoment).orElse <|
      (float.yields_true.map fun value _ => hfloat value).orElse <|
        (hread.map hinteger).orElse <|
          boolean.yields_true.map fun value _ => hboolean value

theorem yields_pair {value : Reader Value} (h : value.Yields V) :
    (pair value).Yields fun p => V p.value :=
  ((yields_true _).both h).map fun _ hx => hx.2

namespace Invariant

variable (inv : Invariant V T)
include inv

section Values

variable {value : Reader Value}

theorem yields_array (h : value.Yields V) : (Toml.array value).Yields V := by
  have hitems := ((h.skip gap).separated ((exactly ',').skip gap)).after ((exactly '[').skip gap)
  have hfilled := hitems.map fun _ => inv.array
  refine Yields.orElse ?_ (((hfilled.thenMaybe _).before _).map fun _ hx => hx)
  exact (yields_true _).map fun _ _ => inv.array fun v hv => absurd hv List.not_mem_nil

theorem yields_inlineTable (h : value.Yields V) : (inlineTable value).Yields V := by
  have hpairs := (((yields_pair h).skip blanks).separated (exactly ',')).before (exactly '}')
  have hempty : ((((exactly '{').skip blanks).before (exactly '}')).map fun _ =>
      ([] : List Pair)).Yields fun pairs => ∀ p ∈ pairs, V p.value :=
    (yields_true _).map fun _ _ p hp => absurd hp List.not_mem_nil
  unfold inlineTable
  refine Yields.filterMap (hempty.orElse (hpairs.after _)) ?_
  intro pairs v hpairs hv
  obtain ⟨entries, hentries, rfl⟩ := Option.map_eq_some_iff.1 hv
  exact inv.table_iff.2 (inv.keeps_fill? hpairs [] entries inv.nil hentries)

end Values

variable (hscalar : scalar.Yields V)
include hscalar

/-- Every value that is read has the property, however deep it is nested. -/
theorem yields_value (depth : Nat) : (value depth).Yields V := by
  induction depth with
  | zero => exact hscalar
  | succ depth ih =>
      exact hscalar.orElse ((inv.yields_array ih).orElse (inv.yields_inlineTable ih))

end Invariant

/-! ## Documents -/

/-- The value of a pair has a property. -/
def Statement.Gives (V : Value → Prop) : Statement → Prop
  | .pair p => V p.value
  | _ => True

theorem yields_onLine {α : Type} {r : Reader α} {P : α → Prop} (h : r.Yields P) :
    (onLine r).Yields P := by
  have hline := ((h.skip blanks).thenMaybe comment).map fun _ hx => hx
  intro s a rest hrun
  obtain ⟨⟨a', mid⟩, hr, hend⟩ := Option.bind_eq_some_iff.1 hrun
  obtain ⟨rest', -, hpair⟩ := Option.map_eq_some_iff.1 hend
  obtain ⟨rfl, -⟩ := Prod.mk.inj hpair
  exact hline s a' mid hr

theorem yields_statement (h : (value maxDepth).Yields V) :
    statement.Yields (Statement.Gives V) := by
  have hheader : header.Yields (Statement.Gives V) :=
    ((yields_true _).map fun _ _ => trivial).orElse ((yields_true _).map fun _ _ => trivial)
  have hpair := (yields_pair h).map (f := Statement.pair)
    (Q := Statement.Gives V) fun _ hp => hp
  exact ((yields_true _).map fun _ _ => trivial).orElse <| yields_onLine <|
    ((yields_true _).map fun _ _ => trivial).orElse (hheader.orElse hpair)

theorem values_sections {statements : List Statement} (h : ∀ s ∈ statements, s.Gives V) :
    (∀ p ∈ (sections statements).1, V p.value) ∧
      ∀ s ∈ (sections statements).2, ∀ p ∈ s.pairs, V p.value := by
  induction statements with
  | nil => simp [sections]
  | cons statement rest ih =>
      obtain ⟨hstatement, hrest⟩ := List.forall_mem_cons.1 h
      obtain ⟨hpairs, hlater⟩ := ih hrest
      cases statement with
      | pair p => exact ⟨List.forall_mem_cons.2 ⟨hstatement, hpairs⟩, hlater⟩
      | header path key => exact ⟨by simp [sections], List.forall_mem_cons.2 ⟨hpairs, hlater⟩⟩
      | arrayHeader path key =>
          exact ⟨by simp [sections], List.forall_mem_cons.2 ⟨hpairs, hlater⟩⟩
      | blank => exact ⟨hpairs, hlater⟩

namespace Invariant

variable (inv : Invariant V T)
include inv

theorem keeps_addTo? {s : Section} (h : ∀ p ∈ s.pairs, V p.value) :
    Keeps T fun entries => s.addTo? entries := by
  unfold Section.addTo?
  split
  · exact inv.keeps_within? (inv.keeps_append? h) s.path
  · exact inv.keeps_within? (inv.keeps_open? h) s.path

theorem of_build? {statements : List Statement} (h : ∀ s ∈ statements, s.Gives V)
    (hbuild : build? statements = some entries) : T entries := by
  obtain ⟨hpairs, hsections⟩ := values_sections h
  unfold build? at hbuild
  obtain ⟨top, htop, hrest⟩ := Option.bind_eq_some_iff.1 hbuild
  have htable := inv.keeps_fill? hpairs [] top inv.nil htop
  have hkeeps := Entries.keeps_foldlM fun s hs => inv.keeps_addTo? (hsections s hs)
  exact hkeeps top entries htable hrest

/-- The table of a document has the property, if every value that is no table has its own. -/
theorem of_parse? (hscalar : scalar.Yields V) {text : String} (h : parse? text = some entries) :
    T entries := by
  unfold parse? at h
  obtain ⟨statements, hstatements, hbuild⟩ := Option.bind_eq_some_iff.1 h
  have hyields := yields_statement (inv.yields_value hscalar maxDepth)
  exact inv.of_build? (hyields.toEnd? hstatements) hbuild

end Invariant
end Toml
end BuildStamp
