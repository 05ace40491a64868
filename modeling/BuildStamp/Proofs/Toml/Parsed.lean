import BuildStamp.Proofs.Toml.Growth

/-!
# Parsed — what holds of every document

An integer that does not fit into 64 bits is refused where it is read, in every base.  Nothing that
is done to a table makes an integer, so all integers of a document fit, at any depth.  A key is
added to a table only if it is not there, and whatever else happens to a table leaves its keys what
they are or takes one out.  So every table of a document has distinct keys, at any depth, and it
does not matter from which end a key is looked up.

* `FitsInteger`, `Value.Fits`, `Entries.Fits` — integers within the bounds;
* `yields_integer` — every integer that is read is one;
* `invariant_fits` — the bounds survive all that is done to a table;
* `fits_of_parse?` — every integer of a document is within them;
* `Entries.Distinct`, `Value.Distinct` — distinct keys, in all tables of a value;
* `invariant_distinct` — distinct keys survive all that is done to a table;
* `distinct_of_parse?` — every document has distinct keys.
-/

namespace BuildStamp
namespace Toml

open Text.Reader

/-! ## Integers -/

/-- The integers of 64 bits with a sign. -/
def FitsInteger (i : Int) : Prop :=
  minInteger ≤ i ∧ i ≤ maxInteger

theorem fitting?_eq_some_iff {i j : Int} : fitting? i = some j ↔ FitsInteger i ∧ i = j := by
  unfold fitting?
  simp [FitsInteger]

theorem fits_of_fitting? {i j : Int} (h : fitting? i = some j) : FitsInteger j := by
  obtain ⟨hfits, rfl⟩ := fitting?_eq_some_iff.1 h
  exact hfits

theorem yields_basedInteger (mark : Char) (base : Nat) :
    (basedInteger mark base).Yields FitsInteger := by
  unfold basedInteger
  refine Yields.filterMap (yields_true _) ?_
  intro ds i _ h
  exact fits_of_fitting? h

theorem yields_decimalInteger : decimalInteger.Yields FitsInteger := by
  unfold decimalInteger
  refine Yields.filterMap (yields_true _) ?_
  intro digits i _ h
  exact fits_of_fitting? h

theorem yields_integer : integer.Yields FitsInteger :=
  (yields_basedInteger 'x' 16).orElse <| (yields_basedInteger 'o' 8).orElse <|
    (yields_basedInteger 'b' 2).orElse yields_decimalInteger

/-! ## Tables whose integers fit -/

/-- All integers in a value fit. -/
inductive Value.Fits : Value → Prop where
  | string (text : String) : (Value.string text).Fits
  | integer (value : Int) (h : FitsInteger value) : (Value.integer value).Fits
  | float (value : Binary64) : (Value.float value).Fits
  | boolean (value : Bool) : (Value.boolean value).Fits
  | moment : Value.moment.Fits
  | array {items : List Value} (hitems : ∀ v ∈ items, v.Fits) : (Value.array items).Fits
  | table {origin : Origin} {entries : List (String × Value)}
      (hvalues : ∀ m ∈ entries, m.2.Fits) : (Value.table origin entries).Fits
  | tables {items : List (List (String × Value))}
      (hvalues : ∀ entries ∈ items, ∀ m ∈ entries, m.2.Fits) : (Value.tables items).Fits

/-- All integers in a table fit. -/
def Entries.Fits (entries : Entries) : Prop :=
  ∀ m ∈ entries, m.2.Fits

variable {entries : Entries} {items : List Entries} {origin : Origin}

theorem Value.fits_table_iff : (Value.table origin entries).Fits ↔ entries.Fits := by
  constructor
  · rintro ⟨⟩
    assumption
  · exact .table

theorem Value.fits_tables_iff :
    (Value.tables items).Fits ↔ ∀ entries ∈ items, Entries.Fits entries := by
  constructor
  · rintro ⟨⟩
    assumption
  · exact .tables

/-! ## The integers of a document -/

/-- The bounds survive all that is done to a table. -/
theorem invariant_fits : Invariant Value.Fits Entries.Fits where
  nil := fun _ hm => absurd hm List.not_mem_nil
  lookup := fun h hlookup => h _ (Entries.mem_of_lookup hlookup)
  snoc := fun h _ hv => Entries.values_snoc h hv
  replace := fun h hv => Entries.values_replace h hv
  remove := fun h key m hm => h m ((Entries.remove_sublist key _).subset hm)
  array := .array
  table_iff := Value.fits_table_iff
  tables_iff := Value.fits_tables_iff

/-- Every integer of a document fits into 64 bits. -/
theorem fits_of_parse? {text : String} (h : parse? text = some entries) : entries.Fits :=
  invariant_fits.of_parse?
    (yields_scalar .string .moment .float yields_integer .integer .boolean) h

/-! ## Distinct keys -/

/-- In all tables of a value the keys are distinct. -/
inductive Value.Distinct : Value → Prop where
  | string (text : String) : (Value.string text).Distinct
  | integer (value : Int) : (Value.integer value).Distinct
  | float (value : Binary64) : (Value.float value).Distinct
  | boolean (value : Bool) : (Value.boolean value).Distinct
  | moment : Value.moment.Distinct
  | array {items : List Value} (hitems : ∀ v ∈ items, v.Distinct) : (Value.array items).Distinct
  | table {origin : Origin} {entries : List (String × Value)}
      (hkeys : (entries.map Prod.fst).Nodup) (hvalues : ∀ m ∈ entries, m.2.Distinct) :
      (Value.table origin entries).Distinct
  | tables {items : List (List (String × Value))}
      (hkeys : ∀ entries ∈ items, (entries.map Prod.fst).Nodup)
      (hvalues : ∀ entries ∈ items, ∀ m ∈ entries, m.2.Distinct) :
      (Value.tables items).Distinct

namespace Entries

/-- The keys of a table are distinct, and so are those of all tables in it. -/
structure Distinct (entries : Entries) : Prop where
  keys : (entries.map Prod.fst).Nodup
  values : ∀ m ∈ entries, m.2.Distinct

variable {key : String} {v : Value}

theorem distinct_nil : Distinct [] :=
  ⟨List.nodup_nil, fun _ hm => absurd hm List.not_mem_nil⟩

theorem Distinct.table (h : entries.Distinct) : (Value.table origin entries).Distinct :=
  .table h.keys h.values

theorem distinct_of_table (h : (Value.table origin entries).Distinct) : entries.Distinct := by
  cases h with
  | table hkeys hvalues => exact ⟨hkeys, hvalues⟩

theorem distinct_tables (h : ∀ entries ∈ items, Distinct entries) : (Value.tables items).Distinct :=
  .tables (fun entries hmem => (h entries hmem).keys) fun entries hmem => (h entries hmem).values

theorem distinct_of_tables (h : (Value.tables items).Distinct) :
    ∀ entries ∈ items, Distinct entries := by
  cases h with
  | tables hkeys hvalues => exact fun entries hmem => ⟨hkeys entries hmem, hvalues entries hmem⟩

/-- Where keys are distinct a member is found under its key. -/
theorem Distinct.lookup_eq_some_iff (h : entries.Distinct) :
    entries.lookup key = some v ↔ (key, v) ∈ entries := by
  refine ⟨mem_of_lookup, ?_⟩
  intro hmem
  obtain ⟨before, after, rfl⟩ := List.append_of_mem hmem
  refine List.lookup_eq_some_iff.2 ⟨before, after, rfl, ?_⟩
  intro m hm
  have hkeys := h.keys
  rw [List.map_append, List.map_cons, List.nodup_append] at hkeys
  have hne := hkeys.2.2 m.1 (List.mem_map_of_mem hm) key List.mem_cons_self
  simpa using hne.symm

theorem Distinct.value_of_lookup (h : entries.Distinct) (hlookup : entries.lookup key = some v) :
    v.Distinct :=
  h.values (key, v) (mem_of_lookup hlookup)

theorem Distinct.snoc (h : entries.Distinct) (hfresh : entries.lookup key = none)
    (hv : v.Distinct) : Distinct (entries ++ [(key, v)]) := by
  have hkey := lookup_eq_none_iff.1 hfresh
  refine ⟨?_, values_snoc h.values hv⟩
  rw [List.map_append, List.nodup_append]
  refine ⟨h.keys, by simp, ?_⟩
  rintro k hk k' hk' rfl
  obtain rfl := List.mem_singleton.1 hk'
  exact hkey hk

theorem keys_replace (key : String) (v : Value) (entries : Entries) :
    (replace key v entries).map Prod.fst = entries.map Prod.fst := by
  unfold replace
  rw [List.map_map]
  refine List.map_congr_left ?_
  intro m hm
  by_cases hkey : m.1 = key <;> simp [hkey]

theorem Distinct.replace (h : entries.Distinct) (hv : v.Distinct) :
    Distinct (replace key v entries) := by
  refine ⟨?_, values_replace h.values hv⟩
  rw [keys_replace]
  exact h.keys

theorem Distinct.remove (h : entries.Distinct) (key : String) : Distinct (remove key entries) := by
  have hsub := remove_sublist key entries
  exact ⟨h.keys.sublist (hsub.map Prod.fst), fun m hm => h.values m (hsub.subset hm)⟩

end Entries

/-! ## The keys of a document -/

/-- Distinct keys survive all that is done to a table. -/
theorem invariant_distinct : Invariant Value.Distinct Entries.Distinct where
  nil := Entries.distinct_nil
  lookup := Entries.Distinct.value_of_lookup
  snoc := Entries.Distinct.snoc
  replace := Entries.Distinct.replace
  remove := Entries.Distinct.remove
  array := .array
  table_iff := ⟨Entries.distinct_of_table, Entries.Distinct.table⟩
  tables_iff := ⟨Entries.distinct_of_tables, Entries.distinct_tables⟩

/-- No table of a document has a key twice. -/
theorem distinct_of_parse? {text : String} {entries : Entries} (h : parse? text = some entries) :
    entries.Distinct :=
  invariant_distinct.of_parse?
    (yields_scalar .string .moment .float integer.yields_true (fun value _ => .integer value)
      .boolean) h

end Toml
end BuildStamp
