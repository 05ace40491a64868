import BuildStamp.Proofs.Config.RoundTrip
import BuildStamp.Proofs.Host.Walk
import BuildStamp.Proofs.Toml.Parsed

/-!
# Decoding — what settings a document gives

A document is decoded member by member, and each member can be refused or can replace a setting.
Since no key comes twice, what comes out is found again without going through the members: a setting
is the value under its key, wherever it stands, and a refusal is for the first value that is not
what its setting must be.  Keys that are no settings play no part in either.

The members come in the order of the parsed table: each key where it came first, and the members of
a table together.  That is the order of the lines unless the dotted keys of one table have other
keys between them.

* `Config.demands` — the values that are looked at, in the order of the table;
* `Config.ofEntries` — the settings by their keys;
* `Config.decode_eq` — decoding is the first unmet demand, or these settings;
* `Config.ofEntries_eq_of_members` — which depend on no other keys and on no order;
* `Config.Verdict` — what comes of a document;
* `Config.parse_eq_iff_verdict` — parsing a well-formed document gives this and nothing else.
-/

namespace BuildStamp

open Toml (Value Expected Mismatch Entries)

/-! ## Values -/

namespace Toml

/-- The text of a string. -/
def Value.text? : Value → Option String
  | .string text => some text
  | _ => none

/-- An integer that is not negative. -/
def Value.natural? : Value → Option Nat
  | .integer value => if 0 ≤ value then some value.toNat else none
  | _ => none

/-- The values that a setting can have. -/
def Expected.admits : Expected → Value → Bool
  | .text, v => v.text?.isSome
  | .path, v => v.text?.isSome
  | .natural, v => v.natural?.isSome
  | .toolSettings, .table .. => true
  | .toolSettings, .array _ => true
  | .toolSettings, .tables _ => true
  | .toolSettings, .moment => true
  | .toolSettings, _ => false

/-- A value that is looked at, and what it must be. -/
structure Demand where
  expected : Expected
  value : Value

namespace Demand

/-- The value is what it must be. -/
def isMet (d : Demand) : Bool :=
  d.expected.admits d.value

/-- The refusal of a value that is not. -/
def mismatch (d : Demand) : Mismatch :=
  ⟨d.value.found, d.expected⟩

/-- Refuses the first value that is not what it must be. -/
def check (demands : List Demand) : Except Mismatch Unit :=
  match demands.find? fun d => !d.isMet with
  | some d => .error d.mismatch
  | none => .ok ()

variable {d : Demand} {demands later : List Demand}

theorem check_cons_of_met (h : d.isMet = true) : check (d :: demands) = check demands := by
  simp [check, h]

theorem check_cons_of_unmet (h : d.isMet = false) : check (d :: demands) = .error d.mismatch := by
  simp [check, h]

theorem check_append : check (demands ++ later) = (check demands >>= fun _ => check later) := by
  induction demands with
  | nil => rfl
  | cons d demands ih =>
      rw [List.cons_append]
      cases hd : d.isMet with
      | false => rw [check_cons_of_unmet hd, check_cons_of_unmet hd, error_bind]
      | true => rw [check_cons_of_met hd, check_cons_of_met hd, ih]

theorem check_eq_ok_iff {u : Unit} : check demands = .ok u ↔ ∀ d ∈ demands, d.isMet = true := by
  unfold check
  cases hfind : demands.find? fun d => !d.isMet with
  | none => simpa using hfind
  | some d =>
      have hunmet := List.find?_some hfind
      have hmem := List.mem_of_find?_eq_some hfind
      simp only [reduceCtorEq, false_iff]
      intro hall
      simp [hall d hmem] at hunmet

theorem check_eq_error_iff {m : Mismatch} :
    check demands = .error m ↔
      ∃ before d after, demands = before ++ d :: after ∧ (∀ e ∈ before, e.isMet = true) ∧
        d.isMet = false ∧ m = d.mismatch := by
  constructor
  · intro h
    unfold check at h
    cases hfind : demands.find? fun d => !d.isMet with
    | none => simp [hfind] at h
    | some d =>
        obtain ⟨hunmet, before, after, hsplit, hbefore⟩ := List.find?_eq_some_iff_append.1 hfind
        simp only [hfind, Except.error.injEq] at h
        exact ⟨before, d, after, hsplit, by simpa using hbefore, by simpa using hunmet, h.symm⟩
  · rintro ⟨before, d, after, rfl, hbefore, hunmet, rfl⟩
    have hbefore : check before = .ok () := check_eq_ok_iff.2 hbefore
    rw [check_append, hbefore, ok_bind, check_cons_of_unmet hunmet]

end Demand

theorem Value.asString_eq (v : Value) {expected : Expected}
    (h : expected.admits v = v.text?.isSome) (default : String) :
    v.asString expected = (Demand.check [⟨expected, v⟩]).map fun _ => v.text?.getD default := by
  cases v <;> simp_all [Demand.check, Demand.isMet, Demand.mismatch, asString, text?, Except.map]

theorem Value.asNatural_eq (v : Value) (default : Nat) :
    v.asNatural = (Demand.check [⟨.natural, v⟩]).map fun _ => v.natural?.getD default := by
  cases v with
  | integer value =>
      by_cases h : 0 ≤ value <;>
        simp [Demand.check, Demand.isMet, Demand.mismatch, asNatural, natural?, Expected.admits,
          Except.map, found, h]
  | _ => rfl

/-! ## Members one after the other -/

section Members

variable {σ τ : Type}

/-- Where each member is refused or taken over, all of them are, up to the first that is refused. -/
theorem foldlM_eq_check {assign : σ → String × Value → Except Mismatch σ}
    {put : σ → String × Value → σ} {demands : String × Value → List Demand}
    (h : ∀ s m, assign s m = (Demand.check (demands m)).map fun _ => put s m) (entries : Entries)
    (s : σ) :
    entries.foldlM assign s =
      (Demand.check (entries.flatMap demands)).map fun _ => entries.foldl put s := by
  induction entries generalizing s with
  | nil => rfl
  | cons m entries ih =>
      rw [List.foldlM_cons, List.flatMap_cons, Demand.check_append, h]
      cases Demand.check (demands m) with
      | error e => rfl
      | ok u => exact ih (put s m)

/-- A field that only the members of one key change has the value of the key if it is there. -/
theorem foldl_eq_lookup {put : σ → String × Value → σ} (field : σ → τ) (key : String)
    (value? : Value → Option τ) (hkey : ∀ s v, field (put s (key, v)) = (value? v).getD (field s))
    (hother : ∀ s m, m.1 ≠ key → field (put s m) = field s) {entries : Entries}
    (hkeys : (entries.map Prod.fst).Nodup) (s : σ) :
    field (entries.foldl put s) = ((entries.lookup key).bind value?).getD (field s) := by
  -- The state is generalized: behind the member in front, the fold goes on from another one.
  induction entries generalizing s with
  | nil => rfl
  | cons m entries ih =>
      rw [List.map_cons, List.nodup_cons] at hkeys
      obtain ⟨hfresh, hkeys⟩ := hkeys
      rw [List.foldl_cons, ih hkeys]
      obtain ⟨k, v⟩ := m
      by_cases hk : k = key
      · -- The key does not come again, so its value stays.
        subst hk
        have hnone : entries.lookup k = none := Entries.lookup_eq_none_iff.2 hfresh
        rw [hnone, List.lookup_cons_self, hkey]
        rfl
      · have hlookup : List.lookup key ((k, v) :: entries) = entries.lookup key := by
          rw [List.lookup_cons, beq_eq_false_iff_ne.2 (Ne.symm hk)]
        rw [hlookup, hother s (k, v) hk]

end Members

end Toml

/-! ## Settings of the version-control tool -/

namespace GitSettings

open Toml (Demand)

/-- What a value gives: an array is the program and the timeout, and whatever else it holds is
ignored. -/
def members : Value → Entries
  | .table _ entries => entries
  | .array items => ["program", "timeout_secs"].zip items
  | .tables items => ["program", "timeout_secs"].zip (items.map (Value.table .header))
  | _ => []

/-- The demands on a member. -/
def demandsOf (member : String × Value) : List Demand :=
  if member.1 = "program" then [⟨.text, member.2⟩]
  else if member.1 = "timeout_secs" then [⟨.natural, member.2⟩]
  else []

/-- The settings with those of a member. -/
def put (g : GitSettings) (member : String × Value) : GitSettings :=
  if member.1 = "program" then { g with program := member.2.text?.getD g.program }
  else if member.1 = "timeout_secs" then
    { g with timeoutSeconds := member.2.natural?.getD g.timeoutSeconds }
  else g

/-- The settings by their keys. -/
def ofMembers (members : Entries) : GitSettings where
  program := ((members.lookup "program").bind Value.text?).getD ({} : GitSettings).program
  timeoutSeconds :=
    ((members.lookup "timeout_secs").bind Value.natural?).getD ({} : GitSettings).timeoutSeconds

variable {v : Value} {entries : Entries}

theorem decode_of_admitted (h : Expected.toolSettings.admits v = true) :
    decode v = (members v).foldlM assign {} := by
  -- Both take the first two values of an array, as far as they are there.
  have harray (items : List Value) :
      ofArray items = (["program", "timeout_secs"].zip items).foldlM assign {} := by
    rcases items with _ | ⟨program, _ | ⟨timeout, items⟩⟩
    · rfl
    · unfold ofArray
      simp only [List.zip_cons_cons, List.zip_nil_right, List.foldlM_cons, List.foldlM_nil]
      rfl
    · unfold ofArray
      simp only [List.zip_cons_cons, List.zip_nil_left, List.foldlM_cons, List.foldlM_nil,
        bind_pure]
      rfl
  cases v with
  | table origin entries => rfl
  | array items => exact harray items
  | tables items => exact harray _
  | moment => rfl
  | _ => cases h

theorem decode_of_refused (h : Expected.toolSettings.admits v = false) :
    decode v = .error ⟨v.found, .toolSettings⟩ := by
  cases v with
  | table | array | tables | moment => cases h
  | _ => rfl

theorem assign_eq (g : GitSettings) (member : String × Value) :
    g.assign member = (Demand.check (demandsOf member)).map fun _ => g.put member := by
  obtain ⟨key, value⟩ := member
  unfold assign demandsOf put
  by_cases hprogram : key = "program"
  · simp only [hprogram, if_true]
    rw [value.asString_eq rfl g.program]
    cases Demand.check [⟨.text, value⟩] <;> rfl
  by_cases htimeout : key = "timeout_secs"
  · simp only [hprogram, if_pos htimeout, if_false]
    rw [value.asNatural_eq g.timeoutSeconds]
    cases Demand.check [⟨.natural, value⟩] <;> rfl
  · simp only [hprogram, htimeout, if_false]
    rfl

/-- In what a value gives no key comes twice. -/
theorem keys_members (h : v.Distinct) : ((members v).map Prod.fst).Nodup := by
  have hzip (items : List Value) :
      ((["program", "timeout_secs"].zip items).map Prod.fst).Nodup := by
    rcases items with _ | ⟨program, _ | ⟨timeout, items⟩⟩ <;> simp
  cases h with
  | table hkeys hvalues => exact hkeys
  | array hitems => exact hzip _
  | tables hkeys hvalues => exact hzip _
  | _ => exact List.nodup_nil

theorem foldl_put (hkeys : (entries.map Prod.fst).Nodup) :
    entries.foldl put {} = ofMembers entries := by
  have hprogram : (entries.foldl put {}).program = (ofMembers entries).program :=
    Toml.foldl_eq_lookup program "program" Value.text? (fun _ _ => rfl)
      (fun g m hkey => by simp only [put, if_neg hkey, apply_ite program, ite_self]) hkeys {}
  have htimeout : (entries.foldl put {}).timeoutSeconds = (ofMembers entries).timeoutSeconds :=
    Toml.foldl_eq_lookup timeoutSeconds "timeout_secs" Value.natural? (fun _ _ => rfl)
      (fun g m hkey => by simp only [put, if_neg hkey, apply_ite timeoutSeconds, ite_self]) hkeys {}
  generalize entries.foldl put {} = g at hprogram htimeout ⊢
  cases g
  exact (mk.injEq ..).mpr ⟨hprogram, htimeout⟩

theorem decode_eq (v : Value) :
    decode v =
      (Demand.check (⟨.toolSettings, v⟩ :: (members v).flatMap demandsOf)).map fun _ =>
        (members v).foldl put {} := by
  cases h : (⟨.toolSettings, v⟩ : Demand).isMet with
  | false =>
      rw [decode_of_refused h, Demand.check_cons_of_unmet h]
      rfl
  | true =>
      rw [decode_of_admitted h, Demand.check_cons_of_met h]
      exact Toml.foldlM_eq_check assign_eq (members v) {}

end GitSettings

/-! ## Settings -/

namespace Config

open Toml (Demand)

/-- The demands on a member. -/
def demandsOf (member : String × Value) : List Demand :=
  if member.1 = "version" then [⟨.text, member.2⟩]
  else if member.1 = "src_dir" then [⟨.path, member.2⟩]
  else if member.1 = "header_name" then [⟨.text, member.2⟩]
  else if member.1 = "hook_target" then [⟨.text, member.2⟩]
  else if member.1 = "git" then
    ⟨.toolSettings, member.2⟩ ::
      (GitSettings.members member.2).flatMap GitSettings.demandsOf
  else []

/-- The values that are looked at, in the order of the table, and in place of a table itself first
and then what is in it.  Lines of one table that have others between them come together here. -/
def demands (entries : Entries) : List Demand :=
  entries.flatMap demandsOf

/-- The settings with those of a member. -/
def put (c : Config) (member : String × Value) : Config :=
  if member.1 = "version" then
    { c with version := (member.2.text?.map some).getD c.version }
  else if member.1 = "src_dir" then
    { c with srcDir := (member.2.text?.map Path.mk).getD c.srcDir }
  else if member.1 = "header_name" then
    { c with headerName := member.2.text?.getD c.headerName }
  else if member.1 = "hook_target" then
    { c with hookTarget := member.2.text?.getD c.hookTarget }
  else if member.1 = "git" then
    { c with git := (GitSettings.members member.2).foldl GitSettings.put {} }
  else c

/-- The settings by their keys: the value of a key if it is there, and the default otherwise. -/
def ofEntries (entries : Entries) : Config where
  version := (entries.lookup "version").bind Value.text?
  srcDir := (((entries.lookup "src_dir").bind Value.text?).map Path.mk).getD ({} : Config).srcDir
  headerName := ((entries.lookup "header_name").bind Value.text?).getD ({} : Config).headerName
  hookTarget := ((entries.lookup "hook_target").bind Value.text?).getD ({} : Config).hookTarget
  git := GitSettings.ofMembers (((entries.lookup "git").map GitSettings.members).getD [])

variable {entries : Entries}

theorem assign_eq (c : Config) (member : String × Value) :
    c.assign member = (Demand.check (demandsOf member)).map fun _ => c.put member := by
  obtain ⟨key, value⟩ := member
  unfold assign demandsOf put
  -- The keys are told apart in the order in which the decoder asks for them.
  by_cases hversion : key = "version"
  · simp only [if_pos hversion]
    rw [value.asString_eq rfl ""]
    cases value <;> rfl
  by_cases hsrcDir : key = "src_dir"
  · simp only [if_neg hversion, if_pos hsrcDir]
    rw [value.asString_eq rfl ""]
    cases value <;> rfl
  by_cases hheaderName : key = "header_name"
  · simp only [if_neg hversion, if_neg hsrcDir, if_pos hheaderName]
    rw [value.asString_eq rfl c.headerName]
    cases Demand.check [⟨.text, value⟩] <;> rfl
  by_cases hhookTarget : key = "hook_target"
  · simp only [if_neg hversion, if_neg hsrcDir, if_neg hheaderName, if_pos hhookTarget]
    rw [value.asString_eq rfl c.hookTarget]
    cases Demand.check [⟨.text, value⟩] <;> rfl
  by_cases hgit : key = "git"
  · simp only [if_neg hversion, if_neg hsrcDir, if_neg hheaderName, if_neg hhookTarget, if_pos hgit]
    rw [GitSettings.decode_eq]
    cases Demand.check (⟨.toolSettings, value⟩ :: _) <;> rfl
  · simp only [if_neg hversion, if_neg hsrcDir, if_neg hheaderName, if_neg hhookTarget, if_neg hgit]
    rfl

theorem git_foldl_put (h : entries.Distinct) :
    (entries.foldl put {}).git = (ofEntries entries).git := by
  have hgit : (entries.foldl put {}).git = ((entries.lookup "git").bind fun v =>
      some ((GitSettings.members v).foldl GitSettings.put {})).getD {} :=
    Toml.foldl_eq_lookup git "git" _ (fun _ _ => rfl)
      (fun c m hkey => by simp only [put, if_neg hkey, apply_ite git, ite_self]) h.keys {}
  rw [hgit]
  unfold ofEntries
  cases hlookup : entries.lookup "git" with
  | none => rfl
  | some v => exact GitSettings.foldl_put (GitSettings.keys_members (h.value_of_lookup hlookup))

theorem foldl_put (h : entries.Distinct) : entries.foldl put {} = ofEntries entries := by
  -- No key comes twice, so every field is that of the one member that names it.
  have hversion : (entries.foldl put {}).version = (ofEntries entries).version := by
    rw [Toml.foldl_eq_lookup version "version" (fun v => v.text?.map some) (fun _ _ => rfl)
      (fun c m hkey => by simp only [put, if_neg hkey, apply_ite version, ite_self]) h.keys]
    unfold ofEntries
    cases entries.lookup "version" with
    | none => rfl
    | some v => cases v <;> rfl
  have hsrcDir : (entries.foldl put {}).srcDir = (ofEntries entries).srcDir := by
    rw [Toml.foldl_eq_lookup srcDir "src_dir" (fun v => v.text?.map Path.mk) (fun _ _ => rfl)
      (fun c m hkey => by simp only [put, if_neg hkey, apply_ite srcDir, ite_self]) h.keys]
    unfold ofEntries
    rw [Option.map_bind]
    rfl
  have hheaderName : (entries.foldl put {}).headerName = (ofEntries entries).headerName :=
    Toml.foldl_eq_lookup headerName "header_name" Value.text? (fun _ _ => rfl)
      (fun c m hkey => by simp only [put, if_neg hkey, apply_ite headerName, ite_self]) h.keys {}
  have hhookTarget : (entries.foldl put {}).hookTarget = (ofEntries entries).hookTarget :=
    Toml.foldl_eq_lookup hookTarget "hook_target" Value.text? (fun _ _ => rfl)
      (fun c m hkey => by simp only [put, if_neg hkey, apply_ite hookTarget, ite_self]) h.keys {}
  have hgit := git_foldl_put h
  -- The fold is folded away, so that only its fields are left of it.
  generalize entries.foldl put {} = c at hversion hsrcDir hheaderName hhookTarget hgit ⊢
  cases c
  exact (mk.injEq ..).mpr ⟨hversion, hsrcDir, hheaderName, hhookTarget, hgit⟩

/-- Decoding refuses the first value that is not what it must be, or gives the settings by their
keys. -/
theorem decode_eq (h : entries.Distinct) :
    decode entries = (Demand.check (demands entries)).map fun _ => ofEntries entries := by
  rw [← foldl_put h]
  exact Toml.foldlM_eq_check assign_eq entries {}

/-- The keys of settings. -/
def keys : List String :=
  ["version", "src_dir", "header_name", "hook_target", "git"]

/-- It matters neither in which order the members come nor what stands under other keys. -/
theorem ofEntries_eq_of_members {entries' : Entries} (h : entries.Distinct) (h' : entries'.Distinct)
    (hmembers : ∀ key ∈ keys, ∀ v, (key, v) ∈ entries ↔ (key, v) ∈ entries') :
    ofEntries entries = ofEntries entries' := by
  have hlookup (key : String) (hkey : key ∈ keys) : entries.lookup key = entries'.lookup key := by
    ext v
    rw [h.lookup_eq_some_iff, h'.lookup_eq_some_iff]
    exact hmembers key hkey v
  unfold ofEntries
  rw [hlookup "version" (by decide), hlookup "src_dir" (by decide),
    hlookup "header_name" (by decide), hlookup "hook_target" (by decide),
    hlookup "git" (by decide)]

/-! ## Texts -/

/-- What comes of a table: of the values that are not what they must be, the first in the order of
the table is refused; else the first check that the settings fail; else they are accepted. -/
inductive Verdict (entries : Entries) : Except ConfigFault Config → Prop where
  | mismatch {before after : List Demand} {d : Demand}
      (hdemands : demands entries = before ++ d :: after) (hbefore : ∀ e ∈ before, e.isMet = true)
      (hunmet : d.isMet = false) : Verdict entries (.error (.mismatch d.mismatch))
  | headerName (hmet : ∀ d ∈ demands entries, d.isMet = true)
      (hname : isPlainFileName (ofEntries entries).headerName = false) :
      Verdict entries (.error (.headerName (ofEntries entries).headerName))
  | hookTarget (hmet : ∀ d ∈ demands entries, d.isMet = true)
      (hname : isPlainFileName (ofEntries entries).headerName = true)
      (hblank : Text.isBlankText (ofEntries entries).hookTarget = true) :
      Verdict entries (.error .blankHookTarget)
  | timeout (hmet : ∀ d ∈ demands entries, d.isMet = true)
      (hname : isPlainFileName (ofEntries entries).headerName = true)
      (hblank : Text.isBlankText (ofEntries entries).hookTarget = false)
      (hzero : (ofEntries entries).git.timeoutSeconds = 0) :
      Verdict entries (.error .zeroTimeout)
  | accepted (hmet : ∀ d ∈ demands entries, d.isMet = true)
      (hname : isPlainFileName (ofEntries entries).headerName = true)
      (hblank : Text.isBlankText (ofEntries entries).hookTarget = false)
      (htimeout : 0 < (ofEntries entries).git.timeoutSeconds) :
      Verdict entries (.ok (ofEntries entries))

theorem validate_eq_ok_iff {c : Config} {u : Unit} :
    c.validate = .ok u ↔
      isPlainFileName c.headerName = true ∧ Text.isBlankText c.hookTarget = false ∧
        0 < c.git.timeoutSeconds := by
  unfold validate
  cases hname : isPlainFileName c.headerName with
  | false => simp
  | true =>
      cases hblank : Text.isBlankText c.hookTarget with
      | true => simp
      | false => by_cases hzero : c.git.timeoutSeconds = 0 <;> simp [hzero, Nat.pos_iff_ne_zero]

theorem validate_of_headerName {c : Config} (hname : isPlainFileName c.headerName = false) :
    c.validate = .error (.headerName c.headerName) := by
  simp [validate, hname]

theorem validate_of_hookTarget {c : Config} (hname : isPlainFileName c.headerName = true)
    (hblank : Text.isBlankText c.hookTarget = true) : c.validate = .error .blankHookTarget := by
  simp [validate, hname, hblank]

theorem validate_of_timeout {c : Config} (hname : isPlainFileName c.headerName = true)
    (hblank : Text.isBlankText c.hookTarget = false) (hzero : c.git.timeoutSeconds = 0) :
    c.validate = .error .zeroTimeout := by
  simp [validate, hname, hblank, hzero]

theorem parse_of_demands {text : String} (h : Toml.parse? text = some entries)
    (hmet : ∀ d ∈ demands entries, d.isMet = true) :
    parse text = (ofEntries entries).validate.map fun _ => ofEntries entries := by
  have hcheck : Demand.check (demands entries) = .ok () := Demand.check_eq_ok_iff.2 hmet
  refine parse_of_decode h ?_
  rw [decode_eq (Toml.distinct_of_parse? h), hcheck]
  rfl

theorem parse_of_mismatch {text : String} (h : Toml.parse? text = some entries)
    {before after : List Demand} {d : Demand} (hdemands : demands entries = before ++ d :: after)
    (hbefore : ∀ e ∈ before, e.isMet = true) (hunmet : d.isMet = false) :
    parse text = .error (.mismatch d.mismatch) := by
  have hcheck : Demand.check (demands entries) = .error d.mismatch :=
    Demand.check_eq_error_iff.2 ⟨before, d, after, hdemands, hbefore, hunmet, rfl⟩
  have hdecode : decode entries = .error d.mismatch := by
    rw [decode_eq (Toml.distinct_of_parse? h), hcheck]
    rfl
  simp only [parse, h, hdecode]
  rfl

theorem parse_of_verdict {text : String} (h : Toml.parse? text = some entries)
    {result : Except ConfigFault Config} (hverdict : Verdict entries result) :
    parse text = result := by
  -- The checks are made one after the other, so each verdict says that those before it were passed.
  cases hverdict with
  | mismatch hdemands hbefore hunmet => exact parse_of_mismatch h hdemands hbefore hunmet
  | headerName hmet hname =>
      rw [parse_of_demands h hmet, validate_of_headerName hname]
      rfl
  | hookTarget hmet hname hblank =>
      rw [parse_of_demands h hmet, validate_of_hookTarget hname hblank]
      rfl
  | timeout hmet hname hblank hzero =>
      rw [parse_of_demands h hmet, validate_of_timeout hname hblank hzero]
      rfl
  | accepted hmet hname hblank htimeout =>
      have hvalid : (ofEntries entries).validate = .ok () :=
        validate_eq_ok_iff.2 ⟨hname, hblank, htimeout⟩
      rw [parse_of_demands h hmet, hvalid]
      rfl

theorem exists_verdict (entries : Entries) : ∃ result, Verdict entries result := by
  cases hcheck : Demand.check (demands entries) with
  | error m =>
      obtain ⟨before, d, after, hdemands, hbefore, hunmet, -⟩ :=
        Demand.check_eq_error_iff.1 hcheck
      exact ⟨_, .mismatch hdemands hbefore hunmet⟩
  | ok u =>
      have hmet := Demand.check_eq_ok_iff.1 hcheck
      -- The cases are split as validation goes through its checks.
      cases hname : isPlainFileName (ofEntries entries).headerName with
      | false => exact ⟨_, .headerName hmet hname⟩
      | true =>
          cases hblank : Text.isBlankText (ofEntries entries).hookTarget with
          | true => exact ⟨_, .hookTarget hmet hname hblank⟩
          | false =>
              rcases Nat.eq_zero_or_pos (ofEntries entries).git.timeoutSeconds with hzero | hpos
              · exact ⟨_, .timeout hmet hname hblank hzero⟩
              · exact ⟨_, .accepted hmet hname hblank hpos⟩

end Config
end BuildStamp
