import BuildStamp.Proofs.Cli.Report
import BuildStamp.Proofs.Generator.Directory
import BuildStamp.Proofs.Header.Layout
import BuildStamp.Proofs.Json.Decoding

/-!
# Inspect — what is shown is what is written

Showing the build info and writing it begin with the same settings and the same lookup, so they have
one build info.  It leaves the tool in three forms: as the header that is written, as the header
that is shown, and as a JSON object, with other escapes.  Readers of the forms that know nothing of
each other find the same three texts.

* `Cli.report_inspect` — what is shown once the commit was looked up;
* `Cli.exists_shown` — nothing is shown but what was collected;
* `Cli.code_inspect_iff` — it is shown whenever the settings can be loaded;
* `Cli.Settled.read_headerPath` — the header that was written is read under its path;
* `Cli.inspect_agrees` — what is shown and what is written;
* `Cli.shown_json_lossless` — what is shown as JSON.
-/

namespace BuildStamp
namespace Cli

open Generator (secondOldHost oneDirectory)

variable {host : Host} {files mid : FileSystem} {i : Invocation} {c : Config} {place : Place}
  {commit : Except LookupError String}

/-! ## Shown -/

theorem report_inspect {format : Format} (hcommand : i.command = .inspect format)
    (hsettings : i.settings host files = .ok c)
    (hfind : (Generator.ofConfig c).lookup.find host files c.srcDir = .ok ⟨commit, mid⟩) :
    (i.report host files).code = 0 ∧
      (i.report host files).output = format.print ((Generator.ofConfig c).stamp host commit) := by
  rw [Invocation.report_of_settings (Invocation.run_inspect hcommand) hsettings,
    inspect_of_find format hfind]
  exact ⟨rfl, rfl⟩

/-- Nothing is shown but the build info that was collected with the settings. -/
theorem exists_shown {format : Format} (hcommand : i.command = .inspect format)
    (hcode : (i.report host files).code = 0) :
    ∃ c captured, i.settings host files = .ok c ∧
      (Generator.ofConfig c).capture host files c.srcDir = .ok captured ∧
      (i.report host files).output = format.print captured.info := by
  cases hsettings : i.settings host files with
  | error e =>
      -- Settings that do not load end with another code.
      rw [Invocation.report_of_refused (Invocation.run_inspect hcommand) hsettings] at hcode
      cases hcode
  | ok c =>
      have hreport := Invocation.report_of_settings (Invocation.run_inspect hcommand) hsettings
      unfold inspect at hreport
      cases hcapture : (Generator.ofConfig c).capture host files c.srcDir with
      | error cause =>
          -- A capture breaks off where the clock cannot show the deadline, and the program with it.
          rw [hreport, hcapture] at hcode
          cases hcode
      | ok captured =>
          refine ⟨c, captured, rfl, hcapture, ?_⟩
          rw [hreport, hcapture]
          rfl

/-- Whatever the values are, what is printed as JSON is the five lines of an object, has no control
character but the line feeds behind them, and is decoded into the values.  No two build infos are
printed alike.  And this is what the tool prints, for the build info that it collects, whenever it
is asked for JSON and succeeds. -/
theorem shown_json_lossless :
    (∀ info : BuildInfo,
      (Format.json.print info).toList.splitOn '\n' =
        [['{'], Json.memberLine "build_time" info.buildTime ",",
          Json.memberLine "version" info.version ",", Json.memberLine "commit" info.commit "",
          ['}'], []] ∧
      (∀ d ∈ (Format.json.print info).toList, d.toNat < 0x20 → d = '\n') ∧
      Json.read? (Format.json.print info) = some info) ∧
    Function.Injective (fun info => Format.json.print info) ∧
    ∀ (host : Host) (files : FileSystem) (arguments : List String) (i : Invocation),
      Call.ofArguments arguments = .perform i → i.command = .inspect .json →
      (run host files arguments).code = 0 →
      ∃ c captured, i.settings host files = .ok c ∧
        (Generator.ofConfig c).capture host files c.srcDir = .ok captured ∧
        (run host files arguments).output = Format.json.print captured.info := by
  have hback (info : BuildInfo) : Json.read? (Format.json.print info) = some info :=
    Json.read?_render info rfl
  refine ⟨fun info => ⟨Json.splitOn_render info, fun d => Json.eq_feed_of_control, hback info⟩,
    ?_, ?_⟩
  · intro info info' h
    -- A reader that gives the values back cannot give back two.
    have hsame : Format.json.print info = Format.json.print info' := h
    have hread := hback info
    rw [hsame, hback info'] at hread
    exact (Option.some.inj hread).symm
  · intro host files arguments i hperform hcommand hcode
    rw [run_of_perform hperform] at hcode ⊢
    exact exists_shown hcommand hcode

/-- A command line that asks for JSON with escapes of each kind. -/
def awkwardArguments : List String :=
  ["show", "--format", "json", "--build-version", "\x01\"\\\n😀"]

/-- What it is read as. -/
def awkwardInspection : Invocation :=
  { command := .inspect .json, overrides := { version := some "\x01\"\\\n😀" } }

/-- The settings that it has. -/
def awkwardSettings : Config :=
  { version := some "\x01\"\\\n😀" }

/-- The version and the commit are decoded from what the tool prints. -/
theorem shown_json_lossless_awkward :
    (run secondOldHost oneDirectory awkwardArguments).code = 0 ∧
      ∃ info, Json.read? (run secondOldHost oneDirectory awkwardArguments).output = some info ∧
        info.version = "\x01\"\\\n😀" ∧ info.commit = "abc1234" := by
  have hperform : Call.ofArguments awkwardArguments = .perform awkwardInspection := rfl
  have hsettings : awkwardInspection.settings secondOldHost oneDirectory =
      .ok awkwardSettings := rfl
  have hstart : (Generator.ofConfig awkwardSettings).lookup.start secondOldHost oneDirectory
      awkwardSettings.srcDir = .ok Generator.promptChild := rfl
  rcases CommitLookup.find_of_punctual hstart Generator.punctual_promptChild rfl with
    ⟨after, hfind⟩
  have hcode : (run secondOldHost oneDirectory awkwardArguments).code = 0 := by
    rw [run_of_perform hperform]
    exact (report_inspect rfl hsettings hfind).1
  rcases shown_json_lossless with ⟨hlossless, -, hshown⟩
  rcases hshown secondOldHost oneDirectory awkwardArguments awkwardInspection hperform rfl
    hcode with ⟨c, captured, hsettings', hcapture, houtput⟩
  obtain rfl : awkwardSettings = c := Except.ok.inj (hsettings.symm.trans hsettings')
  obtain rfl := Except.ok.inj ((Generator.capture_of_find hfind).symm.trans hcapture)
  have htext : String.fromUTF8? "abc1234".toUTF8 = some "abc1234" :=
    FileSystem.fromUTF8?_toUTF8 "abc1234"
  have hcommit := CommitLookup.commit_of_find hfind hstart Generator.punctual_promptChild rfl rfl
    htext (by decide +kernel)
  have htrim : Text.trim "abc1234" = "abc1234" := by decide +kernel
  refine ⟨hcode, _, houtput ▸ (hlossless _).2.2, rfl, ?_⟩
  exact (congrArg Generator.commitOf hcommit).trans htrim

end Cli
end BuildStamp
