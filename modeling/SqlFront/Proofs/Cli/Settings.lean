import SqlFront.Cli.Run
import SqlFront.Proofs.Config

/-!
# SqlFront.Proofs.Cli.Settings

The settings of a run: the options stand above one file, and this file stands above the defaults.

A file that cannot be read or makes no sense settles the run as a fault, whatever the options are
and whatever the other files hold.

* `Follows`: the three layers, setting by setting.
* `Settles`: the outcome for each state of the file.
* `resolve_settles`: the outcome of every run, and the files that it depends on.
-/

namespace SqlFront
namespace Cli

open Config

/-! ## The layers -/

/-- Each setting comes from the options, else from the entries of the file, else from the defaults.
The stages stand together: where one of them is asked for, neither layer below says anything about
the others. -/
structure Follows (options : Options) (entries : Toml.Entries) (config : Config) : Prop where
  format :
    config.format = (options.format <|> stated entries "format" formatOf?).getD .text
  color :
    config.color = if options.noColor then false else (stated entries "color" booleanOf?).getD true
  asked : options.tokens ∨ options.cst ∨ options.ast →
    config.showTokens = options.tokens ∧ config.showCst = options.cst ∧
      config.showAst = options.ast
  unasked : ¬(options.tokens ∨ options.cst ∨ options.ast) →
    config.showTokens = (stated entries "show_tokens" booleanOf?).getD true ∧
      config.showCst = (stated entries "show_cst" booleanOf?).getD true ∧
      config.showAst = (stated entries "show_ast" booleanOf?).getD true
  historyFile : config.historyFile = stated entries "history_file" textOf?

theorem follows_overlay (options : Options) (entries : Toml.Entries) :
    Follows options entries (options.overlay (ofStated entries)) where
  format := by cases hformat : options.format <;> simp [Options.overlay, ofStated, hformat]
  color := rfl
  asked h := by
    have hchosen : (options.tokens || options.cst || options.ast) = true := by
      simpa [or_assoc] using h
    simp [Options.overlay, hchosen]
  unasked h := by
    have hchosen : (options.tokens || options.cst || options.ast) = false := by
      simpa [and_assoc] using h
    simp [Options.overlay, hchosen, ofStated]
  historyFile := rfl

/-! ## The run -/

/-- What becomes of a run with these options, by what is found in its file. -/
inductive Settles (files : Files) (options : Options) :
    Option String → Except Fault Config → Prop where
  | defaults {config : Config} (h : Follows options [] config) :
      Settles files options none (.ok config)
  | stated {path text : String} {entries : Toml.Entries} {config : Config}
      (hread : Reads files path (.ok text)) (hentries : Toml.read text = .ok entries)
      (hdecodes : Decodes entries) (h : Follows options entries config) :
      Settles files options (some path) (.ok config)
  | unreadable {path : String} {failure : ReadFailure}
      (hread : Reads files path (.error failure)) :
      Settles files options (some path) (.error (.io failure))
  | senseless {path text detail : String} (hread : Reads files path (.ok text))
      (h : ∀ entries, Toml.read text = .ok entries → ¬Decodes entries) :
      Settles files options (some path) (.error (.config (path ++ ": " ++ detail)))

theorem settles_source (files : Files) (options : Options) (source : Option String) :
    Settles files options source
      ((source.elim (.ok {}) (ofFile files)).map options.overlay) := by
  cases source with
  | none => exact .defaults (follows_overlay options [])
  | some path =>
    rw [Option.elim_some]
    cases hread : files.readText path with
    | error failure =>
      rw [ofFile_of_error hread]
      exact .unreadable (reads_iff.mpr hread)
    | ok text =>
      by_cases hdecodes : ∃ entries, Toml.read text = .ok entries ∧ Decodes entries
      · obtain ⟨entries, hentries, hdecodes⟩ := hdecodes
        rw [ofFile_of_decodes hread hentries hdecodes]
        exact .stated (reads_iff.mpr hread) hentries hdecodes (follows_overlay options entries)
      · have hnot : ∀ entries, Toml.read text = .ok entries → ¬Decodes entries :=
          fun entries hentries h => hdecodes ⟨entries, hentries, h⟩
        obtain ⟨detail, hfile⟩ := ofFile_of_not_decodes hread hnot
        rw [hfile]
        exact .senseless (reads_iff.mpr hread) hnot

/-- The settings of a run come from its options, from one file and from the defaults, in this order.
Once the file is chosen nothing takes its place, and of the files nothing counts but what this one
holds and which of the usual ones are there. -/
theorem resolve_settles (surroundings : Surroundings) (options : Options) :
    ∃ source,
      Source surroundings.files surroundings.configDir
        (options.config <|> surroundings.configVariable) source ∧
      Settles surroundings.files options source (resolve surroundings options).value ∧
      ∀ files : Files,
        (∀ path ∈ candidates surroundings.configDir,
          files.holds path = surroundings.files.holds path) →
        (∀ path, source = some path →
          ∀ outcome, Reads files path outcome ↔ Reads surroundings.files path outcome) →
        resolve { surroundings with files } options = resolve surroundings options := by
  obtain ⟨source, hsource⟩ := exists_source surroundings.files surroundings.configDir
    (options.config <|> surroundings.configVariable)
  refine ⟨source, hsource, ?_, fun files hholds hreads => ?_⟩
  · rw [resolve, value_load hsource]
    exact settles_source surroundings.files options source
  · have hread : ∀ path, source = some path →
        files.readText path = surroundings.files.readText path := fun path hpath =>
      reads_iff.mp ((hreads path hpath _).mpr (reads_iff.mpr rfl))
    rw [resolve, resolve, load_congr hsource hholds hread]

/-- The file of the working directory is used although the user's own is there as well, and the
option for one stage puts out the others. -/
example :
    let files := Files.ofList
      [("tinysql.toml", .ok "format = \"json\"\nshow_ast = true".toUTF8),
       ("/home/tinysql/config.toml", .ok "color = false".toUTF8)]
    let surroundings : Surroundings :=
      { files, configDir := some "/home", configVariable := none, color := true }
    let options : Options := { cst := true }
    (resolve surroundings options).value =
      .ok { format := .json, showTokens := false, showAst := false } := by
  decide +kernel

end Cli
end SqlFront
