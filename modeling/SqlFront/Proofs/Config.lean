import Mathlib.Data.List.Find
import SqlFront.Config
import SqlFront.Proofs.Toml.Distinct
import SqlFront.Proofs.Toml.Written

/-!
# SqlFront.Proofs.Config

What is in a file of settings, and which file it is.

A document gives settings only if none of its values is of the wrong sort; the keys are looked at
one by one, and neither their order nor what stands under other keys matters. The usual files are
only looked for when none is named, and only whether they are there decides between them: the one
that is chosen may turn out not to be readable.

* `ofEntries_eq_ok_iff`: what a document says, setting by setting.
* `ofText_perm`: the order of the entries.
* `ofText_written`: all settings can be written to a file.
* `Reads`: the text of a file, or why there is none.
* `Source`, `source_none_iff`: the file, if there is one.
* `value_load`: the settings are those in this file.
* `load_congr`: the files that they depend on.
-/

namespace SqlFront
namespace Config

open Toml (bind_eq_ok_iff)

variable {α : Type}

/-! ## The settings in a document -/

/-- What the entries say for a key, in terms that `decode` understands. -/
def stated (entries : Toml.Entries) (key : String) (decode : Toml.Value → Option α) : Option α :=
  (entries.lookup key).bind decode

/-- The key has no value, or one that `decode` understands. -/
def Admits (entries : Toml.Entries) (key : String) (decode : Toml.Value → Option α) : Prop :=
  ∀ value, entries.lookup key = some value → (decode value).isSome

/-- Every setting has a value of the right sort, or none. -/
structure Decodes (entries : Toml.Entries) : Prop where
  format : Admits entries "format" formatOf?
  showTokens : Admits entries "show_tokens" booleanOf?
  showCst : Admits entries "show_cst" booleanOf?
  showAst : Admits entries "show_ast" booleanOf?
  color : Admits entries "color" booleanOf?
  historyFile : Admits entries "history_file" textOf?

/-- The settings that the entries state, with the default for every other. -/
def ofStated (entries : Toml.Entries) : Config where
  format := (stated entries "format" formatOf?).getD .text
  showTokens := (stated entries "show_tokens" booleanOf?).getD true
  showCst := (stated entries "show_cst" booleanOf?).getD true
  showAst := (stated entries "show_ast" booleanOf?).getD true
  color := (stated entries "color" booleanOf?).getD true
  historyFile := stated entries "history_file" textOf?

theorem setting_eq_ok_iff {entries : Toml.Entries} {key wanted : String}
    {decode : Toml.Value → Option α} {default a : α} :
    setting entries key wanted decode default = .ok a ↔
      Admits entries key decode ∧ (stated entries key decode).getD default = a := by
  rw [setting, Admits, stated]
  cases entries.lookup key with
  | none => simp
  | some value => cases hvalue : decode value <;> simp [hvalue]

/-- The last setting is itself optional: its value stands for being there. -/
theorem setting_some_eq_ok_iff {entries : Toml.Entries} {key wanted : String}
    {decode : Toml.Value → Option α} {a : Option α} :
    setting entries key wanted (fun value => (decode value).map some) none = .ok a ↔
      Admits entries key decode ∧ stated entries key decode = a := by
  rw [setting_eq_ok_iff]
  simp only [Admits, stated, Option.isSome_map]
  cases entries.lookup key with
  | none => rfl
  | some value => cases hvalue : decode value <;> simp [hvalue]

theorem ofEntries_eq_ok_iff {entries : Toml.Entries} {config : Config} :
    ofEntries entries = .ok config ↔ Decodes entries ∧ ofStated entries = config := by
  -- the law for the optional setting goes first, since the general one fits it as well
  simp only [ofEntries, bind_eq_ok_iff, setting_some_eq_ok_iff]
  simp only [setting_eq_ok_iff]
  constructor
  · rintro ⟨_, ⟨hformat, rfl⟩, _, ⟨htokens, rfl⟩, _, ⟨hcst, rfl⟩, _, ⟨hast, rfl⟩, _, ⟨hcolor, rfl⟩,
      _, ⟨hhistory, rfl⟩, hconfig⟩
    cases hconfig
    exact ⟨⟨hformat, htokens, hcst, hast, hcolor, hhistory⟩, rfl⟩
  · rintro ⟨h, rfl⟩
    exact ⟨_, ⟨h.format, rfl⟩, _, ⟨h.showTokens, rfl⟩, _, ⟨h.showCst, rfl⟩, _, ⟨h.showAst, rfl⟩,
      _, ⟨h.color, rfl⟩, _, ⟨h.historyFile, rfl⟩, rfl⟩

theorem ofText_eq_ok_iff {text : String} {config : Config} :
    ofText text = .ok config ↔
      ∃ entries, Toml.read text = .ok entries ∧ Decodes entries ∧ ofStated entries = config := by
  have hread : Toml.read text >>= ofEntries = .ok config ↔
      ∃ entries, Toml.read text = .ok entries ∧ Decodes entries ∧ ofStated entries = config := by
    simp only [bind_eq_ok_iff, ofEntries_eq_ok_iff]
  rw [← hread, ofText]
  cases Toml.read text >>= ofEntries <;> simp

/-- In which order a document has its entries does not matter. -/
theorem ofText_perm {text text' : String} {entries entries' : Toml.Entries}
    (h : Toml.read text = .ok entries) (h' : Toml.read text' = .ok entries')
    (hperm : entries.Perm entries') : ofText text = ofText text' := by
  have hlookup : ∀ key, entries.lookup key = entries'.lookup key := by
    intro key
    ext value
    rw [(Toml.distinct_read h).lookup_eq_some_iff, (Toml.distinct_read h').lookup_eq_some_iff,
      hperm.mem_iff]
  have hentries : ofEntries entries = ofEntries entries' := by
    simp only [ofEntries, setting, hlookup]
  rw [ofText, ofText, h, h']
  dsimp only [bind, Except.bind]
  rw [hentries]

/-- The settings as lines of a document. -/
def assignments (config : Config) : List Toml.Assignment :=
  [.ofText "format" (by decide) rfl config.format.name,
    .ofBool "show_tokens" (by decide) rfl config.showTokens,
    .ofBool "show_cst" (by decide) rfl config.showCst,
    .ofBool "show_ast" (by decide) rfl config.showAst,
    .ofBool "color" (by decide) rfl config.color] ++
  (config.historyFile.map (.ofText "history_file" (by decide) rfl)).toList

/-- Settings that are written to a file, all of them, are the settings that the file gives. -/
theorem ofText_written (config : Config) :
    ofText (String.ofList (config.assignments.flatMap Toml.Assignment.line)) = .ok config := by
  have hkeys : (config.assignments.map Toml.Assignment.key).Nodup := by
    cases h : config.historyFile <;>
      simp [assignments, Toml.Assignment.ofText, Toml.Assignment.ofBool, h]
  have hentries : ofEntries (config.assignments.map Toml.Assignment.entry) = .ok config := by
    obtain ⟨format, _, _, _, _, historyFile⟩ := config
    cases format <;> cases historyFile <;> rfl
  rw [ofText, Toml.read_lines hkeys]
  dsimp only [bind, Except.bind]
  rw [hentries]

/-! ## The file -/

/-- What reading a file as text comes to: its bytes are read, and they are the text in UTF-8. -/
inductive Reads (files : Files) (path : String) : Except ReadFailure String → Prop where
  | text {bytes : ByteArray} {text : String} (hbytes : files.read path = .ok bytes)
      (htext : String.fromUTF8? bytes = some text) : Reads files path (.ok text)
  | notText {bytes : ByteArray} (hbytes : files.read path = .ok bytes)
      (htext : String.fromUTF8? bytes = none) : Reads files path (.error .notText)
  | failed {failure : ReadFailure} (hbytes : files.read path = .error failure) :
      Reads files path (.error failure)

/-- The file that the settings come from: the one that is named, else the first usual one that is
there. -/
inductive Source (files : Files) (configDir : Option String) :
    Option String → Option String → Prop where
  | named (path : String) : Source files configDir (some path) (some path)
  | here (h : files.holds localFile = true) : Source files configDir none (some localFile)
  | user {directory : String} (hdir : configDir = some directory)
      (hhere : files.holds localFile = false)
      (h : files.holds (below directory "tinysql/config.toml") = true) :
      Source files configDir none (some (below directory "tinysql/config.toml"))
  | none (hhere : files.holds localFile = false)
      (huser : ∀ directory, configDir = some directory →
        files.holds (below directory "tinysql/config.toml") = false) :
      Source files configDir none none

section

variable {files files' : Files} {configDir named source : Option String} {path text : String}

theorem reads_iff {outcome : Except ReadFailure String} :
    Reads files path outcome ↔ files.readText path = outcome := by
  constructor
  · intro h
    rw [Files.readText]
    cases h with
    | text hbytes htext => simp only [hbytes, htext]
    | notText hbytes htext => simp only [hbytes, htext]
    | failed hbytes => simp only [hbytes]
  · rintro rfl
    rw [Files.readText]
    cases hbytes : files.read path with
    | error failure => exact .failed hbytes
    | ok bytes =>
      cases htext : String.fromUTF8? bytes with
      | some text => simpa only [htext] using Reads.text hbytes htext
      | none => simpa only [htext] using Reads.notText hbytes htext

theorem source_none_iff :
    Source files configDir none source ↔ (candidates configDir).find? files.holds = source := by
  constructor
  · intro h
    cases h with
    | here h => simp [candidates, h]
    | user hdir hhere h => simp [candidates, hdir, hhere, h]
    | none hhere huser => simpa [candidates, hhere] using huser
  · rintro rfl
    cases hhere : files.holds localFile with
    | true => simpa [candidates, hhere] using Source.here hhere
    | false =>
      cases configDir with
      | none => simpa [candidates, hhere] using Source.none hhere (by simp)
      | some directory =>
        cases huser : files.holds (below directory "tinysql/config.toml") with
        | true => simpa [candidates, hhere, huser] using Source.user rfl hhere huser
        | false =>
          have hnone : Source files (some directory) none none :=
            .none hhere fun _ hdir => Option.some.inj hdir ▸ huser
          simpa [candidates, hhere, huser] using hnone

theorem exists_source (files : Files) (configDir named : Option String) :
    ∃ source, Source files configDir named source := by
  cases named with
  | some path => exact ⟨some path, .named path⟩
  | none => exact ⟨_, source_none_iff.mpr rfl⟩

theorem value_load (h : Source files configDir named source) :
    (load files configDir named).value = source.elim (.ok {}) (ofFile files) := by
  cases named with
  | some path => cases h; rfl
  | none =>
    rw [load, source_none_iff.mp h]
    cases source <;> rfl

theorem ofFile_congr (h : files'.readText path = files.readText path) :
    ofFile files' path = ofFile files path := by
  rw [ofFile, ofFile, h]

/-- Which files are there matters for the usual ones only, and what is in a file for the one that is
used. -/
theorem load_congr (h : Source files configDir named source)
    (hholds : ∀ path ∈ candidates configDir, files'.holds path = files.holds path)
    (hread : ∀ path, source = some path → files'.readText path = files.readText path) :
    load files' configDir named = load files configDir named := by
  cases named with
  | some path =>
    cases h
    rw [load, load, ofFile_congr (hread path rfl)]
  | none =>
    rw [load, load, List.find?_congr hholds, source_none_iff.mp h]
    cases source with
    | none => rfl
    | some path => simp only [ofFile_congr (hread path rfl)]

theorem ofFile_of_error {failure : ReadFailure} (h : files.readText path = .error failure) :
    ofFile files path = .error (.io failure) := by
  rw [ofFile, h]

theorem ofFile_of_decodes {entries : Toml.Entries} (hread : files.readText path = .ok text)
    (hentries : Toml.read text = .ok entries) (h : Decodes entries) :
    ofFile files path = .ok (ofStated entries) := by
  have htext : ofText text = .ok (ofStated entries) :=
    ofText_eq_ok_iff.mpr ⟨entries, hentries, h, rfl⟩
  simp only [ofFile, hread, htext]

theorem ofFile_of_not_decodes (hread : files.readText path = .ok text)
    (h : ∀ entries, Toml.read text = .ok entries → ¬Decodes entries) :
    ∃ detail, ofFile files path = .error (.config (path ++ ": " ++ detail)) := by
  simp only [ofFile, hread]
  cases htext : ofText text with
  | ok config =>
    obtain ⟨entries, hentries, hdecodes, -⟩ := ofText_eq_ok_iff.mp htext
    exact absurd hdecodes (h entries hentries)
  | error fault => exact ⟨fault.message, rfl⟩

end

end Config
end SqlFront
