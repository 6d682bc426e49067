import StructSchema.Environment
import StructSchema.Library
import StructSchema.Proofs.Fallible

/-!
# Configurations that break a run off

A configuration that cannot be loaded should be reported. Main statements: it is reported unless the
file is no UTF-8, its reader meets something out of range, an unknown key is no text, a setting has
no text, or the environment's file sets what cannot be set; and each of these breaks the run off
instead.
-/

namespace StructSchema

open Fallible

/-! ### Errors that are not reported -/

/-- The step ends with an error that is not reported. -/
def BreaksOff {α : Type} (x : Except ConfigError α) : Prop :=
  ∃ e, x = .error e ∧ e.isReported = false

section

variable {α β : Type}

theorem not_breaksOff_ok (a : α) : ¬BreaksOff (.ok a) := by
  intro h
  obtain ⟨e, he, -⟩ := h
  cases he

theorem breaksOff_error {e : ConfigError} :
    BreaksOff (.error e : Except ConfigError α) ↔ e.isReported = false := by
  constructor
  · intro h
    obtain ⟨_, he, hunreported⟩ := h
    cases he
    exact hunreported
  · intro h
    exact ⟨e, rfl, h⟩

theorem not_breaksOff_iff {x : Except ConfigError α} :
    ¬BreaksOff x ↔ (∃ a, x = .ok a) ∨ ∃ e, x = .error e ∧ e.isReported = true := by
  cases x with
  | ok a => exact iff_of_true (not_breaksOff_ok a) (.inl ⟨a, rfl⟩)
  | error e => simp [breaksOff_error]

theorem breaksOff_bind {x : Except ConfigError α} {f : α → Except ConfigError β} :
    BreaksOff (x >>= f) ↔ BreaksOff x ∨ ∃ a, x = .ok a ∧ BreaksOff (f a) := by
  cases x with
  | ok a => simp [not_breaksOff_ok]
  | error e => simp [breaksOff_error]

theorem breaksOff_seq {x : Except ConfigError Unit} {y : Except ConfigError β} :
    BreaksOff (do x; y) ↔ BreaksOff x ∨ x = .ok () ∧ BreaksOff y := by
  cases x with
  | ok a => simp [not_breaksOff_ok]
  | error e => simp [breaksOff_error]

theorem breaksOff_forM {f : α → Except ConfigError Unit} {l : List α} :
    BreaksOff (l.forM f) ↔
      ∃ before a after, l = before ++ a :: after ∧ (∀ b ∈ before, f b = .ok ()) ∧
        BreaksOff (f a) := by
  constructor
  · intro h
    obtain ⟨e, he, hunreported⟩ := h
    obtain ⟨before, a, after, hl, hbefore, ha⟩ := forM_eq_error.1 he
    exact ⟨before, a, after, hl, hbefore, e, ha, hunreported⟩
  · intro h
    obtain ⟨before, a, after, hl, hbefore, e, ha, hunreported⟩ := h
    exact ⟨e, forM_eq_error.2 ⟨before, a, after, hl, hbefore, ha⟩, hunreported⟩

end

namespace ScanConfig

variable {entries : List (Value × Value)} {key : Text}

/-! ### Checks of settings -/

theorem checkKeys_eq_ok : checkKeys entries = .ok () ↔ unknownKeys entries = [] := by
  unfold checkKeys
  cases unknownKeys entries with
  | nil => exact iff_of_true rfl rfl
  | cons first rest =>
    simp only [reduceCtorEq, iff_false]
    split <;> nofun

theorem breaksOff_checkKeys :
    BreaksOff (checkKeys entries) ↔ ∃ key ∈ unknownKeys entries, key.string? = none := by
  unfold checkKeys
  rw [← mapM_eq_none]
  cases unknownKeys entries with
  | nil => simp [not_breaksOff_ok]
  | cons first rest =>
    dsimp only
    cases (first :: rest).mapM Value.string? with
    | none => simp [breaksOff_error, ConfigError.isReported]
    | some texts => simp [breaksOff_error, ConfigError.isReported]

theorem not_breaksOff_checkFlag : ¬BreaksOff (checkFlag entries key) := by
  unfold checkFlag
  split
  · exact not_breaksOff_ok ()
  · exact not_breaksOff_ok ()
  · simp [breaksOff_error, ConfigError.isReported]

theorem checkText_eq_ok : checkText entries key = .ok () ↔
    ∀ value, Value.lookup? key entries = some value →
      value.isWritable = true ∧ (key ∈ wordKeys → Text.isWord (strippedText value) = true) := by
  unfold checkText
  cases Value.lookup? key entries with
  | none => exact iff_of_true rfl nofun
  | some value =>
    simp only [Option.some.injEq, forall_eq']
    cases value.isWritable with
    | false => simp
    | true => cases Text.isWord (strippedText value) with
      | false => simp
      | true => simp

theorem breaksOff_checkText :
    BreaksOff (checkText entries key) ↔
      ∃ value, Value.lookup? key entries = some value ∧ value.isWritable = false := by
  unfold checkText
  cases Value.lookup? key entries with
  | none => simp [not_breaksOff_ok]
  | some value =>
    simp only [Option.some.injEq, exists_eq_left']
    cases hwritable : value.isWritable with
    | false => simp [breaksOff_error, ConfigError.isReported]
    | true =>
      simp only [Bool.not_true, Bool.false_eq_true, if_false, Bool.true_eq_false, iff_false]
      split
      · simp [breaksOff_error, ConfigError.isReported]
      · exact not_breaksOff_ok ()

theorem ofEntries_eq_ok {config : ScanConfig} :
    ofEntries entries = .ok config ↔
      unknownKeys entries = [] ∧ (∀ key ∈ flagKeys, checkFlag entries key = .ok ()) ∧
        (∀ key ∈ textKeys, checkText entries key = .ok ()) ∧ settings entries = config := by
  unfold ofEntries
  rw [seq_eq_ok, seq_eq_ok, seq_eq_ok, checkKeys_eq_ok, forM_eq_ok, forM_eq_ok, pure_eq_ok,
    Except.ok.injEq]

/-! ### Files -/

def readText (host : Host) (path : Text) (cs : List Char) : Except ReadFault Value :=
  (if isJsonPath path then Json.parse else host.yaml) (joinBreaks '\r' '\n' false cs)

theorem breaksOff_readValue {host : Host} {path : Text} {content : List UInt8} :
    BreaksOff (readValue host path content) ↔
      (∀ cs, Utf8.decode content ≠ .ok cs) ∨
        ∃ cs, Utf8.decode content = .ok cs ∧ readText host path cs = .error .outOfRange := by
  unfold readValue
  cases Utf8.decode content with
  | error e => simp [breaksOff_error, ConfigError.isReported]
  | ok cs =>
    have hread : (if isJsonPath path = true then Json.parse else host.yaml)
        (joinBreaks '\r' '\n' false cs) = readText host path cs := rfl
    simp only [hread, ne_eq, Except.ok.injEq, forall_eq', false_or, exists_eq_left']
    cases readText host path cs with
    | ok value => simp [not_breaksOff_ok]
    | error fault =>
      cases fault with
      | malformed => simp [breaksOff_error, ConfigError.isReported]
      | outOfRange => simp [breaksOff_error, ConfigError.isReported]

theorem not_breaksOff_entriesOf (value : Value) : ¬BreaksOff (entriesOf value) := by
  unfold entriesOf
  split
  · exact not_breaksOff_ok _
  · exact not_breaksOff_ok _
  · simp [breaksOff_error, ConfigError.isReported]

theorem breaksOff_readEntries {host : Host} {fs : FileSystem} {path : Text} :
    BreaksOff (readEntries host fs path) ↔
      path ≠ [] ∧ ∃ content, fs.read (Path.tidy path) = .ok content ∧
        BreaksOff (readValue host (Path.tidy path) content) := by
  unfold readEntries
  cases path with
  | nil => simp [not_breaksOff_ok]
  | cons c rest =>
    simp only [List.isEmpty_cons, Bool.false_eq_true, if_false, ne_eq, reduceCtorEq,
      not_false_eq_true, true_and]
    cases fs.read (Path.tidy (c :: rest)) with
    | error e => simp [breaksOff_error, ConfigError.isReported]
    | ok content =>
      simp only [breaksOff_bind, not_breaksOff_entriesOf, and_false, exists_false, or_false,
        Except.ok.injEq, exists_eq_left']

end ScanConfig

/-! ### Environments -/

theorem Environment.breaksOff_checkFile {host : Host} {env : Environment} :
    BreaksOff (env.checkFile host) ↔
      ∃ name ∈ (env.fileValues host).map (·.1), ∃ value,
        env.values.lookup name = none ∧ env.fileValue? host name = some value ∧
          isSettable name value = false := by
  have hrefused : ∀ name, ((env.values.lookup name).isNone &&
      (env.fileValue? host name).any fun value => !isSettable name value) = true ↔
      ∃ value, env.values.lookup name = none ∧ env.fileValue? host name = some value ∧
        isSettable name value = false := by
    intro name
    simp only [Bool.and_eq_true, Option.isNone_iff_eq_none, Option.any_eq_true, Bool.not_eq_true',
      exists_and_left]
  simp only [← hrefused]
  unfold checkFile
  dsimp only
  split
  · rename_i name hfound
    have hmem := List.mem_of_find?_eq_some hfound
    have hname := List.find?_some hfound
    exact iff_of_true (breaksOff_error.2 rfl) ⟨name, hmem, hname⟩
  · rename_i hnone
    rw [List.find?_eq_none] at hnone
    refine iff_of_false (not_breaksOff_ok ()) ?_
    intro hsome
    obtain ⟨name, hname, h⟩ := hsome
    exact hnone name hname h

/-! ### The main statements -/

namespace ScanConfig

/-- Why loading a configuration breaks a run off. -/
inductive Unreported (host : Host) (fs : FileSystem) (path : Text)
    (env : Environment) : Prop
  | encoding {content : List UInt8} (hpath : path ≠ [])
    (hread : fs.read (Path.tidy path) = .ok content) (h : ∀ cs, Utf8.decode content ≠ .ok cs)
  | number {content : List UInt8} {cs : List Char} (hpath : path ≠ [])
    (hread : fs.read (Path.tidy path) = .ok content) (hdecode : Utf8.decode content = .ok cs)
    (h : readText host (Path.tidy path) cs = .error .outOfRange)
  | key {entries : List (Value × Value)} {key : Value} 
      (hentries : readEntries host fs path = .ok entries)
    (hkey : key ∈ unknownKeys entries) (h : key.string? = none)
  | text {entries : List (Value × Value)} {before after : List Text} {key : Text} {value : Value}
    (hentries : readEntries host fs path = .ok entries) (hkeys : unknownKeys entries = [])
    (hflags : ∀ flag ∈ flagKeys, checkFlag entries flag = .ok ())
    (hsplit : textKeys = before ++ key :: after)
    (hbefore : ∀ earlier ∈ before, checkText entries earlier = .ok ())
    (hvalue : Value.lookup? key entries = some value) (h : value.isWritable = false)
  | environment {entries : List (Value × Value)} {config : ScanConfig} {name value : Text}
    (hentries : readEntries host fs path = .ok entries) (hconfig : ofEntries entries = .ok config)
    (hname : name ∈ (env.fileValues host).map (·.1))
    (hunset : env.values.lookup name = none) (hvalue : env.fileValue? host name = some value)
    (h : Environment.isSettable name value = false)

variable {host : Host} {fs : FileSystem} {path : Text} {env : Environment}

theorem breaksOff_ofEntries {entries : List (Value × Value)} :
    BreaksOff (ofEntries entries) ↔
      (∃ key ∈ unknownKeys entries, key.string? = none) ∨
        unknownKeys entries = [] ∧ (∀ flag ∈ flagKeys, checkFlag entries flag = .ok ()) ∧
          ∃ before key after, textKeys = before ++ key :: after ∧
            (∀ earlier ∈ before, checkText entries earlier = .ok ()) ∧
              ∃ value, Value.lookup? key entries = some value ∧ value.isWritable = false := by
  have hsettings : ¬BreaksOff (pure (settings entries)) := not_breaksOff_ok _
  unfold ofEntries
  rw [breaksOff_seq, breaksOff_seq, breaksOff_seq, breaksOff_checkKeys, checkKeys_eq_ok,
    forM_eq_ok]
  simp only [breaksOff_forM, not_breaksOff_checkFlag, breaksOff_checkText, hsettings, and_false,
    exists_const, false_or, or_false]

theorem breaksOff_load : BreaksOff (load host fs path env) ↔ Unreported host fs path env := by
  have happly : ∀ config, BreaksOff (do env.checkFile host; return env.apply host config) ↔
      BreaksOff (env.checkFile host) := by
    intro config
    have hlast : ¬BreaksOff (pure (env.apply host config)) := not_breaksOff_ok _
    rw [breaksOff_seq, or_iff_left fun h => hlast h.2]
  unfold load
  rw [breaksOff_bind]
  simp only [@breaksOff_bind _ _ (ofEntries _), happly]
  constructor
  · intro h
    rcases h with hread | ⟨entries, hentries, hsettings | ⟨config, hconfig, henv⟩⟩
    · obtain ⟨hpath, content, hread, hvalue⟩ := breaksOff_readEntries.1 hread
      rcases breaksOff_readValue.1 hvalue with hdecode | ⟨cs, hdecode, hnumber⟩
      · exact .encoding hpath hread hdecode
      · exact .number hpath hread hdecode hnumber
    · rcases breaksOff_ofEntries.1 hsettings with ⟨key, hkey, hno⟩ | ⟨hkeys, hflags, hrest⟩
      · exact .key hentries hkey hno
      · obtain ⟨before, key, after, hsplit, hbefore, value, hvalue, hno⟩ := hrest
        exact .text hentries hkeys hflags hsplit hbefore hvalue hno
    · obtain ⟨name, hname, value, hunset, hvalue, hno⟩ := Environment.breaksOff_checkFile.1 henv
      exact .environment hentries hconfig hname hunset hvalue hno
  · intro h
    cases h with
    | encoding hpath hread hdecode =>
      exact .inl (breaksOff_readEntries.2
        ⟨hpath, _, hread, breaksOff_readValue.2 (.inl hdecode)⟩)
    | number hpath hread hdecode hnumber =>
      exact .inl (breaksOff_readEntries.2
        ⟨hpath, _, hread, breaksOff_readValue.2 (.inr ⟨_, hdecode, hnumber⟩)⟩)
    | key hentries hkey hno =>
      exact .inr ⟨_, hentries, .inl (breaksOff_ofEntries.2 (.inl ⟨_, hkey, hno⟩))⟩
    | text hentries hkeys hflags hsplit hbefore hvalue hno =>
      exact .inr ⟨_, hentries, .inl (breaksOff_ofEntries.2
        (.inr ⟨hkeys, hflags, _, _, _, hsplit, hbefore, _, hvalue, hno⟩))⟩
    | environment hentries hconfig hname hunset hvalue hno =>
      exact .inr ⟨_, hentries, .inr ⟨_, hconfig, Environment.breaksOff_checkFile.2
        ⟨_, hname, _, hunset, hvalue, hno⟩⟩⟩

/-- A configuration is loaded or its error is reported, except for these reasons. -/
theorem load_reported_iff :
    ((∃ config, load host fs path env = .ok config) ∨
      ∃ e, load host fs path env = .error e ∧ e.isReported = true) ↔
        ¬Unreported host fs path env := by
  rw [← not_breaksOff_iff, breaksOff_load]

/-- A key that is a date is no text, and breaks the run off when it is listed among the unknown
ones. -/
example :
    let dated := Value.object "2001-01-01" "datetime.date(2001, 1, 1)" true true
    let fs : FileSystem := { root := .directory [("c.yaml", .file [])] }
    load { Host.library with yaml := fun _ => .ok (.mapping [(dated, .int 1)]) } fs "c.yaml" {} =
      .error .keyNotText := rfl

/-- A file system with a configuration that is one byte outside UTF-8. -/
def garbled : FileSystem where
  root := .directory [("c.yaml", .file [0xFF])]

/-- Not every configuration that cannot be loaded is reported. -/
theorem not_forall_load_reported :
    ¬∀ (fs : FileSystem) (path : Text) (env : Environment),
      (∃ config, load .library fs path env = .ok config) ∨
        ∃ e, load .library fs path env = .error e ∧ e.isReported = true := by
  intro h
  have hunreported : Unreported .library garbled "c.yaml" {} := by
    refine .encoding (by decide) rfl ?_
    intro cs hcs
    cases hcs
  exact not_breaksOff_iff.2 (h garbled "c.yaml" {}) (breaksOff_load.2 hunreported)

end ScanConfig

end StructSchema
