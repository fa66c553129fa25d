import NCBlock.Tool.Config

/-!
Where settings come from. At most one file is looked into: the one that is asked
for, or the first candidate that is a file, whatever stands behind it. Over the
defaults lies what is set in this file, and over both what is given on the
command line, each setting for itself.
-/

namespace NCBlock

/-! ### The file that is used -/

/-- What comes of looking into a file. -/
inductive Files.Loads (files : Files) (path : Text) :
    Except ConfigError (Option (Text × FileSettings)) → Prop
  | unreadable : files.read path = none → Loads files path (.error (.unreadable path))
  | malformed {document : Text} {e : ConfigError} : files.read path = some document →
      FileSettings.ofText document = .error e → Loads files path (.error (.malformed path))
  | settings {document : Text} {s : FileSettings} : files.read path = some document →
      FileSettings.ofText document = .ok s → Loads files path (.ok (some (path, s)))

namespace FileSettings

variable {files files' : Files} {path : Text} {candidates before after : List Text}

/-- The settings of a file, with its path. -/
def loaded (files : Files) (path : Text) : Except ConfigError (Option (Text × FileSettings)) :=
  (load files path).map fun s => some (path, s)

theorem loads_loaded (files : Files) (path : Text) : files.Loads path (loaded files path) := by
  cases hread : files.read path with
  | none =>
      rw [loaded, load, hread]
      exact .unreadable hread
  | some document =>
      cases hsettings : ofText document with
      | error e =>
          simp only [loaded, load, hread, hsettings]
          exact .malformed hread hsettings
      | ok s =>
          simp only [loaded, load, hread, hsettings]
          exact .settings hread hsettings

theorem loaded_eq_iff {result : Except ConfigError (Option (Text × FileSettings))} :
    loaded files path = result ↔ files.Loads path result := by
  constructor
  · rintro rfl
    exact loads_loaded files path
  · intro h
    cases h with
    | unreadable hread =>
        rw [loaded, load, hread]
        rfl
    | malformed hread hsettings =>
        simp only [loaded, load, hread, hsettings]
        rfl
    | settings hread hsettings =>
        simp only [loaded, load, hread, hsettings]
        rfl

theorem loaded_ne_ok_none (files : Files) (path : Text) : loaded files path ≠ .ok none := by
  intro h
  cases loaded_eq_iff.1 h

theorem loaded_congr (h : files.read path = files'.read path) :
    loaded files path = loaded files' path := by
  rw [loaded, loaded, load, load, h]

theorem discover_some (files : Files) (path : Text) (candidates : List Text) :
    discover files (some path) candidates = loaded files path := rfl

theorem discover_none_eq (files : Files) (candidates : List Text) :
    discover files none candidates =
      (candidates.find? files.isFile).elim (.ok none) (loaded files) := by
  rw [discover, Option.none_or]
  cases candidates.find? files.isFile <;> rfl

/-- What stands behind the first file is not looked at. -/
theorem discover_of_first (hbefore : ∀ c ∈ before, files.isFile c = false)
    (hpath : files.isFile path = true) :
    discover files none (before ++ path :: after) = loaded files path := by
  have hmissed : before.find? files.isFile = none :=
    List.find?_eq_none.2 fun c hc => by simp [hbefore c hc]
  rw [discover_none_eq, List.find?_append, hmissed, Option.none_or, List.find?_cons_of_pos hpath,
    Option.elim_some]

theorem discover_eq_ok_none_iff :
    discover files none candidates = .ok none ↔ ∀ c ∈ candidates, files.isFile c = false := by
  rw [discover_none_eq]
  cases hfound : candidates.find? files.isFile with
  | none =>
      have hmissed := List.find?_eq_none.1 hfound
      simpa using hmissed
  | some path =>
      refine iff_of_false (loaded_ne_ok_none files path) fun hall => ?_
      have hmissed := hall path (List.mem_of_find?_eq_some hfound)
      rw [List.find?_some hfound] at hmissed
      cases hmissed

end FileSettings

/-! ### The layers of a setting -/

/-- A setting is what is given on the command line, else what is set in the file,
else the default. -/
inductive Settles {α : Type} (given set : Option α) (default : α) : α → Prop
  | given {v : α} : given = some v → Settles given set default v
  | set {v : α} : given = none → set = some v → Settles given set default v
  | default : given = none → set = none → Settles given set default default

theorem settles_getD {α : Type} (given set : Option α) (default : α) :
    Settles given set default ((given.or set).getD default) := by
  cases given with
  | some v => exact .given rfl
  | none =>
      cases set with
      | some v => exact .set rfl rfl
      | none => exact .default rfl rfl

/-- The configuration for a command line and the file that is used, if there is one. -/
structure Config.IsLayered (c : Config) (arguments : Arguments)
    (file : Option (Text × FileSettings)) : Prop where
  format : Settles arguments.command.givenFormat (file.bind (·.2.format)) Block.fullFormat c.format
  requireChecksum : Settles arguments.command.givenRequireChecksum
    (file.bind (·.2.requireChecksum)) false c.requireChecksum
  mode : Settles arguments.command.givenMode (file.bind (·.2.mode)) .keep c.mode
  logLevel : c.logLevel = arguments.logLevel
  source : c.source = file.map (·.1)

namespace Command

/-! ### What a command line gives -/

variable {command : Command}

theorem givenFormat_eq_some_iff {f : Text} :
    command.givenFormat = some f ↔ ∃ path mode, command = .format path (some f) mode := by
  cases command <;> simp [givenFormat]

theorem givenMode_eq_some_iff {m : ChecksumMode} :
    command.givenMode = some m ↔ ∃ path format, command = .format path format (some m) := by
  cases command <;> simp [givenMode]

theorem givenRequireChecksum_eq_some_iff {v : Bool} :
    command.givenRequireChecksum = some v ↔ v = true ∧ ∃ paths, command = .check paths true := by
  cases command with
  | check paths required => cases required <;> simp [givenRequireChecksum, eq_comm]
  | _ => simp [givenRequireChecksum]

/-- The settings that a command line gives. -/
def given (command : Command) : FileSettings :=
  ⟨command.givenFormat, command.givenRequireChecksum, command.givenMode⟩

end Command

namespace Config

/-! ### One layer over another -/

def defaults : Config := ⟨Block.fullFormat, false, .keep, "warn".toList, none⟩

/-- Puts settings over a configuration, which shows where they have nothing. -/
def under (c : Config) (s : FileSettings) : Config :=
  { c with
    format := s.format.getD c.format
    requireChecksum := s.requireChecksum.getD c.requireChecksum
    mode := s.mode.getD c.mode }

theorem layered_eq_under (arguments : Arguments) (file : Option (Text × FileSettings)) :
    layered arguments file =
      { (defaults.under ((file.map (·.2)).getD .empty)).under arguments.command.given with
        logLevel := arguments.logLevel
        source := file.map (·.1) } := by
  have hlayers {α : Type} (given set : Option α) (default : α) :
      (given.or set).getD default = given.getD (set.getD default) := by
    cases given <;> rfl
  simp only [layered, hlayers]
  rfl

theorem isLayered_layered (arguments : Arguments) (file : Option (Text × FileSettings)) :
    (layered arguments file).IsLayered arguments file := by
  have hset {α : Type} (key : FileSettings → Option α) (hempty : key .empty = none) :
      key ((file.map (·.2)).getD .empty) = file.bind fun f => key f.2 := by
    cases file with
    | none => exact hempty
    | some f => rfl
  refine ⟨?_, ?_, ?_, rfl, rfl⟩
  · rw [← hset FileSettings.format rfl]
    exact settles_getD _ _ _
  · rw [← hset FileSettings.requireChecksum rfl]
    exact settles_getD _ _ _
  · rw [← hset FileSettings.mode rfl]
    exact settles_getD _ _ _

open FileSettings

/-- One file is used at most. A file that is asked for stands alone, and so does
the first candidate that is a file: the others may come and go, and a fault in
the one that is used is not passed over. Its settings lie under those of the
command line and over the defaults, each on its own. -/
theorem layered_over_first_file :
    (∀ files path candidates result,
      discover files (some path) candidates = result ↔ files.Loads path result) ∧
    (∀ files candidates,
      discover files none candidates = .ok none ↔ ∀ c ∈ candidates, files.isFile c = false) ∧
    (∀ files before path after, (∀ c ∈ before, files.isFile c = false) →
      files.isFile path = true → ∀ result,
        discover files none (before ++ path :: after) = result ↔ files.Loads path result) ∧
    (∀ files files' path, files.read path = files'.read path →
      (∀ candidates candidates',
        discover files (some path) candidates = discover files' (some path) candidates') ∧
      ∀ before before' after after',
        (∀ c ∈ before, files.isFile c = false) → files.isFile path = true →
        (∀ c ∈ before', files'.isFile c = false) → files'.isFile path = true →
        discover files none (before ++ path :: after) =
          discover files' none (before' ++ path :: after')) ∧
    (∀ files user arguments, ofArguments files user arguments =
      (discover files arguments.config (locations user)).map (layered arguments)) ∧
    (∀ arguments file, (layered arguments file).IsLayered arguments file ∧
      layered arguments file =
        { (defaults.under ((file.map (·.2)).getD .empty)).under arguments.command.given with
          logLevel := arguments.logLevel
          source := file.map (·.1) }) ∧
    ∀ command : Command,
      (∀ f, command.givenFormat = some f ↔ ∃ path mode, command = .format path (some f) mode) ∧
      (∀ m, command.givenMode = some m ↔ ∃ path format, command = .format path format (some m)) ∧
      ∀ v, command.givenRequireChecksum = some v ↔
        v = true ∧ ∃ paths, command = .check paths true := by
  refine ⟨fun files path candidates result => ?_, fun _ _ => discover_eq_ok_none_iff,
    fun files before path after hbefore hpath result => ?_,
    fun files files' path hread => ⟨fun candidates candidates' => ?_,
      fun before before' after after' hbefore hpath hbefore' hpath' => ?_⟩,
    fun _ _ _ => rfl,
    fun arguments file => ⟨isLayered_layered arguments file, layered_eq_under arguments file⟩,
    fun command => ⟨fun _ => Command.givenFormat_eq_some_iff,
      fun _ => Command.givenMode_eq_some_iff, fun _ => Command.givenRequireChecksum_eq_some_iff⟩⟩
  · rw [discover_some, loaded_eq_iff]
  · rw [discover_of_first hbefore hpath, loaded_eq_iff]
  · rw [discover_some, discover_some, loaded_congr hread]
  · rw [discover_of_first hbefore hpath, discover_of_first hbefore' hpath', loaded_congr hread]

/-- The first of the files is broken, and the second one is not used in its place. -/
def brokenTree : FileTree :=
  ⟨[(["b".toList], Text.utf8 "checksum = \"sometimes\"".toList),
    (["c".toList], Text.utf8 "format = \"%c\"".toList)]⟩

theorem layered_over_first_file_broken :
    (brokenTree.files.isFile "a".toList = false ∧ brokenTree.files.isFile "b".toList = true ∧
      brokenTree.files.Loads "b".toList (.error (.malformed "b".toList)) ∧
      discover brokenTree.files none ["a".toList, "b".toList, "c".toList] =
        .error (.malformed "b".toList)) ∧
    discover brokenTree.files none ["a".toList, "b".toList, "c".toList] =
      discover (FileTree.files ⟨brokenTree.entries.take 1⟩) none ["a".toList, "b".toList] := by
  have hbefore : ∀ c ∈ ["a".toList], brokenTree.files.isFile c = false := by decide +kernel
  have hpath : brokenTree.files.isFile "b".toList = true := by decide +kernel
  have hread : brokenTree.files.read "b".toList = some "checksum = \"sometimes\"".toList := by
    decide +kernel
  have hbroken : (ofText "checksum = \"sometimes\"".toList).toOption = none := by decide +kernel
  have hloads : brokenTree.files.Loads "b".toList (.error (.malformed "b".toList)) := by
    cases hsettings : ofText "checksum = \"sometimes\"".toList with
    | error e => exact .malformed hread hsettings
    | ok s =>
        rw [hsettings] at hbroken
        cases hbroken
  obtain ⟨-, -, hfirst, hother, -⟩ := layered_over_first_file
  refine ⟨⟨hbefore _ (by decide), hpath, hloads,
    (hfirst brokenTree.files _ _ ["c".toList] hbefore hpath _).2 hloads⟩, ?_⟩
  exact (hother brokenTree.files (FileTree.files ⟨brokenTree.entries.take 1⟩) "b".toList
    (by decide +kernel)).2 ["a".toList] ["a".toList] ["c".toList] [] hbefore hpath
      (by decide +kernel) (by decide +kernel)

end Config

end NCBlock
