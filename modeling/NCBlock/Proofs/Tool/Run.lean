import NCBlock.Proofs.Document.Validation
import NCBlock.Tool.Run

/-!
What a command leaves behind. All commands but a check write in one piece, after
everything that can fail, so a failure leaves nothing. A check writes as it goes
from file to file: a file that cannot be read ends it, and what was found before
stays written.
-/

namespace NCBlock

variable {files : Files} {config : Config}

/-! ### Commands that write in one piece -/

namespace Command

def isCheck : Command → Bool
  | .check _ _ => true
  | _ => false

/-- Why a command that writes in one piece fails. -/
inductive Fails (files : Files) (config : Config) : Command → Failure → Prop
  | parse {line : Text} {json : Bool} {e : Error} : Block.parse line = .error e →
      Fails files config (.parse line json) (.block e)
  | checksum {line : Text} {e : Error} : Block.parse line = .error e →
      Fails files config (.checksum line) (.block e)
  | unreadable {path : Text} {format : Option Text} {mode : Option ChecksumMode} :
      files.read path = none → Fails files config (.format path format mode) (.unreadable path)
  | format {path document : Text} {format : Option Text} {mode : Option ChecksumMode}
      {e : LineError} : files.read path = some document →
      Document.format config.format config.mode document = .error e →
      Fails files config (.format path format mode) (.line e)

theorem run_of_fails {command : Command} {f : Failure} (h : command.Fails files config f) :
    command.run files config = .failed f := by
  cases h with
  | parse hparse => rw [run, hparse, Outcome.ofBlock]
  | checksum hparse => rw [run, hparse, Outcome.ofBlock]
  | unreadable hread => rw [run, formatFile, hread]
  | format hread herror => simp only [run, formatFile, hread, herror]

theorem run_cases (files : Files) (config : Config) {command : Command}
    (h : command.isCheck = false) :
    (∃ f, command.Fails files config f) ∨
      ∃ output, command.run files config = .written output := by
  cases command with
  | check paths required => cases h
  | parse line json =>
      cases hparse : Block.parse line with
      | error e => exact .inl ⟨_, .parse hparse⟩
      | ok b => exact .inr ⟨_, by rw [run, hparse, Outcome.ofBlock]⟩
  | checksum line =>
      cases hparse : Block.parse line with
      | error e => exact .inl ⟨_, .checksum hparse⟩
      | ok b => exact .inr ⟨_, by rw [run, hparse, Outcome.ofBlock]⟩
  | format path format mode =>
      cases hread : files.read path with
      | none => exact .inl ⟨_, .unreadable hread⟩
      | some document =>
          cases hformat : Document.format config.format config.mode document with
          | error e => exact .inl ⟨_, .format hread hformat⟩
          | ok output => exact .inr ⟨output, by simp only [run, formatFile, hread, hformat]⟩

theorem fails_iff {command : Command} (h : command.isCheck = false) {f : Failure} :
    (command.run files config).result = .error f ↔ command.Fails files config f := by
  constructor
  · intro hresult
    rcases run_cases files config h with ⟨g, hg⟩ | ⟨output, houtput⟩
    · rw [run_of_fails hg] at hresult
      cases hresult
      exact hg
    · rw [houtput] at hresult
      cases hresult
  · intro hfails
    rw [run_of_fails hfails]
    rfl

end Command

/-! ### Checks -/

/-- What a check finds in a file. -/
def Files.diagnostics (files : Files) (requireChecksum : Bool) (path : Text) : List Diagnostic :=
  (files.read path).elim [] fun document => (Document.validate requireChecksum document).diagnostics

/-- The records of a file, one for each diagnostic. -/
def Files.records (files : Files) (requireChecksum : Bool) (path : Text) : List Text :=
  (files.diagnostics requireChecksum path).map (·.record path)

/-- No error is found in a file, though there may be warnings. -/
def Files.isClean (files : Files) (requireChecksum : Bool) (path : Text) : Bool :=
  (files.diagnostics requireChecksum path).all (·.severity ≠ .error)

variable {requireChecksum : Bool} {path : Text}

theorem Files.isClean_iff : files.isClean requireChecksum path = true ↔
    ∀ x ∈ files.diagnostics requireChecksum path, x.severity ≠ .error := by
  simp [isClean]

/-- The lines of the records of one file rise. -/
theorem Files.increasing_diagnostics (files : Files) (requireChecksum : Bool) (path : Text) :
    ((files.diagnostics requireChecksum path).map Diagnostic.line).Pairwise (· < ·) := by
  rw [diagnostics]
  cases files.read path with
  | none => exact .nil
  | some document => exact (Document.describes_validateLines requireChecksum 1 _).increasing

theorem checkFiles_cons_of_none (h : files.read path = none) (paths : List Text) :
    checkFiles files requireChecksum (path :: paths) = .failed (.unreadable path) := by
  rw [checkFiles, h]

theorem checkFiles_cons_of_some {document : Text} (h : files.read path = some document)
    (paths : List Text) :
    checkFiles files requireChecksum (path :: paths) =
      ⟨(files.records requireChecksum path).flatten ++
          (checkFiles files requireChecksum paths).output,
        (checkFiles files requireChecksum paths).result.map
          (files.isClean requireChecksum path && ·)⟩ := by
  have hrecords : (files.records requireChecksum path).flatten =
      (Document.validate requireChecksum document).records path := by
    rw [Files.records, Files.diagnostics, h, Report.records, List.flatMap_def]
    rfl
  have hclean : files.isClean requireChecksum path =
      (Document.validate requireChecksum document).isValid := by
    rw [Files.isClean, Files.diagnostics, h]
    rfl
  rw [checkFiles, h, hrecords, hclean]

/-- A check goes on from readable files to the others, and carries along what it
has written and whether it has found an error. -/
theorem checkFiles_append (requireChecksum : Bool) {before : List Text}
    (h : ∀ path ∈ before, files.read path ≠ none) (rest : List Text) :
    checkFiles files requireChecksum (before ++ rest) =
      ⟨(before.flatMap (files.records requireChecksum)).flatten ++
          (checkFiles files requireChecksum rest).output,
        (checkFiles files requireChecksum rest).result.map
          (before.all (files.isClean requireChecksum) && ·)⟩ := by
  induction before with
  | nil =>
      rw [List.nil_append]
      cases checkFiles files requireChecksum rest with
      | mk output result => cases result <;> simp [Except.map]
  | cons path before ih =>
      obtain ⟨hpath, hbefore⟩ := List.forall_mem_cons.1 h
      obtain ⟨document, hread⟩ := Option.ne_none_iff_exists'.1 hpath
      rw [List.cons_append, checkFiles_cons_of_some hread, ih hbefore, List.flatMap_cons,
        List.flatten_append, List.append_assoc, List.all_cons]
      cases (checkFiles files requireChecksum rest).result with
      | error f => rfl
      | ok found => simp [Except.map, Bool.and_assoc]

namespace Command

variable {paths before after : List Text} {required : Bool}

theorem run_check_of_unreadable (hbefore : ∀ p ∈ before, files.read p ≠ none)
    (hpath : files.read path = none) :
    (check (before ++ path :: after) required).run files config =
      ⟨(before.flatMap (files.records config.requireChecksum)).flatten,
        .error (.unreadable path)⟩ := by
  rw [run, checkFiles_append _ hbefore, checkFiles_cons_of_none hpath, Outcome.failed,
    List.append_nil]
  rfl

theorem run_check_of_readable (h : ∀ p ∈ paths, files.read p ≠ none) :
    (check paths required).run files config =
      ⟨(paths.flatMap (files.records config.requireChecksum)).flatten,
        .ok (paths.all (files.isClean config.requireChecksum))⟩ := by
  have hall := checkFiles_append config.requireChecksum h []
  rw [List.append_nil] at hall
  rw [run, hall, checkFiles, Outcome.written, List.append_nil]
  simp [Except.map]

/-- A command that fails has written nothing, except for a check, which has then
written the records of the files before the one that it cannot read. A check
that reads all files writes the records of all, in the order of the files and
of their lines, and reports whether there is no error among them. -/
theorem error_iff_fails_and_check_writes_records (files : Files) (config : Config) :
    (∀ command : Command, command.isCheck = false → ∀ f,
      ((command.run files config).result = .error f ↔ command.Fails files config f) ∧
        ((command.run files config).result = .error f →
          (command.run files config).output = [])) ∧
    (∀ required before path after, (∀ p ∈ before, files.read p ≠ none) →
      files.read path = none →
      ((check (before ++ path :: after) required).run files config).output =
          (before.flatMap (files.records config.requireChecksum)).flatten ∧
        ∃ f, ((check (before ++ path :: after) required).run files config).result = .error f ∧
          f.message = "Failed to read ".toList ++ path) ∧
    (∀ required paths, (∀ p ∈ paths, files.read p ≠ none) →
      ((check paths required).run files config).output =
          (paths.flatMap (files.records config.requireChecksum)).flatten ∧
        ∃ v, ((check paths required).run files config).result = .ok v ∧
          (v = true ↔ ∀ p ∈ paths, ∀ x ∈ files.diagnostics config.requireChecksum p,
            x.severity ≠ .error)) ∧
    ∀ path, ((files.diagnostics config.requireChecksum path).map Diagnostic.line).Pairwise
      (· < ·) := by
  refine ⟨fun command h f => ⟨fails_iff h, fun hresult => ?_⟩, ?_, ?_, ?_⟩
  · rw [run_of_fails ((fails_iff h).1 hresult)]
    rfl
  · intro required before path after hbefore hpath
    rw [run_check_of_unreadable hbefore hpath]
    exact ⟨rfl, _, rfl, rfl⟩
  · intro required paths h
    rw [run_check_of_readable h]
    refine ⟨rfl, _, rfl, ?_⟩
    rw [List.all_eq_true]
    exact forall₂_congr fun p _ => Files.isClean_iff
  · exact files.increasing_diagnostics config.requireChecksum

/-- A document of three lines beside a file that is no text. -/
def mixedTree : FileTree :=
  ⟨[(["a".toList], Text.utf8 "N3 T0*1\nG1 .\nG28".toList), (["b".toList], [0x47, 0xFF])]⟩

def strictConfig : Config := ⟨Block.fullFormat, true, .keep, [], none⟩

/-- The check ends at the second file, and the formatting at the second line of the first. -/
theorem error_iff_fails_and_check_writes_records_mixed_tree :
    (mixedTree.files.read "b".toList = none ∧
      ((check ["a".toList, "b".toList, "a".toList] false).run mixedTree.files strictConfig).output =
        ("a:1: error: checksum mismatch: stored *1, computed *57\n".toList ++
          "a:2: error: undefined symbols '.'\n".toList ++
          "a:3: warning: block has no checksum\n".toList) ∧
      ∃ f, ((check ["a".toList, "b".toList, "a".toList] false).run mixedTree.files
          strictConfig).result = .error f ∧ f.message = "Failed to read b".toList) ∧
    Fails mixedTree.files strictConfig (format "a".toList none none)
        (.line ⟨2, .undefinedSymbols ['.']⟩) ∧
      ((format "a".toList none none).run mixedTree.files strictConfig).output = [] := by
  have hfirst : mixedTree.files.read "a".toList = some "N3 T0*1\nG1 .\nG28".toList := by
    decide +kernel
  have hsecond : mixedTree.files.read "b".toList = none := by decide +kernel
  have hbefore : ∀ p ∈ ["a".toList], mixedTree.files.read p ≠ none := by
    intro p hp
    rw [List.mem_singleton.1 hp, hfirst]
    exact Option.some_ne_none _
  have hfails : Fails mixedTree.files strictConfig (format "a".toList none none)
      (.line ⟨2, .undefinedSymbols ['.']⟩) := .format hfirst (by decide +kernel)
  obtain ⟨hwhole, hstopped, -, -⟩ :=
    error_iff_fails_and_check_writes_records mixedTree.files strictConfig
  obtain ⟨houtput, hmessage⟩ := hstopped false ["a".toList] "b".toList ["a".toList] hbefore hsecond
  obtain ⟨hresult, hempty⟩ := hwhole (format "a".toList none none) rfl
    (.line ⟨2, .undefinedSymbols ['.']⟩)
  refine ⟨⟨hsecond, houtput.trans ?_, hmessage⟩, hfails, hempty (hresult.2 hfails)⟩
  rw [List.flatMap_singleton, Files.records, Files.diagnostics, hfirst]
  decide +kernel

end Command

end NCBlock
