import Mathlib
import DebugTables.CommandLine
import DebugTables.Proofs.SourceMap.RoundTrip
import DebugTables.Proofs.Text.Numeral

/-! The command line treats files one by one. A run prints the reports that the runs on its files
alone print. A map in its canonical form is a file that answers as the first one does. Words say
nothing that arguments do not say: all arguments that name a file can be written in words, and words
that are accepted do what their arguments do. -/

namespace DebugTables.CommandLine

open Numeral

theorem unsigned?_encode_decimal (line : UInt32) :
    lineNumber?.unsigned? (Utf8.encode (decimal line.toNat)) = some line := by
  have digits : Utf8.encode (decimal line.toNat) ≠ [] ∧
      (Utf8.encode (decimal line.toNat)).all Token.isDigit :=
    ⟨encode_decimal_ne_nil _, List.all_eq_true.mpr fun _ => isDigit_of_mem_encode_decimal⟩
  rw [lineNumber?.unsigned?, if_pos digits, Word.ofNat?_eq_some_iff, digitsValue_encode_decimal]

/-- No sign opens a numeral. -/
theorem lineNumber?_decimal (line : UInt32) : lineNumber? (decimal line.toNat) = some line := by
  have unsigned := unsigned?_encode_decimal line
  have digits : ∀ byte ∈ Utf8.encode (decimal line.toNat), Token.isDigit byte = true :=
    fun _ => isDigit_of_mem_encode_decimal
  unfold lineNumber?
  split
  · next same =>
    rw [same] at digits
    exact absurd (digits _ List.mem_cons_self) (by decide)
  · next same =>
    rw [same] at digits
    exact absurd (digits _ List.mem_cons_self) (by decide)
  · exact unsigned

namespace Arguments

variable {arguments : Arguments} {rest : List String}

/-- Words that stand for the arguments. The files come last, after a double dash. -/
def words (arguments : Arguments) : List String :=
  arguments.stratum.toList.map ("--stratum=" ++ ·) ++
    arguments.lines.map (fun line => "--line=" ++ decimal line.toNat) ++
    (if arguments.canonical then ["--canonical"] else []) ++ "--" :: arguments.files

/-- The same options with one file only. -/
def alone (arguments : Arguments) (file : String) : Arguments :=
  { arguments with files := [file] }

theorem inlineValue?_append (option value : String) :
    inlineValue? option (option ++ "=" ++ value) = some value := by
  simp [inlineValue?]

/-- A word with an equals sign gives an option its value or is a file. -/
theorem add?_assigning {word : String} (assigns : '=' ∈ word.toList) :
    arguments.add? (word :: rest) =
      match inlineValue? "--stratum" word, inlineValue? "--line" word with
      | some value, _ => (arguments.addStratum? value).bind (·.add? rest)
      | none, some value => (arguments.addLine? value).bind (·.add? rest)
      | none, none => if isOption word then none else (arguments.addFile word).add? rest := by
  have bare {option : String} (plain : '=' ∉ option.toList) : word ≠ option :=
    fun same => plain (same ▸ assigns)
  rw [add?.eq_def]
  dsimp only
  rw [if_neg (bare (by decide)), if_neg (bare (by decide)), if_neg (bare (by decide)),
    if_neg (bare (by decide))]
  rfl

theorem add?_stratum (name : String) : arguments.add? (("--stratum=" ++ name) :: rest) =
    (arguments.addStratum? name).bind (·.add? rest) := by
  have inline : inlineValue? "--stratum" ("--stratum=" ++ name) = some name :=
    inlineValue?_append "--stratum" name
  rw [add?_assigning (by simp), inline]

theorem add?_line (text : String) : arguments.add? (("--line=" ++ text) :: rest) =
    (arguments.addLine? text).bind (·.add? rest) := by
  have inline : inlineValue? "--line" ("--line=" ++ text) = some text :=
    inlineValue?_append "--line" text
  have other : inlineValue? "--stratum" ("--line=" ++ text) = none := by simp [inlineValue?]
  rw [add?_assigning (by simp), inline, other]

theorem add?_lines (lines : List UInt32) :
    arguments.add? (lines.map (fun line => "--line=" ++ decimal line.toNat) ++ rest) =
      { arguments with lines := arguments.lines ++ lines }.add? rest := by
  induction lines generalizing arguments with
  | nil => simp
  | cons line lines ih =>
    rw [List.map_cons, List.cons_append, add?_line, addLine?, lineNumber?_decimal, Option.map_some,
      Option.bind_some, ih, List.append_assoc]
    rfl

theorem foldl_addFile (files : List String) : files.foldl addFile arguments =
    { arguments with files := arguments.files ++ files } := by
  induction files generalizing arguments with
  | nil => simp
  | cons file files ih =>
    rw [List.foldl_cons, ih, addFile, List.append_assoc]
    rfl

theorem add?_files (files : List String) : arguments.add? ("--" :: files) =
    some { arguments with files := arguments.files ++ files } := by
  rw [add?.eq_def, ← foldl_addFile]
  rfl

theorem add?_words (arguments : Arguments) : empty.add? arguments.words = some arguments := by
  obtain ⟨files, stratum, lines, canonical⟩ := arguments
  -- A stratum can only be added where there is none yet, so it comes first.
  have options (stratum : Option String) : add? ⟨[], stratum, [], false⟩
      (lines.map (fun line => "--line=" ++ decimal line.toNat) ++
        ((if canonical then ["--canonical"] else []) ++ "--" :: files)) =
      some ⟨files, stratum, lines, canonical⟩ := by
    rw [add?_lines]
    cases canonical with
    | false => exact add?_files files
    | true =>
      rw [add?.eq_def]
      exact add?_files files
  cases stratum with
  | none => simpa [words, empty] using options none
  | some name => simpa [words, empty, add?_stratum, addStratum?] using options (some name)

theorem ofWords?_words (named : arguments.files ≠ []) :
    ofWords? arguments.words = some arguments := by
  rw [ofWords?, add?_words]
  exact if_neg named

theorem files_ne_nil_of_ofWords? {words : List String}
    (accepted : ofWords? words = some arguments) : arguments.files ≠ [] := by
  obtain ⟨added, -, checked⟩ := Option.bind_eq_some_iff.mp accepted
  split at checked
  · cases checked
  · next named =>
    cases checked
    exact named

end Arguments

/-- The file is missing or holds no source map. -/
def Fails (contents : String → Option Bytes) (file : String) : Prop :=
  contents file = none ∨
    ∃ payload fault, contents file = some payload ∧ SourceMap.parse payload = .error fault

section run

variable {arguments : Arguments} {contents : String → Option Bytes} {file : String}
  {payload : Bytes} {map : SourceMap}

theorem report?_of_parse (held : contents file = some payload)
    (read : SourceMap.parse payload = .ok map) :
    report? arguments (contents file) = some (describe arguments map) := by
  rw [report?, held, Option.bind_eq_bind, Option.bind_some, read]
  rfl

theorem report?_eq_none_iff : report? arguments (contents file) = none ↔ Fails contents file := by
  cases held : contents file with
  | none => simp [report?, Fails, held]
  | some payload =>
    cases read : SourceMap.parse payload with
    | error fault => simp [report?, Fails, held, read, Except.toOption]
    | ok map => simp [report?, Fails, held, read, Except.toOption]

/-- A run on one file prints its report, if there is one. -/
theorem run_alone : run (arguments.alone file) contents =
    match report? arguments (contents file) with
    | some text => ⟨0, text⟩
    | none => ⟨1, ""⟩ := by
  have same : report? (arguments.alone file) (contents file) = report? arguments (contents file) :=
    rfl
  rw [run, Arguments.alone, List.map_singleton, ← Arguments.alone, same]
  cases report? arguments (contents file) <;> simp

theorem join_reports (reports : List (Option String)) :
    String.join (reports.filterMap id) = String.join (reports.map (·.getD "")) := by
  induction reports with
  | nil => rfl
  | cons report reports ih => cases report <;> simpa using ih

theorem output_run : (run arguments contents).output = String.join (arguments.files.map fun file =>
    (run (arguments.alone file) contents).output) := by
  have outputs : (fun file => (run (arguments.alone file) contents).output) =
      fun file => (report? arguments (contents file)).getD "" := by
    funext file
    rw [run_alone]
    cases report? arguments (contents file) <;> rfl
  rw [outputs, run, join_reports, List.map_map]
  rfl

theorem exit_run_eq_zero_iff :
    (run arguments contents).exit = 0 ↔ ¬∃ file ∈ arguments.files, Fails contents file := by
  simp [run, ← @report?_eq_none_iff arguments, Option.isSome_iff_ne_none]

theorem exit_run_eq_one_iff :
    (run arguments contents).exit = 1 ↔ ∃ file ∈ arguments.files, Fails contents file := by
  rw [← not_iff_not, ← exit_run_eq_zero_iff, run]
  split <;> simp

end run

/-- A run that prints only the canonical form of one map succeeds exactly with the text of it. -/
theorem run_canonical_iff {contents : String → Option Bytes} {file saved : String}
    {stratum : Option String} {payload : Bytes} (held : contents file = some payload) :
    run ⟨[file], stratum, [], true⟩ contents = ⟨0, saved⟩ ↔
      ∃ map, SourceMap.parse payload = .ok map ∧ map.text = saved := by
  rw [run, List.map_singleton]
  cases read : SourceMap.parse payload with
  | error fault => simp [report?, held, read, Except.toOption]
  | ok map => simp [report?_of_parse held read, describe]

/-- The command line treats files one by one. What a run prints is what the runs on its files alone
print, in their order; a file that is missing or holds no map prints nothing and is the one cause of
failure. The canonical form that a run prints is itself such a file. It is printed again as it is,
and answers all queries as the first one. Any arguments with a file can be written in words, and
words that are accepted are responded to by the run of their arguments. -/
theorem respond_file_by_file :
    (∀ (arguments : Arguments) (contents : String → Option Bytes),
      (run arguments contents).output = String.join (arguments.files.map fun file =>
        (run (arguments.alone file) contents).output) ∧
      (∀ file, Fails contents file → run (arguments.alone file) contents = ⟨1, ""⟩) ∧
      (∀ file payload map, contents file = some payload → SourceMap.parse payload = .ok map →
        run (arguments.alone file) contents = ⟨0, describe arguments map⟩) ∧
      ((run arguments contents).exit = 1 ↔ ∃ file ∈ arguments.files, Fails contents file) ∧
      ((run arguments contents).exit = 0 ↔ ¬∃ file ∈ arguments.files, Fails contents file)) ∧
    (∀ (contents contents' : String → Option Bytes) (file file' saved : String) (payload : Bytes)
      (stratum : Option String), contents file = some payload →
      run ⟨[file], stratum, [], true⟩ contents = ⟨0, saved⟩ →
      contents' file' = some (Utf8.encode saved) →
      (∀ stratum', run ⟨[file'], stratum', [], true⟩ contents' = ⟨0, saved⟩) ∧
      ∀ arguments : Arguments,
        run (arguments.alone file') contents' = run (arguments.alone file) contents) ∧
    (∀ arguments : Arguments, arguments.files ≠ [] →
      Arguments.ofWords? arguments.words = some arguments) ∧
    ∀ (words : List String) (arguments : Arguments), Arguments.ofWords? words = some arguments →
      arguments.files ≠ [] ∧ ∀ contents, respond words contents = run arguments contents := by
  refine ⟨?_, ?_, fun arguments => Arguments.ofWords?_words, ?_⟩
  · intro arguments contents
    refine ⟨output_run, ?_, ?_, exit_run_eq_one_iff, exit_run_eq_zero_iff⟩
    · intro file fails
      rw [run_alone, report?_eq_none_iff.mpr fails]
    · intro file payload map held read
      rw [run_alone, report?_of_parse held read]
  · intro contents contents' file file' saved payload stratum held printed held'
    obtain ⟨map, read, rfl⟩ := (run_canonical_iff held).mp printed
    have readAgain := Grammar.parse_encode_text_of_parse read
    refine ⟨fun stratum' => (run_canonical_iff held').mpr ⟨map, readAgain, rfl⟩, ?_⟩
    intro arguments
    rw [run_alone, run_alone, report?_of_parse held read, report?_of_parse held' readAgain]
  · intro words arguments accepted
    refine ⟨Arguments.files_ne_nil_of_ofWords? accepted, fun contents => ?_⟩
    rw [respond, accepted]

/-- A good file before and after a missing one and an empty one, and its canonical form. -/
theorem respond_file_by_file_mixed :
    let payload := Utf8.encode "SMAP A.kt K *S K *F 1 A.kt *L 7#1:1 *E"
    let saved := "SMAP\nA.kt\nK\n*S K\n*F\n1 A.kt\n*L\n7#1:1\n*E\n"
    let contents (file : String) : Option Bytes :=
      if file = "good" then some payload
      else if file = "saved" then some (Utf8.encode saved)
      else if file = "empty" then some [] else none
    let words :=
      ["--line", "1", "good", "missing", "--line=9", "empty", "--canonical", "--", "good"]
    let arguments : Arguments := ⟨["good", "missing", "empty", "good"], none, [1, 9], true⟩
    let report := saved ++ "K:1 -> A.kt:7\nK:9 -> unmapped\n"
    run arguments contents = ⟨1, report ++ report⟩ ∧
      run (arguments.alone "saved") contents = ⟨0, report⟩ ∧
      Arguments.ofWords? words = some arguments ∧
      respond words contents = ⟨1, report ++ report⟩ ∧
      respond (arguments.alone "saved").words contents = ⟨0, report⟩ := by
  let map : SourceMap := ⟨"A.kt", "K", .ofList [("K", Stratum.mk
    (.ofList [((1 : UInt32), SourceFile.mk "A.kt" none)]) [⟨7, 1, 1, 1, 1⟩])]⟩
  have read : SourceMap.parse (Utf8.encode "SMAP A.kt K *S K *F 1 A.kt *L 7#1:1 *E") = .ok map := by
    cbv
  have printed : map.text = "SMAP\nA.kt\nK\n*S K\n*F\n1 A.kt\n*L\n7#1:1\n*E\n" := by cbv
  have answers : String.join ([1, 9].map (answer map "K")) =
      "K:1 -> A.kt:7\nK:9 -> unmapped\n" := by cbv
  intro payload saved contents words arguments report
  have described : describe arguments map = report := by
    change map.text ++ _ = _
    rw [printed]
    exact congrArg (saved ++ ·) answers
  obtain ⟨files, canonical, written, responds⟩ := respond_file_by_file
  obtain ⟨output, failing, succeeding, failed, -⟩ := files arguments contents
  have good := succeeding "good" payload map rfl read
  rw [described] at good
  have missing : Fails contents "missing" := Or.inl rfl
  have empty : Fails contents "empty" := Or.inr ⟨[], _, rfl, rfl⟩
  have all : run arguments contents = ⟨1, report ++ report⟩ := by
    have exit : (run arguments contents).exit = 1 :=
      failed.mpr ⟨"missing", by decide, missing⟩
    have output : (run arguments contents).output = report ++ report := by
      rw [output]
      simp [arguments, good, failing _ missing, failing _ empty]
    exact congrArg₂ Outcome.mk exit output
  have form : run ⟨["good"], none, [], true⟩ contents = ⟨0, saved⟩ :=
    (run_canonical_iff rfl).mpr ⟨map, read, printed⟩
  have again : run (arguments.alone "saved") contents = ⟨0, report⟩ := by
    rw [← good]
    exact (canonical contents contents "good" "saved" saved payload none rfl form rfl).2 arguments
  have accepted : Arguments.ofWords? words = some arguments := by decide +kernel
  have alone := written (arguments.alone "saved") (List.cons_ne_nil _ _)
  refine ⟨all, again, accepted, ?_, ?_⟩
  · rw [(responds words arguments accepted).2, all]
  · rw [(responds _ _ alone).2, again]

end DebugTables.CommandLine
