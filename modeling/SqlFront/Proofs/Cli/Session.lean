import SqlFront.Cli.Run

/-!
# SqlFront.Proofs.Cli.Session

A session is a row of single queries that know nothing of each other.

What a line gives is said by `contribution`, which sees the text of this line and the settings
only: a query gives what it gives when it is the only one. So every line but one that leaves goes
the same way, whether it is refused or not, and the session goes on with the lines after it.

* `reply_ofLine`: the answer to one line.
* `converse_eq_step`: a session is the program's step at the terminal, over and over, where the
  terminal has its lines from a list.
* `converse_lines`: what is written from any line on, by induction on the lines to come.
* `run_lines`: what a whole session writes.
-/

namespace SqlFront
namespace Cli

theorem Output.append_eq (first second : Output) :
    first ++ second = ⟨first.stdout ++ second.stdout, first.stderr ++ second.stderr⟩ := rfl

@[simp] theorem Output.append_empty (output : Output) : output ++ ({} : Output) = output := by
  simp [append_eq]

theorem Output.append_assoc (first second third : Output) :
    first ++ second ++ third = first ++ (second ++ third) := by
  simp [append_eq, String.append_assoc]

/-- The same display without the log. -/
def Display.quiet (display : Display) : Display := { display with verbose := false }

@[simp] theorem Display.stdout_log (display : Display) (events : List Event) :
    (display.log events).stdout = "" := by
  unfold log
  split <;> rfl

@[simp] theorem Display.quiet_log (display : Display) (events : List Event) :
    display.quiet.log events = {} := rfl

namespace Session

/-- The text of a line, without the blanks at its two ends. -/
def trimmed (line : String) : String := String.ofList (Text.trim line.toList)

/-- The texts that end a session. -/
def farewells : List String := [".exit", ".quit", "exit", "quit"]

/-- What a line with this text gives, unless it ends the session. -/
def contribution (display : Display) (config : Config) (text : String) : Output :=
  if text = "" then {}
  else if text = ".help" ∨ text = "help" then .out (helpText display.color)
  else if text = ".clear" ∨ text = "clear" then .out clearScreen
  else
    { stdout := (oneShot display config text).2.stdout
      stderr := (display.log (analyzeLogged text).events).stderr ++
        (oneShot display.quiet config text).2.stderr }

variable (display : Display) (config : Config)

/-! ## One line -/

/-- Without the log, a single query writes at most the line for its fault there. -/
theorem stderr_oneShot_quiet (query : String) :
    (oneShot display.quiet config query).2.stderr =
      match analyze query with
      | .ok _ => ""
      | .error fault => (display.fault "Error:" fault).stderr := by
  rw [analyze]
  simp only [oneShot, answer, Output.append_eq, Display.quiet_log]
  cases (analyzeLogged query).value with
  | ok analysis => simp [Output.out]
  | error fault => simp [Display.fault, Output.err, Display.quiet]

/-- A single query writes its report, or nothing if it is refused. -/
theorem stdout_oneShot_eq (query : String) :
    (oneShot display config query).2.stdout =
      match analyze query with
      | .ok analysis => report display.color config analysis
      | .error _ => "" := by
  rw [analyze]
  simp only [oneShot, answer, Output.append_eq, Display.stdout_log]
  cases (analyzeLogged query).value with
  | ok analysis => simp [Output.out]
  | error fault => simp [Display.fault, Output.err]

/-- A query in a session is answered as it is by itself, where only the log says more. -/
theorem answer_eq (query : String) :
    answer display config query =
      { stdout := (oneShot display config query).2.stdout
        stderr := (display.log (analyzeLogged query).events).stderr ++
          (oneShot display.quiet config query).2.stderr } := by
  rw [stdout_oneShot_eq, stderr_oneShot_quiet, analyze]
  simp only [answer, Output.append_eq, Display.stdout_log]
  cases (analyzeLogged query).value with
  | ok analysis => simp [Output.out]
  | error fault => simp [Display.fault, Output.err]

theorem ofLine_eq_leave_iff {line : String} :
    Ask.ofLine line = .leave ↔ trimmed line ∈ farewells := by
  rw [Ask.ofLine, ← trimmed]
  generalize trimmed line = text
  split <;> simp_all [farewells]

theorem reply_ofLine {line : String} (h : trimmed line ∉ farewells) :
    reply display config (Ask.ofLine line) = contribution display config (trimmed line) := by
  rw [Ask.ofLine, ← trimmed]
  generalize trimmed line = text at h ⊢
  split
  · rfl
  -- the four farewells, then help and an empty screen under two names each
  iterate 4 · simp [farewells] at h
  iterate 4 · rfl
  · rename_i hempty _ _ _ _ hhelp hhelp' hclear hclear'
    have hother : contribution display config text = answer display config text := by
      rw [answer_eq, contribution, if_neg hempty, if_neg (not_or.mpr ⟨hhelp, hhelp'⟩),
        if_neg (not_or.mpr ⟨hclear, hclear'⟩)]
    exact hother.symm

/-! ## One turn -/

theorem turn_farewell {line : String} (h : trimmed line ∈ farewells) :
    turn display config (some (some line)) = ⟨.out (goodbye display.color), false⟩ := by
  rw [turn, ofLine_eq_leave_iff.mpr h]

theorem turn_some {line : String} (h : trimmed line ∉ farewells) :
    turn display config (some (some line)) =
      ⟨contribution display config (trimmed line), true⟩ := by
  rw [turn]
  split
  · rename_i hleave
    exact absurd (ofLine_eq_leave_iff.mp hleave) h
  · rw [reply_ofLine display config h]

/-- A terminal whose lines come from a list and that keeps what is written to it. -/
abbrev Scripted : Type → Type := StateM (List (Option String) × Output)

def Scripted.next : Scripted (Option (Option String)) :=
  fun (lines, written) => (lines.head?, lines.tail, written)

def Scripted.write (output : Output) : Scripted Unit :=
  fun (lines, written) => ((), lines, written ++ output)

/-- At such a terminal a session is one step after another, as long as they say that it goes on. -/
theorem converse_eq_step (lines : List (Option String)) (written : Output) :
    written ++ converse display config lines =
      match (step display config Scripted.next Scripted.write).run (lines, written) with
      | (goesOn, lines, written) =>
        if goesOn then written ++ converse display config lines else written := by
  cases lines with
  | nil => rw [converse, ← Output.append_assoc]; rfl
  | cons line lines =>
    rw [converse, ← Output.append_assoc, ← Output.append_assoc]
    change _ = if (turn display config (some line)).goesOn then _ else _
    split
    · rfl
    · rw [Output.append_empty]; rfl

/-! ## All lines -/

theorem converse_some {line : String} {lines : List (Option String)}
    (h : trimmed line ∉ farewells) :
    converse display config (some line :: lines) =
      .out (prompt display.color) ++ contribution display config (trimmed line) ++
        converse display config lines := by
  rw [converse, turn_some display config h]
  rfl

theorem converse_farewell {line : String} {lines : List (Option String)}
    (h : trimmed line ∈ farewells) :
    converse display config (some line :: lines) =
      .out (prompt display.color) ++ .out (goodbye display.color) := by
  rw [converse, turn_farewell display config h]
  exact Output.append_empty _

/-- The texts of the lines that are answered: those before the first that ends the session. -/
def answered (lines : List String) : List String :=
  (lines.map trimmed).takeWhile (· ∉ farewells)

theorem converse_lines (lines : List String) :
    converse display config (lines.map some) =
      { stdout := String.join ((answered lines).map fun text =>
            prompt display.color ++ (contribution display config text).stdout) ++
          (prompt display.color ++ goodbye display.color)
        stderr := String.join ((answered lines).map fun text =>
            (contribution display config text).stderr) } := by
  induction lines with
  | nil => simp [converse, turn, answered, Output.append_eq, Output.out]
  | cons line lines ih =>
    by_cases hline : trimmed line ∈ farewells
    · have hnone : answered (line :: lines) = [] := by simp [answered, hline]
      rw [List.map_cons, converse_farewell display config hline, hnone]
      simp [Output.append_eq, Output.out]
    · have hsome : answered (line :: lines) = trimmed line :: answered lines := by
        simp [answered, hline]
      rw [List.map_cons, converse_some display config hline, hsome, ih]
      simp [Output.append_eq, Output.out, String.append_assoc]

/-- A session writes the banner and, for each line up to the first that ends it, a prompt and what
this line gives. It takes its leave once, after one more prompt: for the line that ends it or, where
there is none, for the end of the input. -/
theorem run_lines (lines : List String) :
    run display config (lines.map some) =
      { stdout := banner display.color ++
          String.join ((answered lines).map fun text =>
            prompt display.color ++ (contribution display config text).stdout) ++
          (prompt display.color ++ goodbye display.color)
        stderr := String.join ((answered lines).map fun text =>
          (contribution display config text).stderr) } := by
  rw [run, converse_lines]
  simp [Output.append_eq, Output.out, String.append_assoc]

/-- A prompt for each line is one too few where no line ends the session. And where the log is
shown, the line for the fault is not all that a query which is refused gives. -/
theorem run_beyond_contributions :
    let display : Display := { color := false, verbose := false }
    let logged : Display := { color := false, verbose := true }
    (run display {} [some "help"]).stdout ≠
        banner false ++ (prompt false ++ (contribution display {} "help").stdout) ++
          goodbye false ∧
      (run logged {} [some "x"]).stderr ≠ (oneShot display {} "x").2.stderr := by
  decide +kernel

end Session
end Cli
end SqlFront
