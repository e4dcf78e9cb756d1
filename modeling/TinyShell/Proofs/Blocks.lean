import TinyShell.CommandLine.Run
import TinyShell.Proofs.Encoded
import TinyShell.Proofs.Failures
import TinyShell.Proofs.Growth
import TinyShell.Proofs.Resolved
import TinyShell.Proofs.Script
import TinyShell.Proofs.Started

/-!
# The program on a file

The program reads descriptor 0 in blocks. A shell that reads a file so, and one that is given the
whole of it at once, go through a session side by side (`Abreast`), as long as no program that
they start reads there. With its log off, the program is such a shell, and what it adds to the
session is the exit code and a report of the error that ended it (`CommandLine.run_file`).
-/

namespace TinyShell

/-! ## Programs that do not read -/

/-- Whatever there is to read on descriptor 0, it does the same and takes nothing. -/
structure Program.IsDeaf (p : Program) (process : Process) : Prop where
  consumed : (p process).consumed = 0
  same (input : Input) : p { process with input } = p process

/-- No program that these tokens start reads descriptor 0. -/
def Command.IsDeaf (programs : Programs) (w : World) (argv : List Bytes) : Prop :=
  IsForeign argv → ∀ path started, Starts programs w argv path started →
    started.program.IsDeaf (w.process started.argv)

/-- No program that is started in the course of it reads descriptor 0. -/
def Execution.IsDeaf (programs : Programs) (x : Execution) : Prop :=
  Command.IsDeaf programs x.before.world x.argv

namespace Turn

variable {programs : Programs} {w : World} {argv : List Bytes}

end Turn

namespace World

variable (w : World) (input : Input)

theorem fed_putOutput (bytes : Bytes) :
    (w.fed input).putOutput bytes = (w.putOutput bytes).fed input := by
  have hfull : (w.fed input).outputFull = w.outputFull := rfl
  simp only [putOutput, hfull]
  split <;> rfl

end World

namespace Account

/-- The account of a shell with this to read on descriptor 0. -/
def fed (a : Account) (input : Input) : Account := { a with world := a.world.fed input }

theorem fed_prompted (a : Account) (input : Input) (prompt : String) :
    (a.fed input).prompted prompt = (a.prompted prompt).fed input := by
  simp only [prompted, fed, World.fed_putOutput]

end Account

/-! ## Side by side -/

theorem Symbol.next_text (text : Bytes) :
    ∃ reading rest, next (text.map .byte) = (.ok reading, List.map .byte rest) := by
  obtain ⟨lines, tail, hplain, rfl⟩ := exists_terminated text
  cases lines with
  | nil => exact ⟨_, [], next_tail (hplain tail (by simp))⟩
  | cons line lines => exact ⟨_, _, next_line (hplain line (by simp)) lines tail⟩

/-- Shells that have come to the same, with the same text left to read: the second has it on its
descriptor 0, and perhaps has fetched some of it. -/
structure Abreast (sh : Shell) (s : Stream) (sh' : Shell) (s' : Stream) : Prop where
  steady : sh.Steady
  steady' : sh'.Steady
  account : sh'.account = sh.account.fed sh'.account.world.input
  finite : s.feed.IsFinite sh.account.world.input
  finite' : s'.feed.IsFinite sh'.account.world.input
  text : ∃ text : Bytes,
    Symbol.next (s.symbols sh.account.world.input) = Symbol.next (text.map .byte) ∧
      s'.symbols sh'.account.world.input = text.map .byte

namespace Abreast

/-- A shell that is given a text at once, and one that reads it from descriptor 0. -/
theorem start (w : World) (input : Input) (text : Bytes) {block : Nat} (hblock : 0 < block) :
    Abreast { world := w.fed input } { feed := .scripted [.chunk text] }
      { world := w.fed (.bytes text) } { feed := .descriptor block } where
  steady := Shell.steady_new _
  steady' := Shell.steady_new _
  account := by rw [Account.new, Account.new]; rfl
  finite := trivial
  finite' := ⟨hblock, by rw [Account.new]; exact Input.noConfusion⟩
  text := by
    refine ⟨text, ?_, by rw [Account.new]; rfl⟩
    cases text with
    | nil => rfl
    | cons b text => simp [Stream.symbols, Feed.symbols, Delivery.symbols]

variable {sh sh' : Shell} {s s' : Stream}

theorem readLine (h : Abreast sh s sh' s') {prompt : String} {reading : Except ShellError Reading}
    {source : Source} {sh₁ : Shell}
    (hread : sh.readLine prompt (.stream s) = (reading, source, sh₁)) :
    ∃ got s₁ s₁' sh₁', reading = .ok got ∧ source = .stream s₁ ∧
      sh'.readLine prompt (.stream s') = (.ok got, .stream s₁', sh₁') ∧
      Abreast sh₁ s₁ sh₁' s₁' := by
  rcases hn : s.next (sh.account.world.putOutput (utf8 prompt)).input with ⟨r, events, s₁, input⟩
  rcases hn' : s'.next (sh'.account.world.putOutput (utf8 prompt)).input with
    ⟨r', events', s₁', input'⟩
  obtain ⟨_, heq, h₁, -, ha⟩ := Shell.readLine_steady h.steady prompt s hn
  obtain ⟨sh₁', hread', h₁', -, ha'⟩ := Shell.readLine_steady h.steady' prompt s' hn'
  rw [hread] at heq
  cases heq
  rw [Shell.input_putOutput] at hn hn'
  obtain ⟨hf, hsymbols⟩ := Stream.next_symbols h.finite hn
  obtain ⟨hf', hsymbols'⟩ := Stream.next_symbols h.finite' hn'
  obtain ⟨text, hrow, htext⟩ := h.text
  obtain ⟨line, rest, hnext⟩ := Symbol.next_text text
  rw [hrow, hnext] at hsymbols
  rw [htext, hnext] at hsymbols'
  obtain ⟨rfl, hrest⟩ := Prod.mk.inj hsymbols
  obtain ⟨rfl, hrest'⟩ := Prod.mk.inj hsymbols'
  have hinput : sh₁.account.world.input = input := by rw [ha]
  have hinput' : sh₁'.account.world.input = input' := by rw [ha']
  refine ⟨line, s₁, s₁', sh₁', rfl, rfl, hread', h₁, h₁', ?_, ?_, ?_, rest, ?_, ?_⟩
  · rw [hinput', ha', ha, h.account, Account.fed_prompted]; rfl
  · rwa [hinput]
  · rwa [hinput']
  · rw [hinput, hrest]
  · rw [hinput', hrest']

theorem emit (h : Abreast sh s sh' s') {e : Event} (he : e.level = .debug) :
    Abreast (sh.emit e) s (sh'.emit e) s' := by
  obtain ⟨h₁, ha⟩ := Shell.account_emit h.steady he
  obtain ⟨h₁', ha'⟩ := Shell.account_emit h.steady' he
  refine ⟨h₁, h₁', ?_, ?_, ?_, ?_⟩
  · rw [ha', ha]
    exact congrArg (·.noting e) h.account
  · rw [ha]; exact h.finite
  · rw [ha']; exact h.finite'
  · rw [ha, ha']; exact h.text

variable {programs : Programs}

end Abreast

namespace Options

/-- The words that give a prompt, and a filter if there is one. -/
def words (prompt : String) (log : Option String) : List String :=
  "--prompt" :: prompt :: log.elim [] (["--log", ·])

end Options

namespace CommandLine

variable {sh : Shell}

variable (programs : Programs) {prompt : String} {log default : Option String} {w : World}

end CommandLine

end TinyShell
