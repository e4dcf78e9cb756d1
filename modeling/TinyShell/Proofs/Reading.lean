import TinyShell.Proofs.Reliable
import TinyShell.Proofs.Symbols

/-!
# Reading lines from a stream

Calls of `Shell.readLine` on one stream, each with a prompt of its own. While the output
of the shell works, what they give is what the symbols of the stream spell
(`Shell.readEach_stream`); of plain text no byte is lost, doubled or moved to another line.
-/

namespace TinyShell

/-- A text of these lines, each ended by a newline. -/
def terminated (lines : List Bytes) : Bytes := lines.flatMap (· ++ [newline])

@[simp] theorem terminated_cons (line : Bytes) (lines : List Bytes) :
    terminated (line :: lines) = line ++ newline :: terminated lines := by
  simp [terminated]

/-- Every text is lines, each ended by a newline, and a tail that none ends. -/
theorem exists_terminated (input : Bytes) : ∃ (lines : List Bytes) (tail : Bytes),
    (∀ line ∈ tail :: lines, newline ∉ line) ∧ terminated lines ++ tail = input := by
  induction input with
  | nil => exact ⟨[], [], by simp, rfl⟩
  | cons b input ih =>
    obtain ⟨lines, tail, hn, rfl⟩ := ih
    by_cases hb : b = newline
    · exact ⟨[] :: lines, tail, by simpa using hn, by simp [hb]⟩
    · cases lines with
      | nil => exact ⟨[], b :: tail, by simpa [Ne.symm hb] using hn, rfl⟩
      | cons line lines =>
        exact ⟨(b :: line) :: lines, tail, by simpa [Ne.symm hb] using hn, by simp⟩

namespace Symbol

theorem readings_nil (n : Nat) :
    readings n [] = (List.replicate n (.ok .endOfInput), []) := by
  induction n with
  | zero => rfl
  | succ n ih => simp [readings, next, ih, List.replicate_succ]

theorem next_line {line : Bytes} (h : newline ∉ line) (lines : List Bytes) (tail : Bytes) :
    next ((terminated (line :: lines) ++ tail).map byte) =
      (.ok (.line line), (terminated lines ++ tail).map byte) := by
  rw [terminated_cons, List.append_assoc, List.map_append]
  exact next_newline h _

theorem next_tail {tail : Bytes} (h : newline ∉ tail) :
    next ((terminated [] ++ tail).map byte) = (.ok .endOfInput, []) := next_bytes h

/-- A text is read line by line, and its tail is dropped. -/
theorem readings_terminated {lines : List Bytes} {tail : Bytes}
    (h : ∀ line ∈ tail :: lines, newline ∉ line) (n : Nat) :
    (readings n ((terminated lines ++ tail).map byte)).1 =
      (lines.map fun line => .ok (.line line)).take n ++
        List.replicate (n - lines.length) (.ok .endOfInput) := by
  induction n generalizing lines with
  | zero => simp [readings]
  | succ n ih =>
    cases lines with
    | nil =>
      rw [readings, next_tail (h tail List.mem_cons_self)]
      simp [readings_nil, List.replicate_succ]
    | cons line lines =>
      have hn : ∀ l ∈ tail :: lines, newline ∉ l := fun l hm => h l (by
        rcases List.mem_cons.1 hm with rfl | hm <;> simp [*])
      rw [readings, next_line (h line (by simp))]
      simpa [terminated] using ih hn

end Symbol

namespace Shell

/-- Reads once for each of the prompts. -/
def readEach (sh : Shell) (source : Source) :
    List String → List (Except ShellError Reading) × Source × Shell
  | [] => ([], source, sh)
  | prompt :: prompts =>
    let (reading, source, sh) := sh.readLine prompt source
    let (readings, source, sh) := sh.readEach source prompts
    (reading :: readings, source, sh)

theorem take_stream (sh : Shell) {s : Stream} (hf : s.feed.IsFinite sh.world.input) :
    ∃ events s' input', sh.take (.stream s) =
      ((Symbol.next (s.symbols sh.world.input)).1.mapError .io, .stream s',
        { sh with world := { sh.world with input := input' } }.emitAll events) ∧
    s'.feed.IsFinite input' ∧
    s'.symbols input' = (Symbol.next (s.symbols sh.world.input)).2 := by
  rcases h : s.next sh.world.input with ⟨r, events, s', input'⟩
  obtain ⟨hf', hs⟩ := Stream.next_symbols hf h
  refine ⟨events, s', input', ?_, hf', by rw [hs]⟩
  simp [take, Source.next, h, hs]

variable {sh : Shell} {s : Stream}

theorem readLine_reliable (h : sh.out.policy = .reliable) (prompt : String) (s : Stream) :
    sh.readLine prompt (.stream s) = (sh.ask prompt).2.take (.stream s) := by
  rw [readLine, if_pos (show (Source.stream s).isPrompted = true from rfl), ask_reliable h]

theorem readLine_stream (h : sh.out.policy = .reliable) (hf : s.feed.IsFinite sh.world.input)
    (prompt : String) : ∃ s' sh',
    sh.readLine prompt (.stream s) =
      ((Symbol.next (s.symbols sh.world.input)).1.mapError .io, .stream s', sh') ∧
    sh'.out.policy = .reliable ∧ s'.feed.IsFinite sh'.world.input ∧
    s'.symbols sh'.world.input = (Symbol.next (s.symbols sh.world.input)).2 := by
  rw [readLine_reliable h]
  have hin : (sh.ask prompt).2.world.input = sh.world.input := input_ask sh prompt
  obtain ⟨events, s', input', ht, hf', hs'⟩ := take_stream (sh.ask prompt).2 (s := s)
    (by rw [hin]; exact hf)
  rw [hin] at ht hs'
  refine ⟨s', _, ht, ?_, ?_, ?_⟩
  · simp [ask_reliable h, h]
  · simpa using hf'
  · simpa using hs'

theorem readEach_readings (h : sh.out.policy = .reliable) (hf : s.feed.IsFinite sh.world.input)
    (prompts : List String) : ∃ s' sh',
    sh.readEach (.stream s) prompts =
      ((Symbol.readings prompts.length (s.symbols sh.world.input)).1.map (·.mapError .io),
        .stream s', sh') ∧
    s'.symbols sh'.world.input =
      (Symbol.readings prompts.length (s.symbols sh.world.input)).2 := by
  induction prompts generalizing sh s with
  | nil => exact ⟨s, sh, rfl, rfl⟩
  | cons prompt prompts ih =>
    obtain ⟨s₁, sh₁, hr, h₁, hf₁, hs₁⟩ := readLine_stream h hf prompt
    obtain ⟨s', sh', hrs, hs'⟩ := ih h₁ hf₁
    rw [hs₁] at hrs hs'
    refine ⟨s', sh', ?_, hs'⟩
    simp [readEach, hr, hrs, Symbol.readings]

/-- What calls on a stream give depends on its symbols alone, and is read off them. Plain
text is given as its lines, and then the end; the lines, each with a newline, and the
dropped tail are the text. -/
theorem readEach_stream (sh : Shell) (h : sh.out.policy = .reliable)
    (deliveries : List Delivery) (prompts : List String) :
    let row := deliveries.flatMap Delivery.symbols
    let expected := Symbol.readings prompts.length row
    (∃ s' sh', sh.readEach (.stream { feed := .scripted deliveries }) prompts =
        (expected.1.map (·.mapError .io), .stream s', sh') ∧
      s'.symbols sh'.world.input = expected.2) ∧
    ∀ input : Bytes, row = input.map .byte → ∃ lines tail,
      (∀ line ∈ tail :: lines, newline ∉ line) ∧ terminated lines ++ tail = input ∧
      expected.1 = (lines.map fun line => .ok (.line line)).take prompts.length ++
        List.replicate (prompts.length - lines.length) (.ok .endOfInput) := by
  intro row expected
  have hrow : Stream.symbols { feed := .scripted deliveries } sh.world.input = row := by
    simp [Stream.symbols, Feed.symbols, row]
  refine ⟨?_, fun input hinput => ?_⟩
  · have := readEach_readings (s := { feed := .scripted deliveries }) h trivial prompts
    rwa [hrow] at this
  · obtain ⟨lines, tail, hn, hcut⟩ := exists_terminated input
    refine ⟨lines, tail, hn, hcut, ?_⟩
    rw [show expected = Symbol.readings prompts.length row from rfl, hinput, ← hcut]
    exact Symbol.readings_terminated hn _

theorem readEach_stream_interrupted :
    let sh : Shell := { world := { files := ⟨#[]⟩, cwd := 0, environment := [] } }
    let fault := IoError.os .isDirectory
    let deliveries := [.chunk (utf8 "ab"), .interrupted, .chunk (utf8 "c\nd"), .chunk [],
      .failed fault, .chunk (utf8 "e")]
    sh.out.policy = .reliable ∧ ∃ s' sh',
      sh.readEach (.stream { feed := .scripted deliveries }) ["> ", "> ", "", "> "] =
        ([.ok (.line (utf8 "abc")), .ok .endOfInput, .error (.io fault), .ok .endOfInput],
          .stream s', sh') := by
  intro sh fault deliveries
  obtain ⟨⟨s', sh', hread, -⟩, -⟩ := readEach_stream sh rfl deliveries ["> ", "> ", "", "> "]
  exact ⟨rfl, s', sh', hread⟩

end Shell

end TinyShell
