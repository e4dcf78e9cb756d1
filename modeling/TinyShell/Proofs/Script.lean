import TinyShell.Proofs.Course

/-!
# Sessions over a script

A script is a text that a stream delivers, cut into chunks in whatever way. Its lines are
executed up to the first that starts with `exit`, each once and in the world that the line
before left (`Shell.run_script`); a tail that no newline ends is never executed.
-/

namespace TinyShell

/-! ## Scripted streams -/

namespace Stream

/-- Nothing the stream delivers comes from descriptor 0. -/
def IsScripted (s : Stream) : Prop := ∃ deliveries, s.feed = .scripted deliveries

variable {s s' : Stream} {input input' : Input}

theorem available_scripted (h : s.IsScripted) {d : Delivery}
    (ha : s.available input = (d, s', input')) : s'.IsScripted ∧ input' = input := by
  obtain ⟨deliveries, hf⟩ := h
  rcases s with ⟨_ | _, feed⟩ <;> simp only at hf <;> subst hf
  · rcases deliveries with _ | ⟨_ | _ | _, deliveries⟩ <;>
      simp only [available, Feed.fetch, Prod.mk.injEq] at ha <;>
      obtain ⟨-, rfl, rfl⟩ := ha <;> exact ⟨⟨_, rfl⟩, rfl⟩
  · simp only [available, Prod.mk.injEq] at ha
    obtain ⟨-, rfl, rfl⟩ := ha
    exact ⟨⟨_, rfl⟩, rfl⟩

theorem collect_scripted (b : LineBuffer) (h : s.IsScripted) {e : Ending} {b' : LineBuffer}
    (hc : s.collect b input = (e, b', s', input')) : s'.IsScripted ∧ input' = input := by
  fun_induction collect b s input with
  | case1 b s input s₁ input₁ h₁ ih =>
    obtain ⟨hs₁, rfl⟩ := available_scripted h h₁
    exact ih hs₁ hc
  | case2 b s input cause s₁ input₁ h₁ =>
    simp only [Prod.mk.injEq] at hc
    obtain ⟨-, -, rfl, rfl⟩ := hc
    exact available_scripted h h₁
  | case3 b s input s₁ input₁ h₁ =>
    simp only [Prod.mk.injEq] at hc
    obtain ⟨-, -, rfl, rfl⟩ := hc
    exact available_scripted h h₁
  | case4 b s input x xs s₁ input₁ h₁ hx ih =>
    obtain ⟨hs₁, rfl⟩ := available_scripted h h₁
    exact ih hs₁ hc
  | case5 b s input x xs s₁ input₁ h₁ y rest hx =>
    simp only [Prod.mk.injEq] at hc
    obtain ⟨-, -, rfl, rfl⟩ := hc
    obtain ⟨hs₁, rfl⟩ := available_scripted h h₁
    exact ⟨hs₁, rfl⟩

theorem next_scripted (h : s.IsScripted) {r : Except IoError Reading} {events : List Event}
    (hn : s.next input = (r, events, s', input')) : s'.IsScripted ∧ input' = input := by
  rcases hc : s.collect {} input with ⟨e, b, s₁, input₁⟩
  have h₁ := collect_scripted {} h hc
  cases e <;> simp only [next, hc, Prod.mk.injEq] at hn <;> obtain ⟨-, -, rfl, rfl⟩ := hn <;>
    exact h₁

/-- What a stream gives next is settled by its next symbols. -/
theorem next_script (h : s.IsScripted) {row : List Symbol}
    (hs : ∀ input, s.symbols input = row) (input : Input) :
    ∃ events s', s'.IsScripted ∧ (∀ i, s'.symbols i = (Symbol.next row).2) ∧
      s.next input = ((Symbol.next row).1, events, s', input) := by
  rcases hn : s.next input with ⟨reading, events, s', input'⟩
  obtain ⟨hs', rfl⟩ := next_scripted h hn
  have hf : s.feed.IsFinite input' := by
    obtain ⟨deliveries, hd⟩ := h
    rw [hd]; trivial
  obtain ⟨-, hnext⟩ := next_symbols hf hn
  rw [hs] at hnext
  refine ⟨events, s', hs', fun i => ?_, by rw [hnext]⟩
  obtain ⟨deliveries, hd⟩ := hs'
  rw [hnext]
  simp only [symbols, hd, Feed.symbols]

end Stream

variable (programs : Programs)

/-- A round of a session over a script is settled by the next symbols. -/
theorem Round.of_scripted {s : Stream} (h : s.IsScripted) {row : List Symbol}
    (hs : ∀ input, s.symbols input = row) (w : World) :
    ∃ s' : Stream, s'.IsScripted ∧ (∀ input, s'.symbols input = (Symbol.next row).2) ∧
      of programs w s = after programs w s' (Symbol.next row).1 := by
  obtain ⟨events, s', hs', hrest, hn⟩ := Stream.next_script h hs w.input
  exact ⟨s', hs', hrest, by simp only [of, hn]⟩

/-! ## Lines -/

/-- The line starts with `exit`. -/
def isExit (line : Bytes) : Bool := (Token.words line).head? = some (utf8 "exit")

namespace Round

variable {programs} {line : Bytes}

theorem after_exit (h : isExit line) (w : World) (s : Stream) :
    after programs w s (.ok (.line line)) = {
      turn := (Turn.of programs w (Token.words line)).noting .exitRequested
      ending := some (.ok .exit), source := s } := by
  have ht := (Turn.signal_terminate programs w (Token.words line)).2 (by simpa [isExit] using h)
  simp only [after, ht]

theorem after_line (h : ¬ isExit line) (w : World) (s : Stream) :
    after programs w s (.ok (.line line)) =
      { turn := Turn.of programs w (Token.words line), source := s } := by
  cases ht : (Turn.of programs w (Token.words line)).signal with
  | «continue» => simp only [after, ht]
  | terminate =>
    have he := (Turn.signal_terminate programs w (Token.words line)).1 ht
    exact absurd he (by simpa [isExit] using h)

end Round

namespace Account

variable (prompt : String)

/-- What each of the lines comes to, executed by a new shell in the world that the line
before left, after the prompt. -/
def each : World → List Bytes → List Account
  | _, [] => []
  | w, line :: lines =>
    let sh : Shell := { world := w.putOutput (utf8 prompt) }
    let a := (sh.executeLine programs line).2.account
    a :: each a.world lines

theorem new (w : World) : ({ world := w } : Shell).account = { world := w } := by
  simp [Shell.account, Shell.settle, Writer.drain]

theorem executeLine_new (w : World) (line : Bytes) :
    (({ world := w } : Shell).executeLine programs line).2.account =
      ({ world := w } : Account).add (Turn.of programs w (Token.words line)) := by
  obtain ⟨sh', hx, ht⟩ := Shell.executeLine_steady programs (Shell.steady_new w) line
  rw [hx, ht.account, new]

/-- `a`, and after it what each of these came to, a prompt before each. -/
def followed (a : Account) (rest : List Account) : Account where
  world := (rest.map (·.world)).getLastD a.world
  output := a.output ++ rest.flatMap (utf8 prompt ++ ·.output)
  errors := a.errors ++ rest.flatMap (·.errors)
  children := a.children ++ rest.flatMap (·.children)
  events := a.events ++ rest.flatMap (·.events)

theorem followed_each (a : Account) (line : Bytes) (lines : List Bytes) :
    let t := Turn.of programs (a.world.putOutput (utf8 prompt)) (Token.words line)
    a.followed prompt (each programs prompt a.world (line :: lines)) =
      ((a.prompted prompt).add t).followed prompt (each programs prompt t.left lines) := by
  simp [each, executeLine_new, followed, prompted, add, List.getLast?_cons]

end Account

theorem Course.through_script (prompt : String) {lines : List Bytes} {tail : Bytes}
    (hn : ∀ line ∈ tail :: lines, newline ∉ line) {s : Stream} (h : s.IsScripted)
    (hs : ∀ input, s.symbols input = (terminated lines ++ tail).map .byte) (a : Account) :
    let course := of programs prompt a.world s
    let exits := lines.any isExit
    let ran := lines.take (lines.findIdx isExit + 1)
    let b := a.followed prompt (Account.each programs prompt a.world ran)
    course.ending = .ok (if exits then .exit else .endOfInput) ∧
      (∀ input, course.source.symbols input =
        if exits then (terminated (lines.drop ran.length) ++ tail).map .byte else []) ∧
      a.through prompt course.turns =
        if exits then b.noting .exitRequested else (b.prompted prompt).noting .endOfInput := by
  induction lines generalizing s a with
  | nil =>
    obtain ⟨s', -, hs', hround⟩ := Round.of_scripted programs h hs
      (a.world.putOutput (utf8 prompt))
    rw [Symbol.next_tail (hn tail List.mem_cons_self)] at hs' hround
    have hcourse := of_ended (w := a.world) (s := s) (by rw [hround]; rfl)
    rw [hcourse, hround]
    refine ⟨rfl, hs', ?_⟩
    simp [Round.after, Account.through, Account.add_noting, Account.add_idle, Account.each,
      Account.followed, Account.prompted]
  | cons line lines ih =>
    obtain ⟨s', hscripted, hs', hround⟩ := Round.of_scripted programs h hs
      (a.world.putOutput (utf8 prompt))
    rw [Symbol.next_line (hn line (by simp))] at hs' hround
    have hn' : ∀ l ∈ tail :: lines, newline ∉ l := fun l hl => hn l (by
      rcases List.mem_cons.1 hl with rfl | hl <;> simp [*])
    by_cases he : isExit line
    · rw [Round.after_exit he] at hround
      have hcourse := of_ended (w := a.world) (s := s) (by rw [hround])
      have hexits : (line :: lines).any isExit = true := by simp [he]
      have hran : (line :: lines).take ((line :: lines).findIdx isExit + 1) = [line] := by
        simp [List.findIdx_cons, he]
      rw [hcourse, hround]
      simp only [hexits, hran, if_true]
      refine ⟨trivial, hs', ?_⟩
      rw [Account.followed_each]
      simp [Account.through, Account.add_noting, Account.each, Account.followed]
    · rw [Round.after_line he] at hround
      have hcourse := of_continued (w := a.world) (s := s) (by rw [hround])
      have hexits : (line :: lines).any isExit = lines.any isExit := by simp [he]
      have hran : (line :: lines).take ((line :: lines).findIdx isExit + 1) =
          line :: lines.take (lines.findIdx isExit + 1) := by
        simp [List.findIdx_cons, he]
      rw [hcourse, hround]
      simp only [hexits, hran]
      rw [Account.followed_each]
      exact ih hn' hscripted hs' ((a.prompted prompt).add
        (Turn.of programs (a.world.putOutput (utf8 prompt)) (Token.words line)))

namespace Shell

/-- What a shell with new writers has brought about at the end of a script. -/
theorem account_run (prompt : String) (w : World) {lines : List Bytes} {tail : Bytes}
    (hn : ∀ line ∈ tail :: lines, newline ∉ line) {s : Stream} (h : s.IsScripted)
    (hs : ∀ input, s.symbols input = (terminated lines ++ tail).map .byte) :
    let ran := lines.take (lines.findIdx isExit + 1)
    let a := Account.followed prompt { world := w } (Account.each programs prompt w ran)
    (run programs prompt { world := w } (.stream s)).2.2.account =
      if lines.any isExit then a.noting .exitRequested
      else (a.prompted prompt).noting .endOfInput := by
  obtain ⟨sh, hrun, -, -, haccount⟩ := run_course programs (steady_new w) prompt s
  obtain ⟨-, -, hthrough⟩ := Course.through_script programs prompt hn h hs { world := w }
  rw [hrun, haccount, Account.new]
  exact hthrough

/-- A session of a shell with new writers over a script. The lines up to the first that
starts with `exit` are executed, and what follows its newline is left to the stream. -/
theorem run_script (prompt : String) (w : World) (deliveries : List Delivery)
    (lines : List Bytes) (tail : Bytes) (hn : ∀ line ∈ tail :: lines, newline ∉ line)
    (hd : deliveries.flatMap Delivery.symbols = (terminated lines ++ tail).map .byte) :
    let exits := lines.any isExit
    let ran := lines.take (lines.findIdx isExit + 1)
    let accounts := Account.each programs prompt w ran
    let a := Account.followed prompt { world := w } accounts
    ∃ s sh, run programs prompt { world := w } (.stream { feed := .scripted deliveries }) =
        (.ok (if exits then .exit else .endOfInput), .stream s, sh) ∧
      s.symbols sh.world.input =
        (if exits then (terminated (lines.drop ran.length) ++ tail).map .byte else []) ∧
      sh.out.written = accounts.flatMap (utf8 prompt ++ ·.output) ++
        (if exits then [] else utf8 prompt) ∧
      sh.account =
        if exits then a.noting .exitRequested else (a.prompted prompt).noting .endOfInput := by
  intro exits ran accounts a
  let s : Stream := { feed := .scripted deliveries }
  have hs : ∀ input, s.symbols input = (terminated lines ++ tail).map .byte := fun input => by
    rw [← hd]; simp [s, Stream.symbols, Feed.symbols]
  obtain ⟨sh, hrun, -, -, hacc⟩ := run_course programs (steady_new w) prompt s
  rw [Account.new] at hrun hacc
  obtain ⟨hend, hrest, hthrough⟩ :=
    Course.through_script programs prompt hn ⟨deliveries, rfl⟩ hs { world := w }
  rw [hthrough] at hacc
  rw [hend] at hrun
  refine ⟨_, sh, hrun, hrest _, ?_, hacc⟩
  have hwritten : sh.out.written = (if exits then a.noting .exitRequested else
      (a.prompted prompt).noting .endOfInput).output := congrArg Account.output hacc
  rw [hwritten]
  split <;> simp [a, Account.followed, Account.prompted, Account.noting]

theorem run_script_echo :
    let w : World := { files := ⟨#[]⟩, cwd := 0, environment := [] }
    let lines := [utf8 "echo hi", utf8 "exit"]
    let deliveries := [.chunk (utf8 "echo hi\nex"), .interrupted, .chunk (utf8 "it\nls")]
    (∀ line ∈ utf8 "ls" :: lines, newline ∉ line) ∧
      deliveries.flatMap Delivery.symbols = (terminated lines ++ utf8 "ls").map .byte ∧
      ∃ s sh, run (fun _ => none) "> " { world := w } (.stream { feed := .scripted deliveries }) =
          (.ok .exit, .stream s, sh) ∧
        s.symbols sh.world.input = (utf8 "ls").map .byte ∧ sh.out.written = utf8 "> hi\n> " := by
  intro w lines deliveries
  have hn : ∀ line ∈ utf8 "ls" :: lines, newline ∉ line := by decide
  have hd : deliveries.flatMap Delivery.symbols = (terminated lines ++ utf8 "ls").map .byte := by
    decide
  have hout : (Account.each (fun _ => none) "> " w lines).flatMap (utf8 "> " ++ ·.output) =
      utf8 "> hi\n> " := by
    decide
  obtain ⟨s, sh, hrun, hrest, hwritten, -⟩ :=
    run_script (fun _ => none) "> " w deliveries lines (utf8 "ls") hn hd
  exact ⟨hn, hd, s, sh, hrun, hrest, hwritten.trans hout⟩

end Shell

end TinyShell
