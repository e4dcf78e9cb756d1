import TinyShell.Proofs.Reading

/-!
# Prompts that fail

Calls on one stream, each with a writer of its own for the prompt (`Shell.callEach`). A call whose
prompt does not get out takes nothing, so the next one stands where it stood: the other calls give
what they would give among themselves (`Shell.callEach_retried`).
-/

namespace TinyShell

/-- A call of a reader: the prompt, and the writer for it. -/
structure Call where
  prompt : String
  out : Writer

/-- Why the prompt cannot be written or cannot be flushed, if so. -/
def Call.fault (c : Call) : Option IoError := c.out.fault [utf8 c.prompt]

namespace Shell

def call (sh : Shell) (source : Source) (c : Call) : Except ShellError Reading × Source × Shell :=
  { sh with out := c.out }.readLine c.prompt source

/-- One call after another. -/
def callEach (sh : Shell) (source : Source) :
    List Call → List (Except ShellError Reading) × Source × Shell
  | [] => ([], source, sh)
  | c :: calls =>
    let (reading, source, sh) := sh.call source c
    let (readings, source, sh) := sh.callEach source calls
    (reading :: readings, source, sh)

variable {sh : Shell} {prompt : String}

theorem ask_of_fault {cause : IoError} (h : sh.out.fault [utf8 prompt] = some cause) :
    ∃ out, sh.ask prompt = (.error cause, { sh with out }) := by
  simp only [Writer.fault, Writer.writeAll] at h
  rcases hwrite : sh.out.write (utf8 prompt) with ⟨e | ⟨⟩, out⟩
  · rw [hwrite] at h
    cases h
    exact ⟨out, by rw [ask, hwrite]⟩
  · rw [hwrite] at h
    have hask : sh.ask prompt = { sh with out }.flushOut := by rw [ask, hwrite]
    exact ⟨_, hask.trans (flushOut_of_fault h)⟩

theorem ask_of_none (h : sh.out.fault [utf8 prompt] = none) :
    ∃ out bytes, sh.ask prompt = (.ok (), { sh with out, world := sh.world.putOutput bytes }) := by
  simp only [Writer.fault, Writer.writeAll] at h
  rcases hwrite : sh.out.write (utf8 prompt) with ⟨e | ⟨⟩, out⟩
  · rw [hwrite] at h
    cases h
  · rw [hwrite] at h
    have hask : sh.ask prompt = { sh with out }.flushOut := by rw [ask, hwrite]
    exact ⟨_, _, hask.trans (flushOut_of_none h)⟩

/-! ## One call -/

/-- What a call comes to for the source: the reading, and what is left to read. -/
def drawn (result : Except ShellError Reading × Source × Shell) :
    Except ShellError Reading × Source × Input :=
  (result.1, result.2.1, result.2.2.world.input)

/-- Of the shell, a reading depends on descriptor 0 alone. -/
theorem drawn_take (sh : Shell) (source : Source) :
    drawn (sh.take source) =
      let (reading, _, source, input) := source.next sh.world.input
      (reading, source, input) := by
  simp [drawn, take]

theorem call_of_fault {c : Call} {cause : IoError} (h : c.fault = some cause) (sh : Shell)
    (s : Stream) :
    ∃ out, sh.call (.stream s) c = (.error (.io cause), .stream s, { sh with out }) := by
  let sh₁ : Shell := { sh with out := c.out }
  have hfault : sh₁.out.fault [utf8 c.prompt] = some cause := h
  obtain ⟨out, hask⟩ := ask_of_fault hfault
  refine ⟨out, ?_⟩
  rw [call, readLine, if_pos (show (Source.stream s).isPrompted = true from rfl), hask]

theorem drawn_call {c : Call} (h : c.fault = none) (sh : Shell) (s : Stream) :
    drawn (sh.call (.stream s) c) = drawn (sh.take (.stream s)) := by
  let sh₁ : Shell := { sh with out := c.out }
  have hnone : sh₁.out.fault [utf8 c.prompt] = none := h
  obtain ⟨out, bytes, hask⟩ := ask_of_none hnone
  rw [call, readLine, if_pos (show (Source.stream s).isPrompted = true from rfl), hask]
  simp only [drawn_take, input_putOutput, sh₁]

theorem drawn_readLine (h : sh.out.policy = .reliable) (prompt : String) (s : Stream) :
    drawn (sh.readLine prompt (.stream s)) = drawn (sh.take (.stream s)) := by
  rw [readLine_reliable h, drawn_take, drawn_take, input_ask]

theorem policy_readLine (h : sh.out.policy = .reliable) (prompt : String) (s : Stream) :
    (sh.readLine prompt (.stream s)).2.2.out.policy = .reliable := by
  rw [readLine_reliable h, ask_reliable h, take, emitAll_out]
  exact h

/-- A stream stays one. -/
theorem exists_call_eq (sh : Shell) (s : Stream) (c : Call) :
    ∃ reading s' sh', sh.call (.stream s) c = (reading, .stream s', sh') := by
  cases hfault : c.fault with
  | some cause =>
    obtain ⟨out, hcall⟩ := call_of_fault hfault sh s
    exact ⟨_, s, _, hcall⟩
  | none =>
    have hsource := congrArg (·.2.1) (drawn_call hfault sh s)
    exact ⟨_, _, _, Prod.ext rfl (Prod.ext hsource rfl)⟩

/-! ## Sequences of calls -/

/-- The readings of the calls whose prompt got out. -/
def told (calls : List Call) (readings : List (Except ShellError Reading)) :
    List (Except ShellError Reading) :=
  ((calls.zip readings).filter (·.1.fault = none)).map (·.2)

theorem length_callEach (sh : Shell) (source : Source) (calls : List Call) :
    (sh.callEach source calls).1.length = calls.length := by
  induction calls generalizing sh source with
  | nil => rfl
  | cons c calls ih => exact congrArg (· + 1) (ih _ _)

theorem reading_of_fault (sh : Shell) (s : Stream) (calls : List Call) :
    ∀ answer ∈ calls.zip (sh.callEach (.stream s) calls).1, ∀ cause,
      answer.1.fault = some cause → answer.2 = .error (.io cause) := by
  induction calls generalizing sh s with
  | nil => simp
  | cons c calls ih =>
    obtain ⟨reading, s', sh₁, hcall⟩ := exists_call_eq sh s c
    simp only [callEach, hcall, List.zip_cons_cons, List.forall_mem_cons]
    refine ⟨fun cause h => ?_, ih sh₁ s'⟩
    obtain ⟨out, hfault⟩ := call_of_fault h sh s
    exact congrArg (·.1) (hcall.symm.trans hfault)

/-- Prompts that fail leave the source to the other calls as it was. -/
theorem readEach_told {sh sh' : Shell} {s : Stream} {calls : List Call} {prompts : List String}
    (hout : sh'.out.policy = .reliable) (hinput : sh'.world.input = sh.world.input)
    (hlength : prompts.length = (calls.filter (·.fault = none)).length) :
    let result := sh.callEach (.stream s) calls
    let result' := sh'.readEach (.stream s) prompts
    result'.1 = told calls result.1 ∧ result'.2.1 = result.2.1 ∧
      result'.2.2.world.input = result.2.2.world.input := by
  induction calls generalizing sh sh' s prompts with
  | nil =>
    obtain rfl := List.length_eq_zero_iff.1 hlength
    exact ⟨rfl, rfl, hinput⟩
  | cons c calls ih =>
    cases hfault : c.fault with
    | some cause =>
      obtain ⟨out, hcall⟩ := call_of_fault hfault sh s
      rw [List.filter_cons_of_neg (by simp [hfault])] at hlength
      have hinput' : sh'.world.input = { sh with out }.world.input := hinput
      have hrest := ih (s := s) hout hinput' hlength
      simpa [callEach, hcall, told, hfault] using hrest
    | none =>
      rw [List.filter_cons_of_pos (by simp [hfault])] at hlength
      obtain ⟨prompt, prompts, rfl⟩ := List.exists_cons_of_length_eq_add_one hlength
      have hsame : drawn (sh'.readLine prompt (.stream s)) = drawn (sh.call (.stream s) c) := by
        rw [drawn_readLine hout, drawn_call hfault, drawn_take, drawn_take, hinput]
      have hout := policy_readLine hout prompt s
      obtain ⟨reading, s', sh₁, hcall⟩ := exists_call_eq sh s c
      rcases hread : sh'.readLine prompt (.stream s) with ⟨reading', source', sh₂⟩
      rw [hread, hcall] at hsame
      rw [hread] at hout
      obtain ⟨rfl, rfl, hinput⟩ : reading' = reading ∧ source' = .stream s' ∧
          sh₂.world.input = sh₁.world.input := by simpa [drawn] using hsame
      have hrest := ih (s := s') hout hinput (Nat.succ.inj hlength)
      simpa [callEach, hcall, readEach, hread, told, hfault] using hrest

theorem exists_callEach_eq (sh : Shell) (s : Stream) (calls : List Call) :
    ∃ readings s' sh', sh.callEach (.stream s) calls = (readings, .stream s', sh') := by
  induction calls generalizing sh s with
  | nil => exact ⟨_, _, _, rfl⟩
  | cons c calls ih =>
    obtain ⟨reading, s₁, sh₁, hcall⟩ := exists_call_eq sh s c
    obtain ⟨readings, s', sh', hcalls⟩ := ih sh₁ s₁
    exact ⟨reading :: readings, s', sh', by simp only [callEach, hcall, hcalls]⟩

/-- A call whose prompt fails gives that failure and changes nothing but its writer; the others give
what as many calls give on an output that works, and leave the stream as those do. So no line is
lost or cut. -/
theorem callEach_retried (sh : Shell) (s : Stream) (calls : List Call) :
    let result := sh.callEach (.stream s) calls
    let count := (calls.filter (·.fault = none)).length
    result.1.length = calls.length ∧
    (∀ answer ∈ calls.zip result.1, ∀ cause,
      answer.1.fault = some cause → answer.2 = .error (.io cause)) ∧
    (∀ before c after cause, calls = before ++ c :: after → c.fault = some cause →
      let earlier := sh.callEach (.stream s) before
      ∃ out, earlier.2.2.call earlier.2.1 c =
        (.error (.io cause), earlier.2.1, { earlier.2.2 with out })) ∧
    (∀ (sh' : Shell) (prompts : List String), sh'.out.policy = .reliable →
      sh'.world.input = sh.world.input → prompts.length = count →
      let result' := sh'.readEach (.stream s) prompts
      told calls result.1 = result'.1 ∧ result.2.1 = result'.2.1 ∧
        result.2.2.world.input = result'.2.2.world.input) ∧
    (s.feed.IsFinite sh.world.input →
      let expected := Symbol.readings count (s.symbols sh.world.input)
      told calls result.1 = expected.1.map (·.mapError .io) ∧
        ∃ s', result.2.1 = .stream s' ∧ s'.symbols result.2.2.world.input = expected.2) := by
  intro result count
  refine ⟨length_callEach sh _ calls, reading_of_fault sh s calls,
    fun before c after cause _ hfault => ?_, fun sh' prompts hout hinput hlength => ?_,
    fun hfinite => ?_⟩
  · obtain ⟨readings, s', sh', hbefore⟩ := exists_callEach_eq sh s before
    rw [hbefore]
    exact call_of_fault hfault sh' s'
  · obtain ⟨hreadings, hsource, hleft⟩ := readEach_told hout hinput hlength
    exact ⟨hreadings.symm, hsource.symm, hleft.symm⟩
  · let sh' : Shell := { sh with out := { policy := .reliable } }
    have hlength : (List.replicate count "").length = count := List.length_replicate
    have hout : sh'.out.policy = .reliable := rfl
    have hinput : sh'.world.input = sh.world.input := rfl
    obtain ⟨hreadings, hsource, hleft⟩ := readEach_told (s := s) hout hinput hlength
    obtain ⟨s', sh₁, hread, hsymbols⟩ :=
      readEach_readings hout hfinite (List.replicate count "")
    rw [hread] at hreadings hsource hleft
    rw [hlength] at hreadings hsymbols
    exact ⟨hreadings.symm, s', hsource.symm, by rw [← hleft]; exact hsymbols⟩

/-- A prompt of which one byte gets out, and one that cannot be flushed, before a line that comes in
two chunks. -/
theorem callEach_retried_partial :
    let sh : Shell := { world := { files := ⟨#[]⟩, cwd := 0, environment := [] } }
    let s : Stream := {
      feed := .scripted [.chunk (utf8 "ab\ncd"), .interrupted, .chunk (utf8 "e\nf")] }
    let fault := IoError.stream "stdout closed"
    let short : Call := ⟨"> ", { policy := .limited 1 fault }⟩
    let stuck : Call := ⟨"", { policy := .unflushable .reliable fault }⟩
    let plain : Call := ⟨"> ", { policy := .reliable }⟩
    let calls := [plain, short, stuck, plain]
    let readings := (sh.callEach (.stream s) calls).1
    let earlier := sh.callEach (.stream s) [plain, short]
    (∃ out, earlier.2.2.call earlier.2.1 stuck =
        (.error (.io fault), earlier.2.1, { earlier.2.2 with out })) ∧
      (∀ answer ∈ calls.zip readings, answer.1.fault = some fault →
        answer.2 = .error (.io fault)) ∧
      told calls readings = (sh.readEach (.stream s) ["", ""]).1 ∧
      told calls readings = [.ok (.line (utf8 "ab")), .ok (.line (utf8 "cde"))] := by
  intro sh s fault short stuck plain calls readings earlier
  have hcount : (calls.filter (·.fault = none)).length = 2 := by decide
  obtain ⟨-, hanswers, htaken, hothers, hspelled⟩ := callEach_retried sh s calls
  have hlines := (hspelled trivial).1
  have hspelling : (Symbol.readings 2 (s.symbols sh.world.input)).1.map
      (·.mapError ShellError.io) = [.ok (.line (utf8 "ab")), .ok (.line (utf8 "cde"))] := by rfl
  rw [hcount, hspelling] at hlines
  obtain ⟨out, hstuck⟩ := htaken [plain, short] stuck [plain] fault rfl rfl
  have hcalls := (hothers sh ["", ""] rfl rfl hcount.symm).1
  refine ⟨⟨out, ?_⟩, fun answer hanswer => hanswers answer hanswer fault, hcalls, hlines⟩
  -- The state after two calls is a name here, and is not computed.
  rw [← show earlier = sh.callEach (.stream s) [plain, short] from rfl] at hstuck
  clear_value earlier
  exact hstuck

end Shell

end TinyShell
