import TinyShell.Proofs.OneLine
import TinyShell.Proofs.Turn

/-!
# What `echo` says

`echo` writes its arguments on one line (`Builtin.echoed`), and cutting that line into tokens gives
them back, since no token holds a delimiter (`Token.words_echoed`). So what it says tells everything
about the line it was given that tokens tell (`Shell.writes_echo`).
-/

namespace TinyShell

/-- The line that `echo` writes. -/
def Builtin.echoed (args : List Bytes) : Bytes := joined args ++ [newline]

/-! ## Tokens, and tokens again -/

namespace Token

variable {args : List Bytes}

theorem echoed_cons_cons (t u : Bytes) (args : List Bytes) :
    Builtin.echoed (t :: u :: args) = t ++ 0x20 :: Builtin.echoed (u :: args) := by
  simp [Builtin.echoed, Builtin.joined, List.intercalate_cons_cons]

theorem words_echoed (h : ∀ t ∈ args, IsToken t) : words (Builtin.echoed args) = args := by
  induction args with
  | nil => decide
  | cons t args ih =>
    obtain ⟨⟨hne, hplain⟩, hargs⟩ := List.forall_mem_cons.1 h
    cases args with
    | nil =>
      have hline : Builtin.echoed [t] = t ++ [newline] := by simp [Builtin.echoed, Builtin.joined]
      rw [hline, words_plain_append hne hplain (by simp [delimiters, newline])]
      rfl
    | cons u args =>
      have hspace : ∀ b ∈ (0x20 :: Builtin.echoed (u :: args)).head?, b ∈ delimiters := by
        simp [delimiters]
      rw [echoed_cons_cons, words_plain_append hne hplain hspace, words_cons (by decide),
        ih hargs]

theorem newline_not_mem_joined (h : ∀ t ∈ args, newline ∉ t) : newline ∉ Builtin.joined args := by
  induction args with
  | nil => decide
  | cons t args ih =>
    obtain ⟨ht, hargs⟩ := List.forall_mem_cons.1 h
    cases args with
    | nil => simpa [Builtin.joined] using ht
    | cons u args =>
      have hspace : newline ≠ 0x20 := by decide
      simpa [Builtin.joined, List.intercalate_cons_cons, ht, hspace] using ih hargs

end Token

/-! ## Through the shell -/

namespace Shell

variable (programs : Programs)

/-- The line is a command that goes well, and these bytes are what it writes on the output. -/
def Writes (sh : Shell) (line bytes : Bytes) : Prop :=
  ∃ sh', sh.executeLine programs line = (.ok .continue, sh') ∧ sh'.err = sh.err ∧
    sh'.out.written = sh.out.written ++ bytes

variable {programs} {sh : Shell} {line bytes : Bytes} {args : List Bytes}

theorem Writes.unique {bytes' : Bytes} (h : sh.Writes programs line bytes)
    (h' : sh.Writes programs line bytes') : bytes' = bytes := by
  obtain ⟨sh₁, hline, -, hwritten⟩ := h
  obtain ⟨sh₂, hline', -, hwritten'⟩ := h'
  obtain rfl : sh₁ = sh₂ := congrArg (·.2) (hline.symm.trans hline')
  exact List.append_cancel_left (hwritten'.symm.trans hwritten)

theorem runBuiltin_echo (hout : sh.out.policy = .reliable) (name : Bytes) (args : List Bytes) :
    sh.runBuiltin .echo (name :: args) =
      (.ok .continue, { sh with out := sh.out.taking 2 (Builtin.echoed args) }) := by
  have hprint : Builtin.execute .echo (name :: args) sh.world sh.out =
      { outcome := .ok .continue, world := sh.world,
        out := sh.out.taking 2 (Builtin.echoed args) } := by
    have hflatten : [Builtin.joined args, [newline]].flatten = Builtin.echoed args := by
      simp [Builtin.echoed]
    rw [← hflatten]
    exact Builtin.print_reliable sh.world hout [Builtin.joined args, [newline]]
  simp only [runBuiltin, hprint]
  rfl

theorem writes_echoed (hout : sh.out.policy = .reliable)
    (hline : Token.words line = utf8 "echo" :: args) :
    sh.Writes programs line (Builtin.echoed args) := by
  have hecho : Builtin.find? (utf8 "echo") = some .echo := by decide
  let sh₁ : Shell := (sh.emitAll (Token.split line).events).emit (.runningBuiltin (utf8 "echo"))
  have hsame : sh₁.out = sh.out ∧ sh₁.err = sh.err :=
    ⟨emitAll_out sh (Token.split line).events, emitAll_err sh (Token.split line).events⟩
  have hout₁ : sh₁.out.policy = .reliable := by rw [hsame.1, hout]
  have hrun := runBuiltin_echo hout₁ (utf8 "echo") args
  refine ⟨{ sh₁ with out := sh₁.out.taking 2 (Builtin.echoed args) }, ?_, hsame.2, ?_⟩
  · rw [executeLine, Token.split_tokens, hline, execute, hecho]
    exact hrun
  · rw [Writer.taking_written, hsame.1]

/-- With an output that works, `echo` writes its arguments with a space between each two and a
newline after them. The tokens of that are the arguments, so it comes out of `echo` as it went in,
and `echo` says the same of two lines only if their tokens are the same. -/
theorem writes_echo (programs : Programs) {sh : Shell} (hout : sh.out.policy = .reliable)
    {line : Bytes} {args : List Bytes} (hline : (Token.split line).tokens = utf8 "echo" :: args) :
    let bytes := [0x20].intercalate args ++ [newline]
    sh.Writes programs line bytes ∧
    (∀ bytes', sh.Writes programs line bytes' → bytes' = bytes) ∧
    newline ∉ [0x20].intercalate args ∧
    (Token.split bytes).tokens = args ∧
    (∀ sh' : Shell, sh'.out.policy = .reliable →
      sh'.Writes programs (utf8 "echo " ++ bytes) bytes) ∧
    ∀ (sh' : Shell) (line' bytes' : Bytes), sh'.out.policy = .reliable →
      (Token.split line').tokens.head? = some (utf8 "echo") → sh'.Writes programs line' bytes' →
      (bytes' = bytes ↔ (Token.split line').tokens = (Token.split line).tokens) := by
  intro bytes
  have htoken {line : Bytes} {args : List Bytes} (h : Token.words line = utf8 "echo" :: args) :
      ∀ t ∈ args, Token.IsToken t := by
    intro t ht
    have hmem : t ∈ Token.words line := h ▸ List.mem_cons_of_mem _ ht
    exact Token.isToken_of_mem_words hmem
  simp only [Token.split_tokens] at hline ⊢
  have hargs := htoken hline
  have hwrites : sh.Writes programs line bytes := writes_echoed hout hline
  have htokens : Token.words bytes = args := Token.words_echoed hargs
  refine ⟨hwrites, fun _ => hwrites.unique, ?_, htokens, fun sh' hout' => ?_,
    fun sh' line' bytes' hout' hecho hbytes' => ?_⟩
  · exact Token.newline_not_mem_joined fun t ht hmem => (hargs t ht).2 newline hmem (by decide)
  · refine writes_echoed hout' ?_
    have hagain : utf8 "echo " ++ bytes = utf8 "echo" ++ 0x20 :: bytes := rfl
    rw [hagain, Token.words_append (by decide), htokens]
    rfl
  · obtain ⟨args', hline'⟩ := List.head?_eq_some_iff.1 hecho
    obtain rfl : bytes' = Builtin.echoed args' := (writes_echoed hout' hline').unique hbytes'
    rw [hline, hline', List.cons_inj_right]
    constructor
    · intro h
      rw [← htokens, ← h, Token.words_echoed (htoken hline')]
    · rintro rfl
      rfl

/-- A line with tokens that are no text, and one that says the same with other delimiters. -/
theorem writes_echo_bell :
    let sh : Shell := { world := { files := ⟨#[]⟩, cwd := 0, environment := [] } }
    let line := utf8 "\x07echo\t" ++ [0xFF, 0x0D, 0x20, 0x00, 0x0B]
    let line' := utf8 "echo " ++ [0xFF, 0x09, 0x00, 0x0B] ++ utf8 "\x07"
    let bytes := [0xFF, 0x20, 0x00, 0x0B, 0x0A]
    sh.out.policy = .reliable ∧ (Token.split line).tokens = [utf8 "echo", [0xFF], [0x00, 0x0B]] ∧
      sh.Writes (fun _ => none) line bytes ∧ (Token.split bytes).tokens = [[0xFF], [0x00, 0x0B]] ∧
      sh.Writes (fun _ => none) (utf8 "echo " ++ bytes) bytes ∧
      ∀ bytes', sh.Writes (fun _ => none) line' bytes' → bytes' = bytes := by
  intro sh line line' bytes
  have hline : (Token.split line).tokens = [utf8 "echo", [0xFF], [0x00, 0x0B]] := by decide
  have hout : sh.out.policy = .reliable := rfl
  obtain ⟨hwrites, -, -, htokens, hagain, hsame⟩ := writes_echo (fun _ => none) hout hline
  exact ⟨hout, hline, hwrites, htokens, hagain sh rfl, fun bytes' hbytes' =>
    (hsame sh line' bytes' rfl (by decide) hbytes').2 (by decide)⟩

end Shell

end TinyShell
