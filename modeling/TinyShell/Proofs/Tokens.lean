import TinyShell.Token

/-!
# Lines and their tokens

A `Layout` is a line taken apart: tokens, and runs of delimiters before, between and after
them. Every line has a layout, and cutting a line gives the tokens of its layouts, so all of
them have the same (`Token.split_layout`).
-/

namespace TinyShell.Token

/-- A token, and the delimiters before it. -/
structure Piece where
  gap : Bytes
  token : Bytes
  gap_blank : ∀ b ∈ gap, b ∈ delimiters
  token_ne_nil : token ≠ []
  token_plain : ∀ b ∈ token, b ∉ delimiters

def Piece.text (p : Piece) : Bytes := p.gap ++ p.token

/-- Two tokens have a delimiter between them. -/
structure Layout where
  pieces : List Piece
  tail : Bytes
  tail_blank : ∀ b ∈ tail, b ∈ delimiters
  apart : ∀ p ∈ pieces.tail, p.gap ≠ []

namespace Layout

def tokens (l : Layout) : List Bytes := l.pieces.map (·.token)

def line (l : Layout) : Bytes := l.pieces.flatMap Piece.text ++ l.tail

end Layout

theorem isDelimiter_iff (b : UInt8) : isDelimiter b = true ↔ b ∈ delimiters := by
  simp [isDelimiter]

/-! ## Words -/

theorem words_append {d : UInt8} (hd : d ∈ delimiters) (a b : Bytes) :
    words (a ++ d :: b) = words a ++ words b := by
  have hsplit := List.splitOnP_append_cons a b ((isDelimiter_iff d).2 hd)
  rw [words, hsplit, List.filter_append]; rfl

theorem words_cons {d : UInt8} (hd : d ∈ delimiters) (line : Bytes) :
    words (d :: line) = words line :=
  words_append hd [] line

theorem words_blank_append {gap : Bytes} (hgap : ∀ b ∈ gap, b ∈ delimiters) (line : Bytes) :
    words (gap ++ line) = words line := by
  induction gap with
  | nil => rfl
  | cons d gap ih =>
    obtain ⟨hd, hgap⟩ := List.forall_mem_cons.1 hgap
    rw [List.cons_append, words_cons hd, ih hgap]

theorem words_blank {gap : Bytes} (hgap : ∀ b ∈ gap, b ∈ delimiters) : words gap = [] := by
  have h := words_blank_append hgap []
  rw [List.append_nil] at h
  rw [h]; rfl

theorem words_plain {token : Bytes} (hne : token ≠ [])
    (hplain : ∀ b ∈ token, b ∉ delimiters) : words token = [token] := by
  have hsplit : token.splitOnP isDelimiter = [token] :=
    List.splitOnP_eq_singleton fun b hb => by
      rw [← Bool.not_eq_true, isDelimiter_iff]; exact hplain b hb
  simp [words, hsplit, hne]

/-- A token ends where the line does, or at a delimiter. -/
theorem words_plain_append {token : Bytes} (hne : token ≠ [])
    (hplain : ∀ b ∈ token, b ∉ delimiters) {line : Bytes}
    (hline : ∀ b ∈ line.head?, b ∈ delimiters) :
    words (token ++ line) = token :: words line := by
  cases line with
  | nil => rw [List.append_nil, words_plain hne hplain]; rfl
  | cons d line =>
    have hd : d ∈ delimiters := hline d rfl
    rw [words_append hd, words_plain hne hplain, words_cons hd]; rfl

namespace Layout

theorem words_pieces {pieces : List Piece} (apart : ∀ p ∈ pieces.tail, p.gap ≠ [])
    {tail : Bytes} (tail_blank : ∀ b ∈ tail, b ∈ delimiters) :
    words (pieces.flatMap Piece.text ++ tail) = pieces.map (·.token) := by
  induction pieces with
  | nil => exact words_blank tail_blank
  | cons p pieces ih =>
    have happart : ∀ q ∈ pieces.tail, q.gap ≠ [] := fun q hq =>
      apart q (List.mem_of_mem_tail hq)
    -- What follows the token starts with the gap of the next one, or is the tail.
    have hhead : ∀ b ∈ (pieces.flatMap Piece.text ++ tail).head?, b ∈ delimiters := by
      cases pieces with
      | nil => exact fun b hb => tail_blank b (List.mem_of_mem_head? hb)
      | cons q pieces =>
        obtain ⟨d, gap, hgap⟩ := List.exists_cons_of_ne_nil (apart q List.mem_cons_self)
        intro b hb
        have hb : d = b := by simpa [Piece.text, hgap] using hb
        exact q.gap_blank b (by rw [hgap, hb]; exact List.mem_cons_self)
    rw [List.flatMap_cons, Piece.text, List.append_assoc, List.append_assoc,
      words_blank_append p.gap_blank, words_plain_append p.token_ne_nil p.token_plain hhead,
      ih happart]
    rfl

theorem words_line (l : Layout) : words l.line = l.tokens := words_pieces l.apart l.tail_blank

/-- The line with a delimiter before it. -/
def afterDelimiter (d : UInt8) (hd : d ∈ delimiters) : Layout → Layout
  | ⟨[], tail, tail_blank, apart⟩ =>
    ⟨[], d :: tail, List.forall_mem_cons.2 ⟨hd, tail_blank⟩, apart⟩
  | ⟨p :: pieces, tail, tail_blank, apart⟩ =>
    let p := { p with gap := d :: p.gap, gap_blank := List.forall_mem_cons.2 ⟨hd, p.gap_blank⟩ }
    ⟨p :: pieces, tail, tail_blank, apart⟩

/-- The line with some other byte before it, which goes to the first token unless something
stands between. -/
def afterPlain (b : UInt8) (hb : b ∉ delimiters) : Layout → Layout
  | ⟨[], tail, tail_blank, _⟩ =>
    ⟨[⟨[], [b], by simp, by simp, by simpa using hb⟩], tail, tail_blank, by simp⟩
  | ⟨p :: pieces, tail, tail_blank, apart⟩ =>
    if h : p.gap = [] then
      let p := { p with
        token := b :: p.token, token_ne_nil := by simp
        token_plain := List.forall_mem_cons.2 ⟨hb, p.token_plain⟩ }
      ⟨p :: pieces, tail, tail_blank, apart⟩
    else
      ⟨⟨[], [b], by simp, by simp, by simpa using hb⟩ :: p :: pieces, tail, tail_blank,
        List.forall_mem_cons.2 ⟨h, apart⟩⟩

@[simp] theorem line_afterDelimiter {d : UInt8} (hd : d ∈ delimiters) (l : Layout) :
    (l.afterDelimiter d hd).line = d :: l.line := by
  rcases l with ⟨_ | ⟨p, pieces⟩, tail, tail_blank, apart⟩ <;> rfl

@[simp] theorem line_afterPlain {b : UInt8} (hb : b ∉ delimiters) (l : Layout) :
    (l.afterPlain b hb).line = b :: l.line := by
  rcases l with ⟨_ | ⟨p, pieces⟩, tail, tail_blank, apart⟩
  · rfl
  · rw [afterPlain]
    split
    · next h => simp [line, Piece.text, h]
    · rfl

/-- The layout of a line. -/
def of : Bytes → Layout
  | [] => ⟨[], [], by simp, by simp⟩
  | b :: line =>
    if h : b ∈ delimiters then (of line).afterDelimiter b h else (of line).afterPlain b h

theorem line_of (line : Bytes) : (of line).line = line := by
  induction line with
  | nil => rfl
  | cons b line ih =>
    rw [of]
    split
    · rw [line_afterDelimiter, ih]
    · rw [line_afterPlain, ih]

end Layout

/-- What a line can be cut into: a byte at least, and no delimiter. -/
def IsToken (token : Bytes) : Prop := token ≠ [] ∧ ∀ b ∈ token, b ∉ delimiters

theorem isToken_of_mem_words {line token : Bytes} (h : token ∈ words line) : IsToken token := by
  rw [← Layout.line_of line, Layout.words_line] at h
  obtain ⟨piece, -, rfl⟩ := List.mem_map.1 h
  exact ⟨piece.token_ne_nil, piece.token_plain⟩

theorem words_eq_nil_iff {line : Bytes} : words line = [] ↔ ∀ b ∈ line, b ∈ delimiters := by
  refine ⟨fun h => ?_, words_blank⟩
  have hpieces : (Layout.of line).pieces = [] := by
    rw [← Layout.line_of line, Layout.words_line] at h
    exact List.map_eq_nil_iff.1 h
  rw [← Layout.line_of line, Layout.line, hpieces]
  exact (Layout.of line).tail_blank

/-- Cutting a line gives the tokens of any layout of it, and it has one. It can be cut in
two at a delimiter first. -/
theorem split_layout :
    (∀ (line : Bytes) (tokens : List Bytes),
      (split line).tokens = tokens ↔ ∃ l : Layout, l.line = line ∧ l.tokens = tokens) ∧
    ∀ (a b : Bytes), ∀ d ∈ delimiters,
      (split (a ++ d :: b)).tokens = (split a).tokens ++ (split b).tokens := by
  refine ⟨fun line tokens => ?_, fun a b d hd => ?_⟩
  · rw [split_tokens]
    constructor
    · rintro rfl
      have h := (Layout.of line).words_line
      rw [Layout.line_of] at h
      exact ⟨.of line, Layout.line_of line, h.symm⟩
    · rintro ⟨l, rfl, rfl⟩
      exact l.words_line
  · simp only [split_tokens, words_append hd]

theorem split_layout_bell :
    0x07 ∈ delimiters ∧
      (split (utf8 "\r mkdir\t" ++ 0x07 :: [0x61, 0xFF, 0x00, 0x0B, 0x20])).tokens =
        [utf8 "mkdir", [0x61, 0xFF, 0x00, 0x0B]] := by
  have hd : (0x07 : UInt8) ∈ delimiters := by decide
  exact ⟨hd, (split_layout.2 _ _ _ hd).trans (by decide)⟩

end TinyShell.Token
