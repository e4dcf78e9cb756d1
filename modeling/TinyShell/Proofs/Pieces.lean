import Mathlib.Data.List.TakeWhile
import TinyShell.Proofs.Capacity

/-!
# Lines in pieces

A call that reads a line collects it piece by piece, as the chunks come in (`Stream.pieces`,
`Stream.collect_eq`). After each piece the buffer has the capacity that suits what it holds, and the
growths noted are a chain from one chunk to that capacity (`Stream.next_growth`). Sizes are numbers
without a bound here; `LineBuffer.append?` is the same in words of 64 bits, and goes as far as the
largest capacity.
-/

namespace TinyShell

/-! ## Sizes in words -/

/-- An integer as a word of 64 bits, unless it is out of their range. -/
def word? (n : Int) : Option Nat := if 0 ≤ n ∧ n < 2 ^ 64 then some n.toNat else none

theorem word?_natCast {n : Nat} (h : n < 2 ^ 64) : word? n = some n := by
  rw [word?, if_pos (by omega), Int.toNat_natCast]

theorem word?_sub {m n : Nat} (hle : m ≤ n) (h : n < 2 ^ 64) :
    word? ((n : Int) - m) = some (n - m) := by
  rw [← Int.ofNat_sub hle]
  exact word?_natCast (by omega)

namespace LineBuffer

/-- The bytes that a buffer can hold at most. -/
def maxCapacity : Nat := 2 ^ 63 - 1

/-- The capacity after a reservation: if it has to grow, exactly the length and what is asked for
beyond it. -/
def reserve? (length capacity request : Nat) : Option Nat :=
  if length + request ≤ capacity then some capacity
  else do
    let target ← word? (length + request)
    if target ≤ maxCapacity then some target else none

/-- `makeRoom` where every sum, product and difference has to be a word. -/
def makeRoom? (b : LineBuffer) (extra : Nat) : Option LineBuffer := do
  let needed ← word? (b.bytes.length + extra)
  if b.capacity < needed then
    let target ← word? ((needed ⌈/⌉ chunk) * chunk)
    let request ← word? ((target : Int) - b.bytes.length)
    let capacity ← reserve? b.bytes.length b.capacity request
    some { b with capacity, growth := b.growth ++ [(b.capacity, target)] }
  else some b

def append? (b : LineBuffer) (bytes : Bytes) : Option LineBuffer := do
  let b ← b.makeRoom? bytes.length
  some { b with bytes := b.bytes ++ bytes }

variable {b : LineBuffer}

theorem maxCapacity_lt : maxCapacity < 2 ^ 64 := by decide

theorem mul_chunksFor_le {count : Nat} (h : count ≤ maxCapacity + 1 - chunk) :
    chunk * chunksFor chunk count ≤ maxCapacity := by
  have hchunks : chunksFor chunk count ≤ maxCapacity / chunk := by
    refine (chunksFor_le_iff chunk_pos).2 ⟨by decide, h.trans ?_⟩
    decide
  exact (Nat.mul_le_mul_left chunk hchunks).trans (Nat.mul_div_le maxCapacity chunk)

/-- To ask for what is missing up to a target gives the target. -/
theorem reserve?_eq {length capacity target : Nat} (hle : length ≤ target)
    (hlt : capacity < target) (hmax : target ≤ maxCapacity) :
    reserve? length capacity (target - length) = some target := by
  have hsum : word? (length + (target - length : Nat)) = some target := by
    rw [← Int.natCast_add, Nat.add_sub_cancel' hle]
    exact word?_natCast (hmax.trans_lt maxCapacity_lt)
  rw [reserve?, if_neg (by omega), hsum]
  exact if_pos hmax

/-- A buffer that has a chunk left below the largest capacity grows within the range. -/
theorem makeRoom?_eq {extra : Nat} (h : b.bytes.length + extra ≤ maxCapacity + 1 - chunk) :
    b.makeRoom? extra = some (b.makeRoom extra) := by
  have hpos := chunk_pos
  have hsize := maxCapacity_lt
  have hneeded : word? (b.bytes.length + extra) = some (b.bytes.length + extra) :=
    word?_natCast (by omega)
  by_cases hlt : b.capacity < b.bytes.length + extra
  · have hchunks := chunksFor_of_pos chunk_pos (Nat.zero_lt_of_lt hlt)
    have hmax := mul_chunksFor_le h
    have hroom := le_mul_chunksFor chunk_pos (b.bytes.length + extra)
    have hproduct : word? (((b.bytes.length + extra) ⌈/⌉ chunk) * chunk) =
        some (chunk * chunksFor chunk (b.bytes.length + extra)) := by
      rw [← hchunks, Nat.mul_comm chunk]
      exact word?_natCast (by rw [Nat.mul_comm]; omega)
    have hrequest := word?_sub ((Nat.le_add_right b.bytes.length extra).trans hroom)
      (hmax.trans_lt hsize)
    have hreserve := reserve?_eq ((Nat.le_add_right b.bytes.length extra).trans hroom)
      (hlt.trans_le hroom) hmax
    simp only [makeRoom?, hneeded, hproduct, hrequest, hreserve, Option.bind_eq_bind,
      Option.bind_some, if_pos hlt, makeRoom_of_lt hlt]
  · simp only [makeRoom?, hneeded, makeRoom, Option.bind_eq_bind, Option.bind_some, if_neg hlt]

theorem append?_eq {bytes : Bytes} (h : b.bytes.length + bytes.length ≤ maxCapacity + 1 - chunk) :
    b.append? bytes = some (b.append bytes) := by
  rw [append?, makeRoom?_eq h]
  rfl

theorem foldlM_append? {pieces : List Bytes}
    (h : b.bytes.length + pieces.flatten.length ≤ maxCapacity + 1 - chunk) :
    pieces.foldlM append? b = some (pieces.foldl append b) := by
  induction pieces generalizing b with
  | nil => rfl
  | cons piece pieces ih =>
    rw [List.flatten_cons, List.length_append] at h
    rw [List.foldlM_cons, append?_eq (by omega), List.foldl_cons]
    refine ih ?_
    rw [append_bytes, List.length_append]
    omega

theorem foldl_append_bytes (pieces : List Bytes) (b : LineBuffer) :
    (pieces.foldl append b).bytes = b.bytes ++ pieces.flatten := by
  induction pieces generalizing b with
  | nil => simp
  | cons piece pieces ih => simp [ih, append_bytes]

end LineBuffer

/-! ## Pieces of a line -/

namespace Stream

/-- What a call adds to its line, chunk by chunk: the last piece is what stands before the newline,
nothing perhaps, and an end or a failure adds none. -/
def pieces (s : Stream) (input : Input) : List Bytes :=
  match _ : s.available input with
  | (.interrupted, s', input') => pieces s' input'
  | (.failed _, _, _) => []
  | (.chunk [], _, _) => []
  | (.chunk (x :: xs), s', input') =>
    match (x :: xs).dropWhile (· != newline) with
    | [] => (x :: xs) :: pieces { s' with unread := [] } input'
    | _ :: _ => [(x :: xs).takeWhile (· != newline)]
termination_by s.size input
decreasing_by
  · exact size_lt_of_interrupted s input ‹_›
  · have h₁ := size_available_le s input ‹_›
    have h₂ := unread_of_chunk s input ‹_›
    simp only [size] at h₁ ⊢
    simp only [h₂, List.length_cons, List.length_nil] at h₁ ⊢
    omega

section

variable {s s' : Stream} {input input' : Input} {x y : UInt8} {xs rest : Bytes}

theorem pieces_interrupted (h : s.available input = (.interrupted, s', input')) :
    s.pieces input = s'.pieces input' := by
  rw [pieces.eq_def s]
  split <;> rename_i h₁ <;> rw [h] at h₁ <;> cases h₁
  rfl

theorem pieces_failed {cause : IoError} (h : s.available input = (.failed cause, s', input')) :
    s.pieces input = [] := by
  rw [pieces]
  split <;> rename_i h₁ <;> rw [h] at h₁ <;> cases h₁

theorem pieces_end (h : s.available input = (.chunk [], s', input')) : s.pieces input = [] := by
  rw [pieces]
  split <;> rename_i h₁ <;> rw [h] at h₁ <;> cases h₁

theorem pieces_whole (h : s.available input = (.chunk (x :: xs), s', input'))
    (hx : (x :: xs).dropWhile (· != newline) = []) :
    s.pieces input = (x :: xs) :: pieces { s' with unread := [] } input' := by
  rw [pieces.eq_def s]
  split <;> rename_i h₁ <;> rw [h] at h₁ <;> cases h₁
  rw [hx]

theorem pieces_last (h : s.available input = (.chunk (x :: xs), s', input'))
    (hx : (x :: xs).dropWhile (· != newline) = y :: rest) :
    s.pieces input = [(x :: xs).takeWhile (· != newline)] := by
  rw [pieces]
  split <;> rename_i h₁ <;> rw [h] at h₁ <;> cases h₁
  rw [hx]

end

/-- What a call collects are its pieces, whatever there was before. -/
theorem collect_eq (b : LineBuffer) (s : Stream) (input : Input) :
    (s.collect b input).2.1 = (s.pieces input).foldl LineBuffer.append b := by
  fun_induction collect b s input with
  | case1 b s input s₁ input₁ h₁ ih => rw [ih, pieces_interrupted h₁]
  | case2 b s input cause s₁ input₁ h₁ => rw [pieces_failed h₁, List.foldl_nil]
  | case3 b s input s₁ input₁ h₁ => rw [pieces_end h₁, List.foldl_nil]
  | case4 b s input x xs s₁ input₁ h₁ hx ih => rw [ih, pieces_whole h₁ hx, List.foldl_cons]
  | case5 b s input x xs s₁ input₁ h₁ y rest hx =>
    rw [pieces_last h₁ hx, List.foldl_cons, List.foldl_nil]

/-- Where one more piece is to come, the call stands with the pieces before it collected. -/
theorem exists_collect_eq (b : LineBuffer) (s : Stream) (input : Input) {k : Nat}
    (hk : k < (s.pieces input).length) : ∃ (s' : Stream) (input' : Input),
      s'.pieces input' = (s.pieces input).drop k ∧
      s.collect b input =
        s'.collect (((s.pieces input).take k).foldl LineBuffer.append b) input' := by
  induction k generalizing b s input with
  | zero => exact ⟨s, input, rfl, rfl⟩
  | succ k ih =>
    -- The call is followed through interrupted reads to its first piece; from there on it is `ih`.
    fun_induction collect b s input with
    | case1 b s input s₁ input₁ h₁ ih₁ =>
      rw [pieces_interrupted h₁] at hk ⊢
      exact ih₁ hk
    | case2 b s input cause s₁ input₁ h₁ => simp [pieces_failed h₁] at hk
    | case3 b s input s₁ input₁ h₁ => simp [pieces_end h₁] at hk
    | case4 b s input x xs s₁ input₁ h₁ hx =>
      rw [pieces_whole h₁ hx] at hk ⊢
      exact ih _ _ _ (Nat.lt_of_succ_lt_succ hk)
    | case5 b s input x xs s₁ input₁ h₁ y rest hx => simp [pieces_last h₁ hx] at hk

end Stream

/-- The capacities before and after a growth, if that is what is told. -/
def Event.growth? : Event → Option (Nat × Nat)
  | growingLine capacity target => some (capacity, target)
  | _ => none

theorem LineBuffer.filterMap_events (b : LineBuffer) :
    b.events.filterMap Event.growth? = b.growth := by
  rw [events, List.filterMap_map]
  exact (List.filterMap_congr fun _ _ => rfl).trans List.filterMap_some

namespace Stream

variable {s : Stream} {input : Input}

theorem growth_next (s : Stream) (input : Input) :
    (s.next input).2.1.filterMap Event.growth? = (s.collect {} input).2.1.growth := by
  rcases h : s.collect {} input with ⟨_ | _ | cause, b, s', input'⟩
  · simp only [next, h, LineBuffer.filterMap_events]
  · have hdropped : (if b.bytes.isEmpty then [] else
        [Event.droppingLine b.bytes.length]).filterMap Event.growth? = [] := by
      split <;> rfl
    simp only [next, h, List.filterMap_append, LineBuffer.filterMap_events, hdropped,
      List.append_nil]
  · simp only [next, h, LineBuffer.filterMap_events]

theorem line_next {line : Bytes} (h : (s.next input).1 = .ok (.line line)) :
    line = (s.pieces input).flatten := by
  have hbytes : (s.collect {} input).2.1.bytes = (s.pieces input).flatten := by
    rw [collect_eq, LineBuffer.foldl_append_bytes]
    exact List.nil_append _
  rw [← hbytes]
  rcases hc : s.collect {} input with ⟨_ | _ | cause, b, s', input'⟩ <;>
    simp only [next, hc] at h <;> cases h
  rfl

/-- However a line comes in, after each piece of it the capacity is that of as few whole chunks as
hold it, one at least. The growths that are told form a chain from one chunk to the capacity at the
end, with fewer links than that has chunks. A line that leaves a chunk below the largest capacity is
collected without any size leaving the range of a word. -/
theorem next_growth (s : Stream) (input : Input) :
    let pieces := s.pieces input
    let length := pieces.flatten.length
    let chunk := LineBuffer.chunk
    let held (k : Nat) : LineBuffer := (pieces.take k).foldl LineBuffer.append {}
    let growth := (s.next input).2.1.filterMap Event.growth?
    (held pieces.length = (s.collect {} input).2.1 ∧
      (∀ k < pieces.length, ∃ (s' : Stream) (input' : Input),
        s'.pieces input' = pieces.drop k ∧ s.collect {} input = s'.collect (held k) input') ∧
      ∀ line, (s.next input).1 = .ok (.line line) → line = pieces.flatten) ∧
    (∀ k, (held k).bytes = (pieces.take k).flatten ∧
      (held k).capacity = chunk * max 1 ((held k).bytes.length ⌈/⌉ chunk) ∧
      chunk ∣ (held k).capacity ∧ (held k).bytes.length ≤ (held k).capacity) ∧
    (length ≤ 2 ^ 63 - chunk →
      pieces.foldlM LineBuffer.append? {} = some (held pieces.length)) ∧
    LineBuffer.Grown growth (held pieces.length).capacity ∧
    (∀ last, growth.getLast? = some last → last.2 = chunk * (length ⌈/⌉ chunk)) ∧
    (growth = [] ↔ length ≤ chunk) ∧
    growth.length ≤ length ⌈/⌉ chunk - 1 := by
  intro pieces length chunk held growth
  have hall : held pieces.length = pieces.foldl LineBuffer.append {} := by
    simp only [held, List.take_length]
  have hcollect : held pieces.length = (s.collect {} input).2.1 := by rw [hall, collect_eq]
  have hfits (k : Nat) : (held k).Fits := LineBuffer.fits_empty.foldl_append _
  have hbytes (k : Nat) : (held k).bytes = (pieces.take k).flatten := by
    simp only [held, LineBuffer.foldl_append_bytes, List.nil_append]
  have hlength : (held pieces.length).bytes.length = length := by
    rw [hbytes, List.take_length]
  have hcapacity : (held pieces.length).capacity = chunk * chunksFor chunk length := by
    rw [(hfits _).capacity_eq, hlength]
  have hgrown : LineBuffer.Grown growth (held pieces.length).capacity := by
    have hgrowth : growth = (held pieces.length).growth := by
      rw [hcollect]
      exact growth_next s input
    rw [hgrowth]
    exact (hfits _).grown
  have hempty : growth = [] ↔ length ≤ chunk := by
    rw [hcapacity] at hgrown
    rw [hgrown.eq_nil_iff, chunksFor_eq_one_iff LineBuffer.chunk_pos]
  refine ⟨⟨hcollect, fun k hk => exists_collect_eq {} s input hk, fun line => line_next⟩,
    fun k => ⟨hbytes k, (hfits k).capacity_eq, ?_, (hfits k).length_le⟩, fun h => ?_, hgrown,
    fun last hlast => ?_, hempty, ?_⟩
  · rw [(hfits k).capacity_eq]
    exact Nat.dvd_mul_right ..
  · rw [hall]
    refine LineBuffer.foldlM_append? ?_
    rw [List.length_nil, Nat.zero_add]
    exact h
  · have hpos : 0 < length := by
      refine Nat.pos_of_ne_zero fun hzero => ?_
      have hnil := hempty.2 (hzero ▸ Nat.zero_le _)
      rw [hnil] at hlast
      cases hlast
    rw [hgrown.eq_of_getLast? hlast, hcapacity, chunksFor_of_pos LineBuffer.chunk_pos hpos]
  · have hlt : growth.length < chunksFor chunk length := (hcapacity ▸ hgrown).length_lt
    rw [← chunksFor_sub_one]
    omega

/-- One byte more than a chunk, cut off from its newline. -/
theorem next_growth_second :
    let line : Bytes := List.replicate 1025 0x78
    let s : Stream := { feed := .scripted [.chunk line, .interrupted, .chunk [newline]] }
    let pieces := s.pieces (.bytes [])
    let growth := (s.next (.bytes [])).2.1.filterMap Event.growth?
    (pieces = [line, []] ∧ 1 < pieces.length ∧ ∃ (s' : Stream) (input' : Input),
      s'.pieces input' = [[]] ∧
      s.collect {} (.bytes []) = s'.collect (LineBuffer.append {} line) input') ∧
    ((s.next (.bytes [])).1 = .ok (.line line) ∧ line = pieces.flatten) ∧
    (pieces.flatten.length ≤ 2 ^ 63 - LineBuffer.chunk ∧
      pieces.foldlM LineBuffer.append? {} = some ((LineBuffer.append {} line).append [])) ∧
    ∃ last, growth.getLast? = some last ∧ last.2 = 2048 ∧ growth.length = 1 := by
  intro line s pieces growth
  obtain ⟨⟨-, hpass, hline⟩, -, hwords, -, hlast, hempty, hcount⟩ := next_growth s (.bytes [])
  have hnewline : newline ∉ line := by
    intro hmem
    have heq := List.eq_of_mem_replicate hmem
    revert heq
    decide
  have hpieces : pieces = [line, []] := by
    have hdrop : line.dropWhile (· != newline) = [] := by
      refine List.dropWhile_eq_nil_iff.2 fun b hb => ?_
      rw [List.eq_of_mem_replicate hb]
      decide
    simp only [pieces]
    rw [pieces_whole rfl hdrop, pieces_interrupted rfl, pieces_last rfl rfl]
    rfl
  have hlength : pieces.flatten.length = 1025 := by
    rw [hpieces, List.flatten_cons, List.flatten_cons, List.flatten_nil, List.append_nil,
      List.append_nil, List.length_replicate]
  have hread : (s.next (.bytes [])).1 = .ok (.line line) := by
    have hsymbols : s.symbols (.bytes []) = line.map .byte ++ [.byte newline] := by
      have hchunk : Delivery.symbols (.chunk line) = line.map .byte := rfl
      simp only [s, symbols, Feed.symbols, List.flatMap_cons, hchunk, List.map_nil,
        List.nil_append]
      rfl
    rcases hn : s.next (.bytes []) with ⟨reading, events, s', input'⟩
    have hnext := (next_symbols (s := s) trivial hn).2
    rw [hsymbols, Symbol.next_newline hnewline] at hnext
    exact (congrArg Prod.fst hnext).symm
  have hbound : pieces.flatten.length ≤ 2 ^ 63 - LineBuffer.chunk := by rw [hlength]; decide
  have hgrows : growth ≠ [] := fun hnil => by
    have hle := hempty.1 hnil
    rw [hlength] at hle
    exact absurd hle (by decide)
  have hpass₁ := hpass 1 (by rw [show s.pieces (.bytes []) = [line, []] from hpieces]; decide)
  have hwords₁ := hwords hbound
  rw [show s.pieces (.bytes []) = [line, []] from hpieces] at hpass₁ hwords₁
  refine ⟨⟨hpieces, by rw [hpieces]; decide, hpass₁⟩, ⟨hread, hline line hread⟩, ⟨hbound, ?_⟩, ?_⟩
  · rw [hpieces]
    exact hwords₁
  · refine ⟨growth.getLast hgrows, List.getLast?_eq_some_getLast hgrows, ?_, ?_⟩
    · have htarget := hlast _ (List.getLast?_eq_some_getLast hgrows)
      rw [hlength] at htarget
      exact htarget
    · rw [hlength] at hcount
      exact Nat.le_antisymm hcount (List.length_pos_iff.2 hgrows)

end Stream

end TinyShell
