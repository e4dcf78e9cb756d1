import Mathlib.Algebra.Order.Floor.Div
import TinyShell.Proofs.Symbols
import TinyShell.Token

/-!
# Capacities

The buffers for tokens and for lines grow when what comes next has no room. Yet at any time the
capacity depends on how much is held and on nothing else: it is `chunksFor` that much, in chunks.
`Token.split_growth` reads off it when the buffer for tokens grows; for the buffer of a line
`LineBuffer.Fits` is kept by every piece added, and `LineBuffer.Grown` is what its record looks
like.
-/

namespace TinyShell

/-! ## Whole chunks -/

/-- How many chunks of a size hold so much, one at least. -/
def chunksFor (size count : Nat) : Nat := max 1 (count ⌈/⌉ size)

section

variable {size count more n : Nat}

theorem one_le_chunksFor (size count : Nat) : 1 ≤ chunksFor size count := Nat.le_max_left ..

theorem chunksFor_le_iff (h : 0 < size) : chunksFor size count ≤ n ↔ 1 ≤ n ∧ count ≤ size * n := by
  rw [chunksFor, Nat.max_le, ceilDiv_le_iff_le_mul h]

theorem le_mul_chunksFor (h : 0 < size) (count : Nat) : count ≤ size * chunksFor size count :=
  ((chunksFor_le_iff h).1 (Nat.le_refl _)).2

/-- What fits in the chunks that are there needs no more of them. -/
theorem chunksFor_of_le (h : 0 < size) (hle : count ≤ more)
    (hfits : more ≤ size * chunksFor size count) : chunksFor size more = chunksFor size count := by
  refine Nat.le_antisymm ?_ ?_
  · exact (chunksFor_le_iff h).2 ⟨one_le_chunksFor size count, hfits⟩
  · have hmore := le_mul_chunksFor h more
    exact (chunksFor_le_iff h).2 ⟨one_le_chunksFor size more, hle.trans hmore⟩

theorem chunksFor_lt_of_lt (h : 0 < size) (hlt : size * chunksFor size count < more) :
    chunksFor size count < chunksFor size more := by
  have hmore := hlt.trans_le (le_mul_chunksFor h more)
  exact Nat.lt_of_mul_lt_mul_left hmore

theorem chunksFor_of_pos (h : 0 < size) (hpos : 0 < count) :
    chunksFor size count = count ⌈/⌉ size := by
  refine Nat.max_eq_right (Nat.one_le_iff_ne_zero.2 fun hzero => ?_)
  have hle := (ceilDiv_le_iff_le_mul h).1 (Nat.le_of_eq hzero)
  rw [Nat.mul_zero] at hle
  omega

theorem chunksFor_sub_one (size count : Nat) :
    chunksFor size count - 1 = count ⌈/⌉ size - 1 := by
  unfold chunksFor
  omega

/-- One more than is held by full chunks takes one chunk more. -/
theorem chunksFor_succ (h : 0 < size) (hfull : count = size * chunksFor size count) :
    chunksFor size (count + 1) = chunksFor size count + 1 := by
  refine Nat.le_antisymm ?_ ?_
  · refine (chunksFor_le_iff h).2 ⟨Nat.le_add_left .., ?_⟩
    rw [Nat.mul_succ, ← hfull]
    omega
  · exact chunksFor_lt_of_lt h (by omega)

theorem chunksFor_eq_one_iff (h : 0 < size) : chunksFor size count = 1 ↔ count ≤ size := by
  have hle : chunksFor size count ≤ 1 ↔ 1 ≤ 1 ∧ count ≤ size * 1 := chunksFor_le_iff h
  have hone := one_le_chunksFor size count
  omega

end

/-! ## Tokens -/

namespace Token

theorem chunk_pos : 0 < chunk := by decide

namespace Buffer

/-- The capacity is what the tokens need, and each chunk but the last was full once. -/
structure Fits (b : Buffer) : Prop where
  capacity_eq : b.capacity = chunk * chunksFor chunk b.tokens.length
  growth_eq : b.growth =
    (List.range (chunksFor chunk b.tokens.length - 1)).map fun k => chunk * (k + 1)

variable {b : Buffer}

theorem fits_empty : Fits {} := ⟨rfl, rfl⟩

theorem Fits.length_le (h : b.Fits) : b.tokens.length ≤ b.capacity := by
  rw [h.capacity_eq]
  exact le_mul_chunksFor chunk_pos _

/-- There is room for a token where one is put. -/
theorem Fits.length_lt (h : b.Fits) : b.makeRoom.tokens.length < b.makeRoom.capacity := by
  have hpos := chunk_pos
  have hle := h.length_le
  unfold makeRoom
  split
  · show b.tokens.length < b.capacity + chunk
    omega
  · next hfull => exact Nat.lt_of_le_of_ne hle hfull

theorem Fits.push (h : b.Fits) (token : Bytes) : (b.push token).Fits := by
  have hlength : (b.push token).tokens.length = b.tokens.length + 1 := by simp
  by_cases hfull : b.tokens.length = b.capacity
  · have hchunks := chunksFor_succ chunk_pos (hfull.trans h.capacity_eq)
    obtain ⟨m, hm⟩ := Nat.exists_eq_add_of_le' (one_le_chunksFor chunk b.tokens.length)
    have hpush : b.push token = {
        tokens := b.tokens ++ [token], capacity := b.capacity + chunk,
        growth := b.growth ++ [b.capacity] } := by
      rw [Buffer.push, makeRoom, if_pos hfull]
    constructor
    · rw [hlength, hchunks, Nat.mul_succ, ← h.capacity_eq, hpush]
    -- The capacity noted is that of the chunks so far, the next in the range.
    · rw [hlength, hchunks, hpush]
      simp only [h.growth_eq, h.capacity_eq, hm, Nat.add_sub_cancel, List.range_succ,
        List.map_append, List.map_cons, List.map_nil]
  · have hfits : b.tokens.length + 1 ≤ chunk * chunksFor chunk b.tokens.length := by
      rw [← h.capacity_eq]
      exact Nat.lt_of_le_of_ne h.length_le hfull
    have hchunks := chunksFor_of_le chunk_pos (Nat.le_succ _) hfits
    have hpush : b.push token = { b with tokens := b.tokens ++ [token] } := by
      rw [Buffer.push, makeRoom, if_neg hfull]
    constructor
    · rw [hlength, hchunks, ← h.capacity_eq, hpush]
    · rw [hlength, hchunks, ← h.growth_eq, hpush]

theorem Fits.foldl_push (h : b.Fits) (tokens : List Bytes) : (tokens.foldl Buffer.push b).Fits := by
  induction tokens generalizing b with
  | nil => exact h
  | cons token tokens ih => exact ih (h.push token)

end Buffer

/-- While a line is cut into tokens their buffer has whole chunks of room, and a token is put only
where there is room for it. The growth is told once for each chunk but the last, and so depends on
the number of tokens alone. -/
theorem split_growth (line : Bytes) :
    let n := (words line).length
    let held (k : Nat) : Buffer := ((words line).take k).foldl Buffer.push {}
    held n = split line ∧
    (∀ k, (held k).tokens = (words line).take k ∧
      0 < (held k).capacity ∧ chunk ∣ (held k).capacity ∧
      (held k).tokens.length ≤ (held k).capacity ∧
      (held k).makeRoom.tokens.length < (held k).makeRoom.capacity) ∧
    (split line).events =
      (List.range (n ⌈/⌉ chunk - 1)).map (fun k => Event.growingTokens (chunk * (k + 1))) ∧
    ((split line).events = [] ↔ n ≤ chunk) := by
  intro n held
  have hall : held n = split line := by
    simp only [held, n, List.take_length, split]
  have hfits (k : Nat) : (held k).Fits := Buffer.fits_empty.foldl_push _
  have hevents : (split line).events =
      (List.range (n ⌈/⌉ chunk - 1)).map (fun k => Event.growingTokens (chunk * (k + 1))) := by
    have htokens : (held n).tokens.length = n := by rw [hall, split_tokens]
    rw [← hall, Buffer.events, (hfits n).growth_eq, htokens, chunksFor_sub_one, List.map_map]
    rfl
  refine ⟨hall, fun k => ⟨?_, ?_, ?_, (hfits k).length_le, (hfits k).length_lt⟩, hevents, ?_⟩
  · simp only [held, Buffer.foldl_push_tokens, List.nil_append]
  · rw [(hfits k).capacity_eq]
    exact Nat.mul_pos chunk_pos (one_le_chunksFor ..)
  · rw [(hfits k).capacity_eq]
    exact Nat.dvd_mul_right ..
  · rw [hevents, List.map_eq_nil_iff, List.range_eq_nil, ← chunksFor_sub_one,
      ← chunksFor_eq_one_iff chunk_pos]
    have := one_le_chunksFor chunk n
    omega

end Token

/-! ## Lines -/

namespace LineBuffer

theorem chunk_pos : 0 < chunk := by decide

/-- A chain of growths from one chunk to this capacity: each starts where the one before it ended,
and ends at a larger multiple of a chunk. -/
inductive Grown : List (Nat × Nat) → Nat → Prop where
  | start : Grown [] chunk
  | step {growth : List (Nat × Nat)} {capacity target : Nat} : Grown growth capacity →
      capacity < target → chunk ∣ target → Grown (growth ++ [(capacity, target)]) target

namespace Grown

variable {growth : List (Nat × Nat)} {capacity n : Nat}

theorem exists_length_lt (h : Grown growth capacity) :
    ∃ n, capacity = chunk * n ∧ growth.length < n := by
  induction h with
  | start => exact ⟨1, rfl, Nat.one_pos⟩
  | step _ hlt hdvd ih =>
    obtain ⟨n, rfl, hn⟩ := ih
    obtain ⟨m, rfl⟩ := hdvd
    have hnm : n < m := Nat.lt_of_mul_lt_mul_left hlt
    refine ⟨m, rfl, ?_⟩
    rw [List.length_append, List.length_singleton]
    omega

theorem length_lt (h : Grown growth (chunk * n)) : growth.length < n := by
  obtain ⟨m, hm, hlt⟩ := h.exists_length_lt
  rwa [Nat.eq_of_mul_eq_mul_left chunk_pos hm]

theorem eq_of_getLast? {last : Nat × Nat} (h : Grown growth capacity)
    (hlast : growth.getLast? = some last) : last.2 = capacity := by
  cases h with
  | start => cases hlast
  | step =>
    rw [List.getLast?_concat] at hlast
    cases hlast
    rfl

theorem eq_chunk (h : Grown growth capacity) (hnil : growth = []) : capacity = chunk := by
  cases h with
  | start => rfl
  | step => exact absurd hnil (List.append_ne_nil_of_right_ne_nil _ (List.cons_ne_nil _ _))

theorem eq_nil_iff (h : Grown growth (chunk * n)) : growth = [] ↔ n = 1 := by
  constructor
  · intro hnil
    exact Nat.eq_of_mul_eq_mul_left chunk_pos (h.eq_chunk hnil)
  · rintro rfl
    exact List.length_eq_zero_iff.1 (Nat.lt_one_iff.1 h.length_lt)

end Grown

/-- The capacity is what the bytes need, and the growths led to it. -/
structure Fits (b : LineBuffer) : Prop where
  capacity_eq : b.capacity = chunk * chunksFor chunk b.bytes.length
  grown : Grown b.growth b.capacity

variable {b : LineBuffer}

theorem fits_empty : Fits {} := ⟨rfl, .start⟩

theorem Fits.length_le (h : b.Fits) : b.bytes.length ≤ b.capacity := by
  rw [h.capacity_eq]
  exact le_mul_chunksFor chunk_pos _

/-- Where a piece has no room, there are as many chunks afterwards as it takes. -/
theorem makeRoom_of_lt {extra : Nat} (hlt : b.capacity < b.bytes.length + extra) :
    b.makeRoom extra = { b with
      capacity := chunk * chunksFor chunk (b.bytes.length + extra)
      growth := b.growth ++ [(b.capacity, chunk * chunksFor chunk (b.bytes.length + extra))] } := by
  have htarget : (b.bytes.length + extra + chunk - 1) / chunk * chunk =
      chunk * chunksFor chunk (b.bytes.length + extra) := by
    rw [chunksFor_of_pos chunk_pos (Nat.zero_lt_of_lt hlt), Nat.ceilDiv_eq_add_pred_div,
      Nat.mul_comm]
  simp only [makeRoom, if_pos hlt, htarget]

theorem Fits.append (h : b.Fits) (bytes : Bytes) : (b.append bytes).Fits := by
  have hlength : (b.append bytes).bytes.length = b.bytes.length + bytes.length := by
    rw [append_bytes, List.length_append]
  by_cases hlt : b.capacity < b.bytes.length + bytes.length
  · have hgrows : b.capacity < chunk * chunksFor chunk (b.bytes.length + bytes.length) :=
      hlt.trans_le (le_mul_chunksFor chunk_pos _)
    have happend : b.append bytes = {
        bytes := b.bytes ++ bytes
        capacity := chunk * chunksFor chunk (b.bytes.length + bytes.length)
        growth := b.growth ++
          [(b.capacity, chunk * chunksFor chunk (b.bytes.length + bytes.length))] } := by
      rw [LineBuffer.append, makeRoom_of_lt hlt]
    constructor
    · rw [hlength, happend]
    · rw [happend]
      exact .step h.grown hgrows (Nat.dvd_mul_right ..)
  · have happend : b.append bytes = { b with bytes := b.bytes ++ bytes } := by
      rw [LineBuffer.append, makeRoom, if_neg hlt]
    have hchunks := chunksFor_of_le chunk_pos (Nat.le_add_right b.bytes.length bytes.length)
      (h.capacity_eq ▸ Nat.le_of_not_lt hlt)
    constructor
    · rw [hlength, hchunks, ← h.capacity_eq, happend]
    · rw [happend]
      exact h.grown

theorem Fits.foldl_append (h : b.Fits) (pieces : List Bytes) :
    (pieces.foldl LineBuffer.append b).Fits := by
  induction pieces generalizing b with
  | nil => exact h
  | cons piece pieces ih => exact ih (h.append piece)

end LineBuffer

end TinyShell
