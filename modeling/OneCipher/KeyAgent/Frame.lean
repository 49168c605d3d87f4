import OneCipher.Base.Bytes

/-!
# OneCipher.KeyAgent.Frame — length-prefixed frames

A frame is the length of its payload in four big-endian bytes, and the payload.  A reader delivers the bytes in pieces of
any size.  Frames are read back in order; a stream that is cut inside a frame ends in an I/O error, unless the cut is
within a length prefix, which is taken for a clean end (`framesRead_iff`).
-/

namespace OneCipher.KeyAgent.Frame

open Bytes List

inductive FrameError where
  | io
  | frameTooLarge (actual max : Nat)
  | eof

def maxFrameSize : Nat := 4 * 1024 * 1024

/-- What the reads of a reader have to give, one after the other; a read that gives nothing is the end. -/
abbrev Reader := List Bytes

/-- None is `UnexpectedEof`. -/
def readExact : Reader → Nat → Option (Bytes × Reader)
  | r, 0 => some ([], r)
  | [], _ + 1 => none
  | c :: r, n + 1 =>
    if c.isEmpty then none
    else if c.length ≤ n + 1 then (readExact r (n + 1 - c.length)).map fun (b, r) => (c ++ b, r)
    else some (c.take (n + 1), c.drop (n + 1) :: r)

def readFrame (r : Reader) : Except FrameError (Bytes × Reader) :=
  match readExact r 4 with
  | none => .error .eof
  | some (lenBuf, r) =>
    let len := beNat lenBuf
    if len = 0 then .ok ([], r)
    else if maxFrameSize < len then .error (.frameTooLarge len maxFrameSize)
    else match readExact r len with
      | none => .error .io
      | some read => .ok read

/-- The bytes that are written. -/
def writeFrame (payload : Bytes) : Except FrameError Bytes :=
  if maxFrameSize < payload.length ∨ 2 ^ 32 ≤ payload.length then .error (.frameTooLarge payload.length maxFrameSize)
  else .ok (toBe 4 payload.length ++ payload)

/-- Frames are read until there is an error. -/
inductive Reads : Reader → List Bytes → FrameError → Prop
  | stop {r e} : readFrame r = .error e → Reads r [] e
  | frame {r p r' ps e} : readFrame r = .ok (p, r') → Reads r' ps e → Reads r (p :: ps) e

/-- The payloads whose frames are complete in the first `n` bytes, and how much there is of the next frame. -/
def cutAt : List Bytes → Nat → List Bytes × Nat
  | [], _ => ([], 0)
  | p :: ps, n =>
    if n < 4 + p.length then ([], n)
    else (p :: (cutAt ps (n - (4 + p.length))).1, (cutAt ps (n - (4 + p.length))).2)

/-- However the bytes of a cut stream are delivered, the complete payloads are read, and then there is a clean end exactly
where no part of a frame is left. -/
def FramesRead (ps : List Bytes) (cut : Bytes) : Prop :=
  ∀ r : Reader, (∀ c ∈ r, c ≠ []) → r.flatten = cut →
    Reads r (cutAt ps cut.length).1 (if (cutAt ps cut.length).2 = 0 then .eof else .io)

variable {r : Reader} {n : Nat} {p rest cut : Bytes} {ps : List Bytes} {e e' : FrameError}

theorem readExact_cases (hr : ∀ c ∈ r, c ≠ []) :
    readExact r n = none ∧ r.flatten.length < n ∨
      ∃ b r', readExact r n = some (b, r') ∧ r.flatten = b ++ r'.flatten ∧ b.length = n ∧ ∀ c ∈ r', c ≠ [] := by
  induction r generalizing n with
  | nil => cases n <;> simp [readExact]
  | cons c r ih =>
    obtain ⟨hc, hr'⟩ := forall_mem_cons.mp hr
    rcases n with _ | n
    · exact .inr ⟨[], c :: r, rfl, rfl, rfl, hr⟩
    rw [readExact, if_neg (by simpa using hc), flatten_cons, length_append]
    split_ifs with hle
    · obtain ⟨hread, hlt⟩ | ⟨b, r', hread, hflat, hb, hne⟩ := ih (n := n + 1 - c.length) hr' <;> rw [hread]
      · exact .inl ⟨rfl, by omega⟩
      · exact .inr ⟨_, r', rfl, by rw [hflat, append_assoc], by rw [length_append]; omega, hne⟩
    · refine .inr ⟨_, _, rfl, ?_, by rw [length_take]; omega, forall_mem_cons.mpr ⟨?_, hr'⟩⟩
      · rw [flatten_cons, ← append_assoc, take_append_drop]
      · rw [Ne, drop_eq_nil_iff]
        exact hle

/-- A frame is read whole, or it is not there as a whole. -/
theorem readFrame_cases (hr : ∀ c ∈ r, c ≠ []) (hp : p.length ≤ maxFrameSize)
    (h : r.flatten <+: toBe 4 p.length ++ (p ++ rest)) :
    readFrame r = .error (if r.flatten.length < 4 then .eof else .io) ∧ r.flatten.length < 4 + p.length ∨
      ∃ r', readFrame r = .ok (p, r') ∧ r.flatten.length = 4 + p.length + r'.flatten.length ∧ r'.flatten <+: rest ∧
        ∀ c ∈ r', c ≠ [] := by
  obtain ⟨hread, hlt⟩ | ⟨b, r₁, hread, hflat, hb, hne⟩ := readExact_cases (n := 4) hr
  · exact .inl ⟨by rw [readFrame, hread, if_pos hlt], by omega⟩
  obtain ⟨t, ht⟩ := h
  rw [hflat, append_assoc] at ht
  obtain ⟨rfl, htail⟩ := append_inj ht (hb.trans (length_toBe _ _).symm)
  simp only [readFrame, hread, beNat_toBe (hp.trans_lt (by decide) : p.length < 256 ^ 4), hflat, length_append, hb]
  rw [if_neg (not_lt.mpr hp)]
  obtain ⟨hread₂, hlt⟩ | ⟨b₂, r₂, hread₂, hflat₂, hb₂, hne₂⟩ := readExact_cases (n := p.length) hne
  · rw [if_neg (by omega), if_neg (by omega), hread₂]
    exact .inl ⟨rfl, by omega⟩
  · rw [hflat₂, append_assoc] at htail
    obtain ⟨rfl, hrest⟩ := append_inj htail hb₂
    refine .inr ⟨r₂, ?_, by rw [hflat₂, length_append]; omega, ⟨t, hrest⟩, hne₂⟩
    rw [hread₂]
    split_ifs with hzero
    · obtain rfl := length_eq_zero_iff.mp hzero
      rw [length_nil, readExact] at hread₂
      rw [(Prod.mk.inj (Option.some.inj hread₂)).2]
    · rfl

theorem mapM_writeFrame (hps : ∀ p ∈ ps, p.length ≤ maxFrameSize) :
    ps.mapM writeFrame = .ok (ps.map fun p => toBe 4 p.length ++ p) := by
  have hmax : maxFrameSize < 2 ^ 32 := by decide
  induction ps with
  | nil => rfl
  | cons p ps ih =>
    obtain ⟨hp, hps⟩ := forall_mem_cons.mp hps
    rw [mapM_cons, writeFrame, if_neg (by omega), ih hps]
    rfl

/-- What reading gives for the beginning of a stream of frames. -/
theorem reads_cut (hr : ∀ c ∈ r, c ≠ []) (hps : ∀ p ∈ ps, p.length ≤ maxFrameSize)
    (h : r.flatten <+: (ps.map fun p => toBe 4 p.length ++ p).flatten) :
    Reads r (cutAt ps r.flatten.length).1 (if (cutAt ps r.flatten.length).2 < 4 then .eof else .io) := by
  induction ps generalizing r with
  | nil =>
    refine .stop ?_
    obtain ⟨hread, -⟩ | ⟨b, r', -, hflat, hb, -⟩ := readExact_cases (n := 4) hr
    · rw [readFrame, hread]
      rfl
    · rw [prefix_nil.mp h] at hflat
      simp [(append_eq_nil_iff.mp hflat.symm).1] at hb
  | cons p ps ih =>
    obtain ⟨hp, hps⟩ := forall_mem_cons.mp hps
    rw [cutAt]
    obtain ⟨hread, hlt⟩ | ⟨r', hread, hlen, hrest, hne⟩ := readFrame_cases hr hp h
    · rw [if_pos hlt]
      exact .stop hread
    · have hcut : r.flatten.length - (4 + p.length) = r'.flatten.length := by omega
      rw [if_neg (by omega), hcut]
      exact .frame hread (ih hne hps hrest)

theorem Reads.unique (h : Reads r ps e) (h' : Reads r ps e') : e = e' := by
  induction h with
  | stop hr =>
    cases h' with | stop hr' => exact Except.error.inj (hr.symm.trans hr')
  | frame hr _ ih =>
    cases h' with | frame hr' h' => exact ih (by rwa [(Prod.mk.inj (Except.ok.inj (hr.symm.trans hr'))).2])

/-- **When frames are read as they should be**: the stream is not cut within a length prefix. -/
theorem framesRead_iff (ps : List Bytes) (hps : ∀ p ∈ ps, p.length ≤ maxFrameSize) :
    ∃ written, ps.mapM writeFrame = .ok written ∧ ∀ cut, cut <+: written.flatten →
      (FramesRead ps cut ↔ (cutAt ps cut.length).2 = 0 ∨ 4 ≤ (cutAt ps cut.length).2) := by
  refine ⟨_, mapM_writeFrame hps, fun cut hcut => ⟨fun h => ?_, ?_⟩⟩
  · obtain ⟨r, hr, rfl⟩ : ∃ r : Reader, (∀ c ∈ r, c ≠ []) ∧ r.flatten = cut := by
      rcases cut with _ | ⟨x, cut⟩
      · exact ⟨[], by simp⟩
      · exact ⟨[x :: cut], by simp⟩
    have heq := (h r hr rfl).unique (reads_cut hr hps hcut)
    split_ifs at heq with hzero hprefix
    · exact .inl hzero
    · exact .inr (by omega)
  · rintro h r hr rfl
    have hreads := reads_cut hr hps hcut
    split_ifs at hreads ⊢ <;> first | exact hreads | omega

theorem framesRead_iff_short : FramesRead [[7], [], [8, 9]] [0, 0, 0, 1, 7, 0, 0, 0, 0, 0, 0, 0, 2, 8] := by
  obtain ⟨written, hw, h⟩ := framesRead_iff [[7], [], [8, 9]] (by decide)
  cases hw
  exact (h _ (by decide)).mpr (by decide)

/-- A stream that ends after two bytes of a length prefix ends cleanly. -/
theorem cut_prefix_read_as_end : Reads [[0, 0]] [] .eof ∧ ¬ FramesRead [[7]] [0, 0] := by
  have hread : Reads [[0, 0]] [] .eof := .stop rfl
  refine ⟨hread, fun h => ?_⟩
  cases hread.unique (h [[0, 0]] (by decide) rfl)

end OneCipher.KeyAgent.Frame
