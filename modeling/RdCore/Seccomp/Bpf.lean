import Mathlib

/-!
# RdCore — classic BPF as the kernel runs a seccomp filter

`seccomp_filter_rewriter.rs` reads a classic-BPF program out of the tracee,
rewrites its `RET` constants and hands the result to the kernel. What the
rewrite preserves is a statement about how the kernel *runs* such a program,
so this module fixes that semantics: the instruction encoding of
`linux/filter.h`, the `seccomp_data` packet a filter reads, and an interpreter
for the instruction subset the kernel's seccomp checker admits.

Two points of the kernel's semantics matter below:

* a program starts with `A = X = 0` (`bpf_convert_filter` zeroes both) and
  with the scratch words zero (the checker rejects a load before a store, so
  their initial value is never observed by an accepted program);
* a division or modulo by a zero `X` ends the filter with result `0`
  ("For cBPF programs, this was always return 0"), without any `RET`.

Jumps are forward only, relative to the next instruction; as in the kernel's
own checker, a jump is a number of instructions to skip, so the interpreter
runs on the remaining instruction list and a jump drops a prefix of it. Every
step consumes at least one instruction, which bounds the run by the program
length (`run` spends exactly that much fuel).

The one structural fact the rewriter needs is `run_retMap`: replacing the
constant of every `RET` instruction through a function `g` changes a run only
by applying `g` to the constant it returns.
-/

namespace RdCore.Seccomp

/-! ## Encoding -/

/-- `struct sock_filter`: one classic BPF instruction. -/
structure SockFilter where
  code : UInt16
  jt : UInt8
  jf : UInt8
  k : UInt32
  deriving DecidableEq, Repr

/-- `BPF_RET`, the instruction class of a return. -/
def bpfRet : UInt32 := 0x06

/-- `BPF_K`: the operand is the instruction's constant. -/
def bpfK : UInt32 := 0x00

/-- `BPF_CLASS(code)` (`seccomp_filter_rewriter.rs`). -/
def bpfClass (code : UInt16) : UInt32 := code.toUInt32 &&& 0x07

/-- `BPF_RVAL(code)`: the operand of a `RET` (`BPF_K`, `BPF_X` or `BPF_A`). -/
def bpfRval (code : UInt16) : UInt32 := code.toUInt32 &&& 0x18

theorem bpfClass_toNat (code : UInt16) : (bpfClass code).toNat = code.toNat % 8 := by
  simp only [bpfClass, UInt32.and_toNat]
  exact Nat.and_pow_two_sub_one_eq_mod _ 3

/-- `struct seccomp_data`, the packet a seccomp filter inspects. -/
structure SeccompData where
  nr : UInt32
  arch : UInt32
  instructionPointer : UInt64
  args : Fin 6 → UInt64

/-- The 32-bit word at byte offset `off` of `seccomp_data` (x86 is
little-endian). The seccomp checker admits only 4-aligned offsets below
`sizeof(struct seccomp_data) = 64`. -/
def SeccompData.loadWord (d : SeccompData) (off : UInt32) : Option UInt32 :=
  if off.toNat % 4 ≠ 0 ∨ 64 ≤ off.toNat then none
  else
    let w := off.toNat / 4
    some <|
      if w = 0 then d.nr
      else if w = 1 then d.arch
      else if w = 2 then d.instructionPointer.toUInt32
      else if w = 3 then (d.instructionPointer >>> 32).toUInt32
      else
        let arg := d.args (Fin.ofNat ((w - 4) / 2))
        if w % 2 = 0 then arg.toUInt32 else (arg >>> 32).toUInt32

/-- Byte offset of `instruction_pointer` in `struct seccomp_data`. -/
def instructionPointerOffset : UInt32 := 8

@[simp] theorem loadWord_instructionPointer (d : SeccompData) :
    d.loadWord instructionPointerOffset = some d.instructionPointer.toUInt32 := rfl

/-! ## Machine state and single steps -/

/-- The filter's registers: accumulator `A`, index `X` and the sixteen scratch
words `M[]`. -/
structure BpfState where
  a : UInt32
  x : UInt32
  mem : Nat → UInt32

/-- The state a filter starts in. -/
def BpfState.init : BpfState := ⟨0, 0, fun _ => 0⟩

/-- How a filter run ends. -/
inductive Outcome where
  /-- `BPF_RET | BPF_K`: the instruction's constant. -/
  | retK (k : UInt32)
  /-- `BPF_RET | BPF_A`: the accumulator. -/
  | retA (v : UInt32)
  /-- Division or modulo by a zero `X`. -/
  | divZero
  deriving DecidableEq, Repr

/-- The 32-bit value the kernel takes as the filter's result. -/
def Outcome.verdict : Outcome → UInt32
  | .retK k => k
  | .retA v => v
  | .divZero => 0

/-- Apply `g` to the constant of a `RET | K` outcome. -/
def Outcome.mapK (g : UInt32 → UInt32) : Outcome → Outcome
  | .retK k => .retK (g k)
  | o => o

/-- The effect of one instruction. -/
inductive Step where
  /-- Continue after skipping `skip` instructions. -/
  | cont (skip : Nat) (s : BpfState)
  | stop (o : Outcome)
  /-- An instruction the kernel's checker rejects. -/
  | reject

/-- `BPF_LD`: immediate, absolute word, scratch word, packet length. -/
def ldStep (d : SeccompData) (u : SockFilter) (s : BpfState) : Step :=
  match u.code.toNat with
  | 0x00 => .cont 0 { s with a := u.k }
  | 0x20 =>
    match d.loadWord u.k with
    | some w => .cont 0 { s with a := w }
    | none => .reject
  | 0x60 => if u.k.toNat < 16 then .cont 0 { s with a := s.mem u.k.toNat } else .reject
  | 0x80 => .cont 0 { s with a := 64 }
  | _ => .reject

/-- `BPF_LDX`: immediate, scratch word, packet length. -/
def ldxStep (u : SockFilter) (s : BpfState) : Step :=
  match u.code.toNat with
  | 0x01 => .cont 0 { s with x := u.k }
  | 0x61 => if u.k.toNat < 16 then .cont 0 { s with x := s.mem u.k.toNat } else .reject
  | 0x81 => .cont 0 { s with x := 64 }
  | _ => .reject

/-- `BPF_ST` and `BPF_STX`: store `A` or `X` into a scratch word. -/
def stStep (u : SockFilter) (s : BpfState) (v : UInt32) (code : Nat) : Step :=
  if u.code.toNat = code ∧ u.k.toNat < 16 then
    .cont 0 { s with mem := Function.update s.mem u.k.toNat v }
  else .reject

/-- `BPF_ALU`. The operand is `k` or `X` by bit `0x08`; the checker rejects a
constant divisor of zero and a constant shift of 32 or more. -/
def aluStep (u : SockFilter) (s : BpfState) : Step :=
  let c := u.code.toNat
  let fromK := c / 8 % 2 = 0
  let b := if fromK then u.k else s.x
  let set (v : UInt32) : Step := .cont 0 { s with a := v }
  let divide (f : UInt32 → UInt32 → UInt32) : Step :=
    if b = 0 then (if fromK then .reject else .stop .divZero) else set (f s.a b)
  let shift (f : UInt32 → UInt32 → UInt32) : Step :=
    if fromK ∧ 32 ≤ u.k.toNat then .reject else set (f s.a b)
  if 0x100 ≤ c then .reject
  else
    match c / 16 with
    | 0x0 => set (s.a + b)
    | 0x1 => set (s.a - b)
    | 0x2 => set (s.a * b)
    | 0x3 => divide (· / ·)
    | 0x4 => set (s.a ||| b)
    | 0x5 => set (s.a &&& b)
    | 0x6 => shift (· <<< ·)
    | 0x7 => shift (· >>> ·)
    | 0x8 => if c = 0x84 then set (0 - s.a) else .reject
    | 0x9 => divide (· % ·)
    | 0xa => set (s.a ^^^ b)
    | _ => .reject

/-- `BPF_JMP`: `JA` skips `k` instructions, the conditional jumps skip `jt` or
`jf`. -/
def jmpStep (u : SockFilter) (s : BpfState) : Step :=
  let c := u.code.toNat
  let b := if c / 8 % 2 = 0 then u.k else s.x
  let branch (t : Bool) : Step := .cont (if t then u.jt.toNat else u.jf.toNat) s
  match c with
  | 0x05 => .cont u.k.toNat s
  | 0x15 | 0x1d => branch (s.a == b)
  | 0x25 | 0x2d => branch (decide (b < s.a))
  | 0x35 | 0x3d => branch (decide (b ≤ s.a))
  | 0x45 | 0x4d => branch (s.a &&& b != 0)
  | _ => .reject

/-- `BPF_RET`: only `RET | K` and `RET | A` exist. -/
def retStep (u : SockFilter) (s : BpfState) : Step :=
  if u.code = 0x06 then .stop (.retK u.k)
  else if u.code = 0x16 then .stop (.retA s.a)
  else .reject

/-- `BPF_MISC`: `TAX` and `TXA`. -/
def miscStep (u : SockFilter) (s : BpfState) : Step :=
  if u.code = 0x07 then .cont 0 { s with x := s.a }
  else if u.code = 0x87 then .cont 0 { s with a := s.x }
  else .reject

/-- One instruction, dispatched on `BPF_CLASS` as the kernel does. -/
def step (d : SeccompData) (u : SockFilter) (s : BpfState) : Step :=
  match (bpfClass u.code).toNat with
  | 0 => ldStep d u s
  | 1 => ldxStep u s
  | 2 => stStep u s s.a 0x02
  | 3 => stStep u s s.x 0x03
  | 4 => aluStep u s
  | 5 => jmpStep u s
  | 6 => retStep u s
  | _ => miscStep u s

/-! ## Runs -/

/-- Run with `fuel` steps at most; `none` when the program is rejected or
runs off its end. -/
def runFuel (d : SeccompData) : Nat → List SockFilter → BpfState → Option Outcome
  | 0, _, _ => none
  | _ + 1, [], _ => none
  | n + 1, u :: rest, s =>
    match step d u s with
    | .cont skip s' => runFuel d n (rest.drop skip) s'
    | .stop o => some o
    | .reject => none

/-- Run a program from state `s`; each step consumes an instruction, so the
program length is enough fuel. -/
def run (d : SeccompData) (p : List SockFilter) (s : BpfState) : Option Outcome :=
  runFuel d p.length p s

/-- The filter's result on `d`, started as the kernel starts it. -/
def SockFilter.verdict (p : List SockFilter) (d : SeccompData) : Option UInt32 :=
  (run d p BpfState.init).map Outcome.verdict

/-- Fuel beyond the program length changes nothing. -/
theorem runFuel_congr (d : SeccompData) :
    ∀ (n m : Nat) (p : List SockFilter) (s : BpfState),
      p.length ≤ n → p.length ≤ m → runFuel d n p s = runFuel d m p s
  | 0, m, [], s, _, _ => by cases m <;> rfl
  | n + 1, 0, [], s, _, _ => rfl
  | n + 1, m + 1, [], s, _, _ => rfl
  | n + 1, m + 1, u :: rest, s, hn, hm => by
    simp only [runFuel]
    split
    · exact runFuel_congr d n m _ _ (by simp only [List.length_cons] at hn; simp; omega)
        (by simp only [List.length_cons] at hm; simp; omega)
    · rfl
    · rfl
  | 0, _, _ :: _, _, hn, _ => by simp at hn
  | _ + 1, 0, _ :: _, _, _, hm => by simp at hm

@[simp] theorem run_nil (d : SeccompData) (s : BpfState) : run d [] s = none := rfl

/-- The unfolding equation of `run`: one step, then the rest of the program. -/
theorem run_cons (d : SeccompData) (u : SockFilter) (rest : List SockFilter) (s : BpfState) :
    run d (u :: rest) s =
      match step d u s with
      | .cont skip s' => run d (rest.drop skip) s'
      | .stop o => some o
      | .reject => none := by
  simp only [run, List.length_cons, runFuel]
  split
  · exact runFuel_congr d _ _ _ _ (by simp only [List.length_drop]; omega) le_rfl
  · rfl
  · rfl

/-! ## Rewriting return constants -/

/-- Replace the constant of a `RET`-class instruction through `g`. -/
def retMap (g : UInt32 → UInt32) (u : SockFilter) : SockFilter :=
  if bpfClass u.code = bpfRet then { u with k := g u.k } else u

/-- Apply `g` to the outcome of a step that returns a constant. -/
def Step.mapK (g : UInt32 → UInt32) : Step → Step
  | .stop o => .stop (o.mapK g)
  | st => st

theorem Step.mapK_of_ne (g : UInt32 → UInt32) {st : Step} (h : ∀ k, st ≠ .stop (.retK k)) :
    st.mapK g = st := by
  cases st with
  | stop o => cases o with
    | retK k => exact absurd rfl (h k)
    | _ => rfl
  | _ => rfl

/-- Outside the `RET` class the only way to stop is a division by zero. -/
theorem step_stop_of_ne_ret (d : SeccompData) {u : SockFilter} {s : BpfState} {o : Outcome}
    (hu : bpfClass u.code ≠ bpfRet) (h : step d u s = .stop o) : o = .divZero := by
  have hc : (bpfClass u.code).toNat ≠ 6 := fun h =>
    hu (UInt32.eq_of_toBitVec_eq (BitVec.eq_of_toNat_eq h))
  unfold step at h
  split at h
  · unfold ldStep at h; split at h <;> (try split at h) <;> simp at h
  · unfold ldxStep at h; split at h <;> (try split_ifs at h) <;> simp at h
  · unfold stStep at h; split_ifs at h
  · unfold stStep at h; split_ifs at h
  · simp only [aluStep] at h; split_ifs at h <;> (try split at h) <;> simp at h <;> exact h.symm
  · simp only [jmpStep] at h; split at h <;> simp at h
  · contradiction
  · unfold miscStep at h; split_ifs at h

/-- Only `RET | K` ends a run with a constant. -/
theorem step_ne_retK (d : SeccompData) (u : SockFilter) (s : BpfState)
    (hu : bpfClass u.code ≠ bpfRet) (k : UInt32) : step d u s ≠ .stop (.retK k) :=
  fun h => nomatch step_stop_of_ne_ret d hu h

/-- A `RET` instruction reads its constant only to return it; every other
instruction is left alone by `retMap`. -/
theorem step_retMap (d : SeccompData) (g : UInt32 → UInt32) (u : SockFilter) (s : BpfState) :
    step d (retMap g u) s = (step d u s).mapK g := by
  unfold retMap
  split_ifs with h
  · have hc : (bpfClass u.code).toNat = 6 := by rw [h]; rfl
    simp only [step, hc, retStep]
    split_ifs <;> rfl
  · exact (Step.mapK_of_ne g (step_ne_retK d u s h)).symm

/-- **Lockstep.** A program whose `RET` constants went through `g` runs
exactly as the original and returns `g` of the constant the original
returns; a `RET | A`, a division by zero and a rejection are unchanged. -/
theorem runFuel_retMap (d : SeccompData) (g : UInt32 → UInt32) :
    ∀ (n : Nat) (p : List SockFilter) (s : BpfState),
      runFuel d n (p.map (retMap g)) s = (runFuel d n p s).map (Outcome.mapK g)
  | 0, _, _ => rfl
  | _ + 1, [], _ => rfl
  | n + 1, u :: rest, s => by
    simp only [List.map_cons, runFuel, step_retMap]
    cases step d u s with
    | cont skip s' => simpa [Step.mapK, ← List.map_drop] using runFuel_retMap d g n (rest.drop skip) s'
    | stop o => rfl
    | reject => rfl

/-- A constant outcome is the constant of a `RET | K` instruction. -/
theorem step_retK (d : SeccompData) {u : SockFilter} {s : BpfState} {k : UInt32}
    (h : step d u s = .stop (.retK k)) : u.code = 0x06 ∧ u.k = k := by
  by_cases hc : bpfClass u.code = bpfRet
  · have hc6 : (bpfClass u.code).toNat = 6 := by rw [hc]; rfl
    simp only [step, hc6, retStep] at h
    split_ifs at h with h6 <;> cases h
    exact ⟨h6, rfl⟩
  · exact absurd h (step_ne_retK d u s hc k)

/-- A `RET | A` outcome comes from a `RET | A` instruction. -/
theorem step_retA (d : SeccompData) {u : SockFilter} {s : BpfState} {v : UInt32}
    (h : step d u s = .stop (.retA v)) : u.code = 0x16 := by
  by_cases hc : bpfClass u.code = bpfRet
  · have hc6 : (bpfClass u.code).toNat = 6 := by rw [hc]; rfl
    simp only [step, hc6, retStep] at h
    split_ifs at h with h6 h16 <;> cases h
    exact h16
  · exact nomatch step_stop_of_ne_ret d hc h

theorem runFuel_retA (d : SeccompData) {v : UInt32} :
    ∀ (n : Nat) (p : List SockFilter) (s : BpfState), runFuel d n p s = some (.retA v) →
      ∃ u ∈ p, u.code = 0x16
  | 0, _, _, h => by cases h
  | _ + 1, [], _, h => by cases h
  | n + 1, u :: rest, s, h => by
    simp only [runFuel] at h
    split at h
    · obtain ⟨w, hw, hwc⟩ := runFuel_retA d n _ _ h
      exact ⟨w, List.mem_cons_of_mem _ (List.mem_of_mem_drop hw), hwc⟩
    · rename_i o ho
      cases h
      exact ⟨u, List.mem_cons_self _ _, step_retA d ho⟩
    · cases h

/-- A run that returns the accumulator went through a `RET | A` instruction. -/
theorem run_retA {d : SeccompData} {p : List SockFilter} {s : BpfState} {v : UInt32}
    (h : run d p s = some (.retA v)) : ∃ u ∈ p, u.code = 0x16 :=
  runFuel_retA d _ _ _ h

theorem runFuel_retK (d : SeccompData) {k : UInt32} :
    ∀ (n : Nat) (p : List SockFilter) (s : BpfState), runFuel d n p s = some (.retK k) →
      ∃ u ∈ p, u.code = 0x06 ∧ u.k = k
  | 0, _, _, h => by cases h
  | _ + 1, [], _, h => by cases h
  | n + 1, u :: rest, s, h => by
    simp only [runFuel] at h
    split at h
    · obtain ⟨v, hv, hvk⟩ := runFuel_retK d n _ _ h
      exact ⟨v, List.mem_cons_of_mem _ (List.mem_of_mem_drop hv), hvk⟩
    · rename_i o ho
      cases h
      exact ⟨u, List.mem_cons_self _ _, step_retK d ho⟩
    · cases h

/-- A run that returns a constant returns the constant of one of the
program's `RET | K` instructions. -/
theorem run_retK {d : SeccompData} {p : List SockFilter} {s : BpfState} {k : UInt32}
    (h : run d p s = some (.retK k)) : ∃ u ∈ p, u.code = 0x06 ∧ u.k = k :=
  runFuel_retK d _ _ _ h

theorem run_retMap (d : SeccompData) (g : UInt32 → UInt32) (p : List SockFilter) (s : BpfState) :
    run d (p.map (retMap g)) s = (run d p s).map (Outcome.mapK g) := by
  simpa [run] using runFuel_retMap d g p.length p s

end RdCore.Seccomp
