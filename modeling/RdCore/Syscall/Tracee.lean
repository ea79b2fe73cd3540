import Mathlib

/-!
# RdCore — the recorded task, as `TaskSyscallState` sees it

`record_syscall.rs` reaches the tracee through a handful of `RecordTask`
methods: `read_mem`/`write_mem` on byte ranges, `get_remote_ptr`/`set_remote_ptr`
on pointer-sized words, `regs_ref`/`set_regs`, and `record_local`/`record_remote`,
which append to the trace. `RecordTask` is not in the source; this module
models the part of it those methods touch.

Addresses are `Nat`: `RemotePtr` arithmetic is on `usize` and panics on
overflow in debug builds, so a run of the model is a run of the code in which
no address computation wrapped. Subtractions the code does not guard are
`usizeSub`, which fails as the code does.

Memory is total: every address can be read and written. `task_common.rs` is
not in the source, and a write the code makes with no `ok` flag, such as
`write_val_mem(t, child_addr, &tsc_mode, None)` for `PR_GET_TSC`, asserts that
the write succeeded; at an unmapped address that write fails in the code and
succeeds in the model.

Main results:

* `readMem_writeMem_self`, `readMem_writeMem_of_disjoint` — a read after a write;
* `writeMem_readMem_self` — writing back what was read changes nothing;
* `wordBytes_wordValue` — storing a word that was read restores its bytes.
-/

namespace RdCore.Syscall

theorem Except.ok_bind {ε α β : Type} (a : α) (f : α → Except ε β) : (Except.ok a >>= f) = f a := rfl

theorem Except.bind_eq_ok {ε α β : Type} {x : Except ε α} {f : α → Except ε β} {b : β} :
    x >>= f = .ok b ↔ ∃ a, x = .ok a ∧ f a = .ok b := by
  cases x <;> simp [bind, Except.bind]

/-! ## Memory -/

/-- `read_mem(t, addr, n)`: the `n` bytes at `addr`. -/
def readMem (m : Nat → UInt8) (addr n : Nat) : List UInt8 :=
  (List.range n).map fun i => m (addr + i)

/-- `write_mem(t, addr, buf)`. -/
def writeMem (m : Nat → UInt8) (addr : Nat) (buf : List UInt8) : Nat → UInt8 :=
  fun x => if addr ≤ x ∧ x < addr + buf.length then buf.getD (x - addr) 0 else m x

variable {m m' : Nat → UInt8} {a b n x : Nat} {buf : List UInt8}

@[simp] theorem length_readMem (m : Nat → UInt8) (a n : Nat) : (readMem m a n).length = n := by
  simp [readMem]

theorem getD_readMem {i : Nat} (hi : i < n) : (readMem m a n).getD i 0 = m (a + i) := by
  simp [readMem, hi]

theorem readMem_congr (h : ∀ i < n, m (a + i) = m' (a + i)) : readMem m a n = readMem m' a n :=
  List.map_congr_left fun i hi => h i (List.mem_range.mp hi)

theorem drop_readMem (m : Nat → UInt8) (a n o : Nat) : (readMem m a n).drop o = readMem m (a + o) (n - o) := by
  apply List.ext_getElem (by simp)
  intro i _ _
  simp [readMem, Nat.add_assoc]

theorem take_readMem (m : Nat → UInt8) (a n j : Nat) : (readMem m a n).take j = readMem m a (min j n) := by
  apply List.ext_getElem (by simp)
  intro i _ _
  simp [readMem]

theorem writeMem_of_not_mem (h : ¬ (a ≤ x ∧ x < a + buf.length)) : writeMem m a buf x = m x :=
  if_neg h

theorem writeMem_of_mem (h₁ : a ≤ x) (h₂ : x < a + buf.length) :
    writeMem m a buf x = buf.getD (x - a) 0 :=
  if_pos ⟨h₁, h₂⟩

theorem readMem_writeMem_self (m : Nat → UInt8) (a : Nat) (buf : List UInt8) :
    readMem (writeMem m a buf) a buf.length = buf := by
  refine List.ext_getElem (length_readMem _ _ _) fun i h₁ h₂ => ?_
  simp only [readMem, List.getElem_map, List.getElem_range]
  rw [writeMem_of_mem (Nat.le_add_right a i) (by omega), Nat.add_sub_cancel_left]
  simp [h₂]

theorem readMem_writeMem_of_disjoint (h : a + n ≤ b ∨ b + buf.length ≤ a) :
    readMem (writeMem m b buf) a n = readMem m a n :=
  readMem_congr fun _ _ => writeMem_of_not_mem (by omega)

theorem writeMem_readMem_self (m : Nat → UInt8) (a n : Nat) : writeMem m a (readMem m a n) = m := by
  funext x
  by_cases h : a ≤ x ∧ x < a + n
  · rw [writeMem_of_mem h.1 (by simpa using h.2), getD_readMem (by omega), Nat.add_sub_cancel' h.1]
  · exact writeMem_of_not_mem (by simpa using h)

/-! ## Words -/

/-- `Arch::as_unsigned_word(v)` as stored in memory: `w` bytes, little-endian. -/
def wordBytes : Nat → Nat → List UInt8
  | 0, _ => []
  | w + 1, v => v.toUInt8 :: wordBytes w (v / 256)

/-- `read_val_mem` of an unsigned word: its little-endian bytes as a number. -/
def wordValue (bs : List UInt8) : Nat := bs.foldr (fun b acc => b.toNat + 256 * acc) 0

@[simp] theorem length_wordBytes : ∀ w v : Nat, (wordBytes w v).length = w
  | 0, _ => rfl
  | w + 1, v => by simp [wordBytes, length_wordBytes w]

theorem wordBytes_wordValue : ∀ bs : List UInt8, wordBytes bs.length (wordValue bs) = bs
  | [] => rfl
  | b :: bs => by
    have hb : b.toNat < 256 := b.toNat_lt_size
    have hlo : (b.toNat + 256 * wordValue bs).toUInt8 = b := UInt8.toNat.inj (by
      simp only [Nat.toUInt8, UInt8.toNat, UInt8.ofNat, BitVec.toNat_ofNat] at hb ⊢; omega)
    have hhi : (b.toNat + 256 * wordValue bs) / 256 = wordValue bs := by omega
    have hv : wordValue (b :: bs) = b.toNat + 256 * wordValue bs := rfl
    rw [List.length_cons, hv, wordBytes, hlo, hhi, wordBytes_wordValue bs]

/-! ## Registers and the task -/

/-- The parts of `Registers` these functions use: the syscall argument
registers (`arg`/`set_arg`) and the syscall result. -/
@[ext] structure Registers where
  arg : Nat → Nat
  syscallResult : UInt64

/-- `Registers::set_arg`. -/
def Registers.setArg (r : Registers) (i v : Nat) : Registers :=
  { r with arg := fun j => if j = i then v else r.arg j }

/-- `Registers::set_syscall_result`. -/
def Registers.setSyscallResult (r : Registers) (v : Nat) : Registers :=
  { r with syscallResult := v.toUInt64 }

/-- `Registers::syscall_result_signed`: the result register as an `isize`. -/
def Registers.syscallResultSigned (r : Registers) : Int :=
  if r.syscallResult.toNat < 2 ^ 63 then r.syscallResult.toNat else r.syscallResult.toNat - 2 ^ 64

@[simp] theorem Registers.setArg_arg (r : Registers) (i v j : Nat) :
    (r.setArg i v).arg j = if j = i then v else r.arg j := rfl

@[simp] theorem Registers.setArg_syscallResult (r : Registers) (i v : Nat) :
    (r.setArg i v).syscallResult = r.syscallResult := rfl

/-- The architectures `rd_arch_function_selfless!` dispatches on. -/
inductive SupportedArch where
  | x86
  | x64
  deriving DecidableEq, Repr

/-- The size of `Arch::unsigned_word`. -/
def SupportedArch.wordSize : SupportedArch → Nat
  | .x86 => 4
  | .x64 => 8

theorem SupportedArch.wordSize_pos (a : SupportedArch) : 0 < a.wordSize := by
  cases a <;> decide

/-- The `RecordTask` as `TaskSyscallState` uses it. `usable_scratch_size()`
is computed from fields not in the source; it is a field here. -/
structure Tracee where
  tuid : Nat
  arch : SupportedArch
  mem : Nat → UInt8
  regs : Registers
  scratchPtr : Nat
  usableScratchSize : Nat

/-- `write_mem` on the task. -/
def Tracee.writeMem (t : Tracee) (addr : Nat) (buf : List UInt8) : Tracee :=
  { t with mem := RdCore.Syscall.writeMem t.mem addr buf }

/-- `set_regs`. -/
def Tracee.setRegs (t : Tracee) (r : Registers) : Tracee := { t with regs := r }

@[simp] theorem Tracee.writeMem_mem (t : Tracee) (addr : Nat) (buf : List UInt8) :
    (t.writeMem addr buf).mem = RdCore.Syscall.writeMem t.mem addr buf := rfl

@[simp] theorem Tracee.setRegs_mem (t : Tracee) (r : Registers) : (t.setRegs r).mem = t.mem := rfl

@[simp] theorem Tracee.setRegs_regs (t : Tracee) (r : Registers) : (t.setRegs r).regs = r := rfl

/-- `get_remote_ptr`: the pointer-sized word at `addr`. -/
def getRemotePtr (t : Tracee) (addr : Nat) : Nat := wordValue (readMem t.mem addr t.arch.wordSize)

/-- `set_remote_ptr`: store `value` as a pointer-sized word at `addr`. -/
def setRemotePtr (t : Tracee) (addr value : Nat) : Tracee :=
  t.writeMem addr (wordBytes t.arch.wordSize value)

/-- Storing back the word `get_remote_ptr` read restores the task. -/
theorem setRemotePtr_getRemotePtr (t : Tracee) (addr : Nat) :
    setRemotePtr t addr (getRemotePtr t addr) = t := by
  have h := wordBytes_wordValue (readMem t.mem addr t.arch.wordSize)
  rw [length_readMem] at h
  simp only [setRemotePtr, getRemotePtr, h, Tracee.writeMem, writeMem_readMem_self]

/-- A memory record of the trace: `record_local(addr, data)`. -/
structure MemRecord where
  addr : Nat
  data : List UInt8
  deriving DecidableEq, Repr

/-- `record_remote(addr, n)`: record the `n` bytes the task holds at `addr`. -/
def recordRemote (t : Tracee) (addr n : Nat) : MemRecord := ⟨addr, readMem t.mem addr n⟩

/-! ## Frames -/

/-- `t'` is `t` with at most the bytes at the addresses in `S` changed. -/
def Tracee.Frame (S : Nat → Prop) (t t' : Tracee) : Prop :=
  t' = { t with mem := t'.mem } ∧ ∀ x, ¬ S x → t'.mem x = t.mem x

namespace Tracee.Frame

variable {S S' : Nat → Prop} {t t₁ t₂ : Tracee}

theorem refl (S : Nat → Prop) (t : Tracee) : Frame S t t := ⟨rfl, fun _ _ => rfl⟩

theorem trans (h₁ : Frame S t t₁) (h₂ : Frame S t₁ t₂) : Frame S t t₂ :=
  ⟨by rw [h₂.1, h₁.1], fun x hx => (h₂.2 x hx).trans (h₁.2 x hx)⟩

theorem mono (h : Frame S t t₁) (hS : ∀ x, S x → S' x) : Frame S' t t₁ :=
  ⟨h.1, fun x hx => h.2 x fun hs => hx (hS x hs)⟩

theorem arch (h : Frame S t t₁) : t₁.arch = t.arch := by rw [h.1]

theorem regs (h : Frame S t t₁) : t₁.regs = t.regs := by rw [h.1]

theorem setRegs (h : Frame S t t₁) (r : Registers) : Frame S (t.setRegs r) (t₁.setRegs r) :=
  ⟨by rw [h.1]; rfl, h.2⟩

theorem setRegs_eq (h : Frame S t t₁) (r : Registers) :
    t₁.setRegs r = { t with mem := t₁.mem, regs := r } := by
  rw [h.1]; rfl

end Tracee.Frame

theorem Tracee.frame_writeMem (t : Tracee) (a : Nat) (buf : List UInt8) :
    Tracee.Frame (fun x => a ≤ x ∧ x < a + buf.length) t (t.writeMem a buf) :=
  ⟨rfl, fun _ hx => writeMem_of_not_mem hx⟩

theorem frame_setRemotePtr (t : Tracee) (a v : Nat) :
    Tracee.Frame (fun x => a ≤ x ∧ x < a + t.arch.wordSize) t (setRemotePtr t a v) := by
  have h := t.frame_writeMem a (wordBytes t.arch.wordSize v)
  rwa [length_wordBytes] at h

/-! ## `usize` arithmetic and slicing -/

/-- `a - b` on `usize`, which panics on underflow in debug builds. -/
def usizeSub (a b : Nat) : Except String Nat :=
  if b ≤ a then .ok (a - b) else .error "attempt to subtract with overflow"

/-- `&data[start..stop]`, which panics unless `start ≤ stop ≤ data.len()`. -/
def sliceRange (data : List UInt8) (start stop : Nat) : Except String (List UInt8) :=
  let len := data.length
  if start ≤ stop then
    if stop ≤ len then .ok ((data.drop start).take (stop - start))
    else .error s!"range end index {stop} out of range for slice of length {len}"
  else .error s!"slice index starts at {start} but ends at {stop}"

theorem usizeSub_of_le (h : b ≤ a) : usizeSub a b = .ok (a - b) := if_pos h

theorem sliceRange_of_le {data : List UInt8} {start stop : Nat} (h₁ : start ≤ stop)
    (h₂ : stop ≤ data.length) :
    sliceRange data start stop = .ok ((data.drop start).take (stop - start)) := by
  simp [sliceRange, h₁, h₂]

theorem length_of_sliceRange {data d : List UInt8} {start stop : Nat}
    (h : sliceRange data start stop = .ok d) : d.length = stop - start := by
  dsimp only [sliceRange] at h
  split_ifs at h with h₁ h₂
  cases h
  simp only [List.length_take, List.length_drop]
  omega

/-- A slice of a read is a read. -/
theorem sliceRange_readMem {start size : Nat} (h : start + size ≤ n) :
    sliceRange (readMem m a n) start (start + size) = .ok (readMem m (a + start) size) := by
  rw [sliceRange_of_le (Nat.le_add_right _ _) (by simpa using h), Nat.add_sub_cancel_left]
  refine congrArg Except.ok (List.ext_getElem (by simp; omega) fun i h₁ h₂ => ?_)
  simp [readMem, Nat.add_assoc]

end RdCore.Syscall
