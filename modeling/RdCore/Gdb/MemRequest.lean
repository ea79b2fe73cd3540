import RdCore.Gdb.Memory

/-!
# RdCore — hiding the top of the stack from gdb in patch stubs

`maybe_intercept_mem_request` rewrites what a gdb memory read returns: when
the target executes rd's dynamically generated stub code
(`is_in_patch_stubs`) and the read covers the word at the top of the stack,
that word reads as zero, so that gdb's stack walker does not take it for a
return address and plant a breakpoint there.

The test `sp + size <= addr + len` and the slice bound `offset + size` are
`usize` sums. A debug build panics when such a sum does not fit in 64 bits,
and a release build wraps it; `Build` says which, and `Build.add` and
`Build.sub` are `+` and `-` on `usize` in each. `RemotePtr` is not in the
source: its `+` is taken to be that of its `usize` address. Slicing
`result[start..end]` panics, as Rust's slices do, when `end < start` or when
`end` is past the end of `result`.

Main results:

* `maybeInterceptMemRequest_of_fits` — when neither sum of the test overflows
  and `result` has the request's length, the call returns `result` with exactly
  the bytes `[sp - addr, sp - addr + w)` zeroed when the read covers the top
  of the stack in patch stubs, and `result` unchanged otherwise;
* `maybeInterceptMemRequest_debug_fails_iff` — a debug build panics exactly
  when `addr <= sp` and one of the two sums overflows;
* `maybeInterceptMemRequest_near_top_panics` — a stack pointer in the last
  word of the address space, inside patch stubs, makes both builds panic.
-/

namespace RdCore.Gdb

open RdCore.Syscall (SupportedArch Except.ok_bind)

/-! ## `usize` arithmetic and slices -/

/-- How a build of the server treats a `usize` result that does not fit in 64
bits: a debug build panics, a release build wraps. -/
inductive Build where
  | debug
  | release
  deriving DecidableEq, Repr

namespace Build

/-- `x + y` on `usize`. -/
def add (b : Build) (x y : Nat) : Except String Nat :=
  if x + y < 2 ^ 64 then .ok (x + y)
  else match b with
    | .debug => .error "attempt to add with overflow"
    | .release => .ok ((x + y) % 2 ^ 64)

/-- `x - y` on `usize`. -/
def sub (b : Build) (x y : Nat) : Except String Nat :=
  if y ≤ x then .ok (x - y)
  else match b with
    | .debug => .error "attempt to subtract with overflow"
    | .release => .ok (x + 2 ^ 64 - y)

variable {b : Build} {x y : Nat}

@[simp] theorem add_of_lt (h : x + y < 2 ^ 64) : b.add x y = .ok (x + y) := if_pos h

@[simp] theorem sub_of_le (h : y ≤ x) : b.sub x y = .ok (x - y) := if_pos h

@[simp] theorem debug_add_of_le (h : 2 ^ 64 ≤ x + y) :
    Build.debug.add x y = .error "attempt to add with overflow" :=
  if_neg (Nat.not_lt.mpr h)

end Build

/-- `result` with the bytes at `[start, end)` set to zero. -/
def zeroed (result : List UInt8) (start end_ : Nat) : List UInt8 :=
  result.mapIdx fun i x => if start ≤ i ∧ i < end_ then 0 else x

/-- `result[start..end].fill(0)`, with the bound checks of slice indexing. The
messages are the slice-index panic texts of one version of the Rust standard
library; the source does not fix them. -/
def fillZero (result : List UInt8) (start end_ : Nat) : Except String (List UInt8) :=
  if end_ < start then
    .error ("slice index starts at " ++ toString start ++ " but ends at " ++ toString end_)
  else if result.length < end_ then
    .error ("range end index " ++ toString end_ ++ " out of range for slice of length " ++
      toString result.length)
  else .ok (zeroed result start end_)

@[simp] theorem length_zeroed (result : List UInt8) (start end_ : Nat) :
    (zeroed result start end_).length = result.length := List.length_mapIdx

/-- Zeroing changes the bytes of the range and no other. -/
theorem getElem?_zeroed (result : List UInt8) (start end_ i : Nat) (hi : i < result.length) :
    (zeroed result start end_)[i]? = if start ≤ i ∧ i < end_ then some 0 else result[i]? := by
  rw [zeroed, List.getElem?_mapIdx, List.getElem?_eq_getElem hi]
  split_ifs <;> rfl

theorem fillZero_of_le {result : List UInt8} {start end_ : Nat} (h₁ : start ≤ end_)
    (h₂ : end_ ≤ result.length) : fillZero result start end_ = .ok (zeroed result start end_) := by
  rw [fillZero, if_neg (Nat.not_lt.mpr h₁), if_neg (Nat.not_lt.mpr h₂)]

/-! ## The request -/

/-- What `maybe_intercept_mem_request` reads of the target task: its
architecture, its stack pointer, its instruction pointer and its address
space. -/
structure TaskState where
  arch : SupportedArch
  sp : Nat
  ip : Nat
  vm : AddressSpace

/-- The addresses a `DREQ_GET_MEM` request reads, `req.mem()`. -/
structure GdbRequestMem where
  addr : Nat
  len : Nat
  deriving DecidableEq, Repr

/-- `is_in_patch_stubs(t, ip)`. -/
def isInPatchStubs (t : TaskState) (ip : Nat) : Bool :=
  (t.vm.mappingOf ip).isSome && (t.vm.mappingFlagsOf ip).isPatchStubs

/-- `GdbServer::maybe_intercept_mem_request(target, req, result)`: what
`result` holds afterwards. -/
def maybeInterceptMemRequest (b : Build) (target : TaskState) (req : GdbRequestMem)
    (result : List UInt8) : Except String (List UInt8) := do
  let size := target.arch.wordSize
  if req.addr ≤ target.sp then
    let slotEnd ← b.add target.sp size
    let reqEnd ← b.add req.addr req.len
    if slotEnd ≤ reqEnd ∧ isInPatchStubs target target.ip = true then
      let offset ← b.sub target.sp req.addr
      let offsetEnd ← b.add offset size
      fillZero result offset offsetEnd
    else pure result
  else pure result

/-- The read covers the word at the top of the stack, the addresses compared
as integers, and the target executes in patch stubs. -/
def CoversStackTop (target : TaskState) (req : GdbRequestMem) : Prop :=
  req.addr ≤ target.sp ∧ target.sp + target.arch.wordSize ≤ req.addr + req.len ∧
    isInPatchStubs target target.ip = true

instance (target : TaskState) (req : GdbRequestMem) : Decidable (CoversStackTop target req) :=
  inferInstanceAs (Decidable (_ ∧ _ ∧ _))

/-! ## What the call does -/

variable {b : Build} {target : TaskState} {req : GdbRequestMem} {result : List UInt8}

/-- **When no sum overflows, the call zeroes exactly the top-of-stack word.**
With `result` as long as the request, it returns `result` with the bytes
`[sp - addr, sp - addr + w)` zeroed when the read covers the top of the stack
in patch stubs, and `result` unchanged otherwise; it indexes nothing outside
`result`. -/
theorem maybeInterceptMemRequest_of_fits (hlen : result.length = req.len)
    (hsp : target.sp + target.arch.wordSize < 2 ^ 64) (hreq : req.addr + req.len < 2 ^ 64) :
    maybeInterceptMemRequest b target req result =
      .ok (if CoversStackTop target req then
        zeroed result (target.sp - req.addr) (target.sp - req.addr + target.arch.wordSize) else result) := by
  unfold maybeInterceptMemRequest CoversStackTop
  by_cases h₁ : req.addr ≤ target.sp
  · simp only [h₁, ite_true, Build.add_of_lt hsp, Build.add_of_lt hreq, true_and, Except.ok_bind]
    split_ifs with h₂
    · rw [Build.sub_of_le h₁, Except.ok_bind, Build.add_of_lt (by omega), Except.ok_bind]
      exact fillZero_of_le (Nat.le_add_right _ _) (by omega)
    · rfl
  · simp only [h₁, false_and, ite_false]
    rfl

/-- The bytes after a call where no sum overflows: zero in the top-of-stack
word when the read covers it in patch stubs, and as before everywhere else. -/
theorem maybeInterceptMemRequest_zeroes_exactly (hlen : result.length = req.len)
    (hsp : target.sp + target.arch.wordSize < 2 ^ 64) (hreq : req.addr + req.len < 2 ^ 64) :
    ∃ result', maybeInterceptMemRequest b target req result = .ok result' ∧
      result'.length = result.length ∧
      ∀ i < result.length, result'[i]? =
        if CoversStackTop target req ∧ target.sp - req.addr ≤ i ∧
          i < target.sp - req.addr + target.arch.wordSize then some 0 else result[i]? := by
  refine ⟨_, maybeInterceptMemRequest_of_fits hlen hsp hreq, ?_, fun i hi => ?_⟩
  · split_ifs <;> simp
  · by_cases hc : CoversStackTop target req <;> simp only [hc, if_true, if_false, true_and, false_and]
    exact getElem?_zeroed _ _ _ _ hi

/-- A 24-byte read from `0x7fe8` while an x64 target with `sp = 0x7ff0`
executes in a patch-stubs mapping: bytes 8 to 15 read as zero. -/
theorem maybeInterceptMemRequest_zeroes_stack_top :
    ∃ target : TaskState, target.arch = .x64 ∧ target.sp = 0x7ff0 ∧ CoversStackTop target ⟨0x7fe8, 24⟩ ∧
      ∃ result', maybeInterceptMemRequest .release target ⟨0x7fe8, 24⟩ (List.replicate 24 0xAA) = .ok result' ∧
        result'.length = (List.replicate 24 (0xAA : UInt8)).length ∧
        ∀ i < (List.replicate 24 (0xAA : UInt8)).length, result'[i]? =
          if CoversStackTop target ⟨0x7fe8, 24⟩ ∧ target.sp - 0x7fe8 ≤ i ∧
            i < target.sp - 0x7fe8 + target.arch.wordSize then some 0 else (List.replicate 24 (0xAA : UInt8))[i]? :=
  ⟨⟨.x64, 0x7ff0, 0x7000,
      ⟨[⟨⟨0x7000, 0x8000, by decide⟩, ⟨true⟩⟩], List.pairwise_singleton _ _, 4096, by decide,
        fun _ => false, fun _ => 0, fun _ h => by simp at h⟩⟩,
    rfl, rfl, by decide, maybeInterceptMemRequest_zeroes_exactly rfl (by decide) (by decide)⟩

/-- A read that starts above the stack pointer is returned unchanged. -/
theorem maybeInterceptMemRequest_of_lt (h : target.sp < req.addr) :
    maybeInterceptMemRequest b target req result = .ok result := by
  simp only [maybeInterceptMemRequest, Nat.not_le.mpr h, ite_false]
  rfl

/-- **A debug build panics exactly when `addr <= sp` and `sp + w` or
`addr + len` does not fit in 64 bits**, whatever the target executes. -/
theorem maybeInterceptMemRequest_debug_fails_iff (hlen : result.length = req.len) :
    (∃ msg, maybeInterceptMemRequest .debug target req result = .error msg) ↔
      req.addr ≤ target.sp ∧ (2 ^ 64 ≤ target.sp + target.arch.wordSize ∨ 2 ^ 64 ≤ req.addr + req.len) := by
  rcases Nat.lt_or_ge target.sp req.addr with hlt | hle
  · rw [maybeInterceptMemRequest_of_lt hlt]
    exact ⟨fun ⟨_, h⟩ => (nomatch h), fun h => absurd h.1 (Nat.not_le.mpr hlt)⟩
  by_cases hfit : target.sp + target.arch.wordSize < 2 ^ 64 ∧ req.addr + req.len < 2 ^ 64
  · rw [maybeInterceptMemRequest_of_fits hlen hfit.1 hfit.2]
    exact ⟨fun ⟨_, h⟩ => (nomatch h), fun _ => by omega⟩
  · refine ⟨fun _ => ⟨hle, by omega⟩, fun _ => ?_⟩
    simp only [maybeInterceptMemRequest, hle, ite_true]
    by_cases hsp : target.sp + target.arch.wordSize < 2 ^ 64
    · rw [Build.add_of_lt hsp, Except.ok_bind, Build.debug_add_of_le (by omega)]
      exact ⟨_, rfl⟩
    · rw [Build.debug_add_of_le (by omega)]
      exact ⟨_, rfl⟩

/-- **A stack pointer in the last word of the address space makes the call
panic.** The x64 target has `sp = 2^64 - 4` and executes in a patch-stubs
mapping; gdb reads 16 bytes from address 0, which do not cover the word at
`sp`. A debug build overflows on `sp + size`; a release build wraps it to 4,
passes the test, and slices `result` from `2^64 - 4` to the wrapped 4. The
release message is one rustc version's slice-index panic text, as `fillZero`
has it; what the source fixes is that both builds panic, the release one on
the slice bounds. -/
theorem maybeInterceptMemRequest_near_top_panics (b : Build) :
    maybeInterceptMemRequest b
      ⟨.x64, 2 ^ 64 - 4, 0x7000,
        ⟨[⟨⟨0x7000, 0x8000, by decide⟩, ⟨true⟩⟩], List.pairwise_singleton _ _, 4096, by decide,
          fun _ => false, fun _ => 0, fun _ h => by simp at h⟩⟩
      ⟨0, 16⟩ (List.replicate 16 0xAA) =
      .error (match b with
        | .debug => "attempt to add with overflow"
        | .release => "slice index starts at 18446744073709551612 but ends at 4") := by
  cases b <;> rfl

end RdCore.Gdb
