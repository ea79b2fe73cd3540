import RdCore.Syscall.Tracee

/-!
# RdCore — the tracee's address space, and `search_memory`

`search_memory` answers gdb's `find` command: the least address at which a
byte string `s` occurs in a range `where_` of the target's memory. It walks
the mappings of the address space in order. For each mapping it scans the
part of `[start, end + |s| - 1)` inside `where_` chunk by chunk: a chunk
starts at `r.start()`, reads `page_size() + |s| - 1` bytes or what is left of
the range, and looks for `s` in the readable prefix of what it asked for; the
next chunk starts at the next page boundary. Reading `|s| - 1` bytes past the
chunk's own page finds the matches that cross into the next page or the next
mapping, and reading page by page skips pages that cannot be read.

`MemoryRange`, the address space, `floor_page_size`, `find` and
`read_bytes_fallible` are not in the source. A range here carries
`start <= end`, which `from_range` asserts, and every range `search_memory`
builds satisfies it. The address space
carries, as fields, what the search relies on: its mappings are disjoint and
listed in ascending order, readability is a property of whole pages, and
only bytes inside a mapping can be read. `read_bytes_fallible` fills the
readable prefix of the buffer and returns its length; a read that fails and
one that returns fewer than `|s|` bytes take the same arm of the loop.
Addresses are `Nat`, the arithmetic of `RemotePtr` not being in the source.

Main results:

* `AddressSpace.start_lt_nextChunk` — each pass of the chunk loop moves its
  start forward, which is its termination measure;
* `AddressSpace.searchChunk_eq_some`, `AddressSpace.searchChunk_eq_none` — one
  chunk finds the least match of the range when one starts in the chunk's
  page;
* `AddressSpace.searchRange_spec` — the chunk loop returns the least match of
  its range, or none when it holds none;
* `AddressSpace.searchMaps_spec` — the loop over the mappings returns the least
  match lying in one of them;
* `AddressSpace.searchMemory_finds_least_match` — `search_memory` returns the
  least match in `where_` and agrees with a naive byte-by-byte search.
-/

namespace RdCore.Gdb

open RdCore.Syscall (readMem)

/-! ## Ranges and the address space -/

/-- `MemoryRange`: the addresses `[start, end)`. -/
structure MemoryRange where
  start : Nat
  end_ : Nat
  start_le_end : start ≤ end_

namespace MemoryRange

/-- `size()`. -/
def size (r : MemoryRange) : Nat := r.end_ - r.start

/-- `intersect(other)`: the common part, empty at the larger start when the
two ranges are disjoint. -/
def intersect (r other : MemoryRange) : MemoryRange :=
  ⟨max r.start other.start, max (max r.start other.start) (min r.end_ other.end_), le_max_left _ _⟩

end MemoryRange

/-- `MappingFlags`, reduced to the one flag the server tests. -/
structure MappingFlags where
  isPatchStubs : Bool

/-- A mapping of the address space: its range and its flags. -/
structure Mapping where
  map : MemoryRange
  flags : MappingFlags

/-- The address space of a task as the server reads it: its mappings,
disjoint and in ascending order; `page_size()`; which pages can be read,
every readable byte lying in a mapping; and the bytes in memory. -/
structure AddressSpace where
  maps : List Mapping
  maps_ascending : maps.Pairwise fun m m' => m.map.end_ ≤ m'.map.start
  pageSize : Nat
  pageSize_pos : 0 < pageSize
  pageReadable : Nat → Bool
  mem : Nat → UInt8
  readable_mapped : ∀ a, pageReadable (a / pageSize) = true →
    ∃ m ∈ maps, m.map.start ≤ a ∧ a < m.map.end_

/-- `find(haystack, needle)`: the offset of the first occurrence of `needle`
in `haystack`. -/
def find (haystack needle : List UInt8) : Option Nat :=
  if needle <+: haystack then some 0
  else match haystack with
    | [] => none
    | _ :: rest => (find rest needle).map (· + 1)

namespace AddressSpace

variable (vm : AddressSpace)

/-- The byte at `a` can be read: its page can. -/
def readable (a : Nat) : Bool := vm.pageReadable (a / vm.pageSize)

/-- `floor_page_size(a)`: the start of the page holding `a`. -/
def floorPageSize (a : Nat) : Nat := a / vm.pageSize * vm.pageSize

/-- How many of the `n` bytes from `a` on can be read before the first one
that cannot. -/
def readablePrefix : Nat → Nat → Nat
  | _, 0 => 0
  | a, n + 1 => if vm.readable a then readablePrefix (a + 1) n + 1 else 0

/-- `read_bytes_fallible(addr, &mut buf[0..n])`: the readable prefix of
`[addr, addr + n)`. -/
def readBytesFallible (addr n : Nat) : List UInt8 := readMem vm.mem addr (vm.readablePrefix addr n)

/-- `mapping_of(p)`: the mapping holding `p`. -/
def mappingOf (p : Nat) : Option Mapping := vm.maps.find? fun m => m.map.start ≤ p ∧ p < m.map.end_

/-- `mapping_flags_of(p)`: the flags of the mapping holding `p`, none set
outside every mapping. -/
def mappingFlagsOf (p : Nat) : MappingFlags := ((vm.mappingOf p).map Mapping.flags).getD ⟨false⟩

/-! ## `search_memory` -/

/-- One pass of the loop of `search_memory` over the range `r`: read
`min(buf.len(), r.size())` bytes from `r.start()`; when at least `|s|` of them
could be read, look for `s` among them. -/
def searchChunk (bufLen : Nat) (findS : List UInt8) (r : MemoryRange) : Option Nat :=
  let buf := vm.readBytesFallible r.start (min bufLen r.size)
  if findS.length ≤ buf.length then (find buf findS).map (r.start + ·) else none

/-- What is left of the range after one pass, from the next page boundary:
`min(r.end(), floor_page_size(r.start()) + page_size())`. -/
def nextChunk (r : MemoryRange) : MemoryRange :=
  ⟨min r.end_ (vm.floorPageSize r.start + vm.pageSize), r.end_, min_le_left _ _⟩

/-- A pass over a non-empty range moves its start forward. -/
theorem start_lt_nextChunk {r : MemoryRange} (h : 0 < r.size) : r.start < (vm.nextChunk r).start := by
  have := Nat.lt_div_mul_add (a := r.start) vm.pageSize_pos
  simp only [nextChunk, floorPageSize, MemoryRange.size] at *
  omega

/-- The `while r.size() >= find_s.len()` loop of `search_memory`; the pattern
is not empty, so each pass shrinks the range. -/
def searchRange (bufLen : Nat) (findS : List UInt8) (hs : 0 < findS.length) (r : MemoryRange) :
    Option Nat :=
  if findS.length ≤ r.size then
    match vm.searchChunk bufLen findS r with
    | some p => some p
    | none => searchRange bufLen findS hs (vm.nextChunk r)
  else none
termination_by r.size
decreasing_by
  have := vm.start_lt_nextChunk (r := r) (by omega)
  simp only [MemoryRange.size, nextChunk] at *
  omega

/-- The range scanned for the mapping `m`:
`MemoryRange::from_range(m.start(), m.end() + (|s| - 1)).intersect(where_)`. -/
def mapRange (where_ : MemoryRange) (findS : List UInt8) (m : Mapping) : MemoryRange :=
  MemoryRange.intersect ⟨m.map.start, m.map.end_ + (findS.length - 1),
    Nat.le_add_right_of_le m.map.start_le_end⟩ where_

/-- The loop of `search_memory` over the mappings `ms`. -/
def searchMaps (bufLen : Nat) (findS : List UInt8) (hs : 0 < findS.length) (where_ : MemoryRange) :
    List Mapping → Option Nat
  | [] => none
  | m :: ms =>
    match vm.searchRange bufLen findS hs (mapRange where_ findS m) with
    | some p => some p
    | none => searchMaps bufLen findS hs where_ ms

/-- `search_memory(t, where_, find_s)`: `assert_ne!(find_s.len(), 0)`, then a
buffer of `page_size() + find_s.len() - 1` bytes and the loop over the
mappings. -/
def searchMemory (where_ : MemoryRange) (findS : List UInt8) : Except String (Option Nat) :=
  if hs : findS.length = 0 then .error "assertion `left != right` failed"
  else .ok (vm.searchMaps (vm.pageSize + findS.length - 1) findS (Nat.pos_of_ne_zero hs) where_ vm.maps)

/-! ## What a search should return -/

/-- `s` occurs at `q` inside `[lo, hi)`: the bytes `[q, q + |s|)` lie in the
range, can all be read, and are `s`. -/
def MatchIn (s : List UInt8) (lo hi q : Nat) : Prop :=
  lo ≤ q ∧ q + s.length ≤ hi ∧ (∀ i < s.length, vm.readable (q + i) = true) ∧ readMem vm.mem q s.length = s

instance (s : List UInt8) (lo hi q : Nat) : Decidable (vm.MatchIn s lo hi q) :=
  inferInstanceAs (Decidable (_ ∧ _ ∧ _ ∧ _))

/-- A naive search: try `q, q + 1, …, q + n - 1` in turn for a match in
`[lo, hi)`. -/
def naiveSearchFrom (s : List UInt8) (lo hi : Nat) : Nat → Nat → Option Nat
  | _, 0 => none
  | q, n + 1 => if vm.MatchIn s lo hi q then some q else naiveSearchFrom s lo hi (q + 1) n

/-- The naive byte-by-byte search of `where_` for `s`. -/
def naiveSearch (where_ : MemoryRange) (s : List UInt8) : Option Nat :=
  vm.naiveSearchFrom s where_.start where_.end_ where_.start where_.size

end AddressSpace

/-- `res` answers a search for the least `q` with `P q`: it is that least
element, or none when there is no such `q`. -/
def IsSearchResult (P : Nat → Prop) : Option Nat → Prop
  | some p => IsLeast {q | P q} p
  | none => ∀ q, ¬ P q

namespace IsSearchResult

variable {P Q : Nat → Prop} {r r' : Option Nat}

theorem congr (h : ∀ q, P q ↔ Q q) : IsSearchResult P r ↔ IsSearchResult Q r := by
  rw [show P = Q from funext fun q => propext (h q)]

/-- A search has one answer. -/
theorem unique (h : IsSearchResult P r) (h' : IsSearchResult P r') : r = r' := by
  match r, r', h, h' with
  | some p, some p', h, h' => rw [IsLeast.unique h h']
  | some _, none, h, h' => exact absurd h.1 (h' _)
  | none, some _, h, h' => exact absurd h'.1 (h _)
  | none, none, _, _ => rfl

theorem eq_some_iff (h : IsSearchResult P r) {p : Nat} : r = some p ↔ IsLeast {q | P q} p := by
  constructor
  · rintro rfl; exact h
  · intro hp; exact h.unique (show IsSearchResult P (some p) from hp)

theorem eq_none_iff (h : IsSearchResult P r) : r = none ↔ ∀ q, ¬ P q := by
  constructor
  · rintro rfl; exact h
  · intro hp; exact h.unique (show IsSearchResult P none from hp)

end IsSearchResult

/-! ## Reading and finding -/

theorem find_eq_some {h n : List UInt8} {o : Nat} (hf : find h n = some o) :
    n <+: h.drop o ∧ ∀ o' < o, ¬ n <+: h.drop o' := by
  induction h generalizing o with
  | nil =>
    unfold find at hf
    split_ifs at hf with hp
    cases hf
    exact ⟨hp, fun _ h => absurd h (Nat.not_lt_zero _)⟩
  | cons x t ih =>
    unfold find at hf
    split_ifs at hf with hp
    · cases hf
      exact ⟨hp, fun _ h => absurd h (Nat.not_lt_zero _)⟩
    · obtain ⟨o, ho, rfl⟩ := Option.map_eq_some'.mp hf
      refine ⟨(ih ho).1, fun o' ho' => ?_⟩
      cases o' with
      | zero => exact hp
      | succ j => exact (ih ho).2 j (by omega)

theorem find_eq_none {h n : List UInt8} (hf : find h n = none) (o : Nat) : ¬ n <+: h.drop o := by
  induction h generalizing o with
  | nil =>
    unfold find at hf
    split_ifs at hf with hp
    simpa using hp
  | cons x t ih =>
    unfold find at hf
    split_ifs at hf with hp
    cases o with
    | zero => exact hp
    | succ j => exact ih (Option.map_eq_none'.mp hf) j

/-- `s` occurs at offset `o` of the bytes read from `a`. -/
theorem prefix_drop_readMem {m : Nat → UInt8} {a k o : Nat} {s : List UInt8} (hs : 0 < s.length) :
    s <+: (readMem m a k).drop o ↔ o + s.length ≤ k ∧ readMem m (a + o) s.length = s := by
  rw [List.prefix_iff_eq_take, RdCore.Syscall.drop_readMem, RdCore.Syscall.take_readMem]
  constructor
  · intro h
    have hl := congrArg List.length h
    simp only [RdCore.Syscall.length_readMem] at hl
    exact ⟨by omega, (congrArg (readMem m (a + o)) hl).trans h.symm⟩
  · rintro ⟨hk, h⟩
    rw [Nat.min_eq_left (by omega), h]

/-- A match at `q` that ends within the `k` bytes read from `a` occurs in
them at offset `q - a`. -/
theorem prefix_drop_readMem_sub {m : Nat → UInt8} {a k q : Nat} {s : List UInt8} (hs : 0 < s.length)
    (ha : a ≤ q) (hk : q + s.length ≤ a + k) (hq : readMem m q s.length = s) :
    s <+: (readMem m a k).drop (q - a) :=
  (prefix_drop_readMem hs).mpr ⟨by omega, by rwa [Nat.add_sub_cancel' ha]⟩

namespace AddressSpace

variable {vm : AddressSpace}

theorem readablePrefix_le (a n : Nat) : vm.readablePrefix a n ≤ n := by
  induction n generalizing a with
  | zero => exact Nat.le_refl _
  | succ n ih =>
    rw [readablePrefix]
    split
    · exact Nat.succ_le_succ (ih _)
    · exact Nat.zero_le _

theorem readable_of_lt_readablePrefix {a n i : Nat} (h : i < vm.readablePrefix a n) :
    vm.readable (a + i) = true := by
  induction n generalizing a i with
  | zero => exact absurd h (Nat.not_lt_zero _)
  | succ n ih =>
    rw [readablePrefix] at h
    split at h
    · cases i with
      | zero => assumption
      | succ j =>
        rw [show a + (j + 1) = a + 1 + j by omega]
        exact ih (by omega)
    · exact absurd h (Nat.not_lt_zero _)

theorem le_readablePrefix {a n k : Nat} (hk : k ≤ n) (h : ∀ i < k, vm.readable (a + i) = true) :
    k ≤ vm.readablePrefix a n := by
  induction n generalizing a k with
  | zero => omega
  | succ n ih =>
    cases k with
    | zero => exact Nat.zero_le _
    | succ k =>
      have ha : vm.readable a = true := h 0 (Nat.succ_pos _)
      simp only [readablePrefix, ha, ite_true]
      exact Nat.succ_le_succ <| ih (by omega) fun i hi => by
        rw [show a + 1 + i = a + (i + 1) by omega]; exact h (i + 1) (by omega)

/-- Two addresses of one page are readable together. -/
theorem readable_eq_of_same_page {a b : Nat} (h₁ : vm.floorPageSize a ≤ b)
    (h₂ : b < vm.floorPageSize a + vm.pageSize) : vm.readable b = vm.readable a := by
  have : b / vm.pageSize = a / vm.pageSize :=
    Nat.div_eq_of_lt_le h₁ (by rw [Nat.succ_mul]; exact h₂)
  simp only [readable, this]

/-! ## One chunk -/

section Chunk

variable {s : List UInt8} {bufLen : Nat} {r : MemoryRange} {p q : Nat}

/-- When a chunk reports `p`, `p` is the least match of the range. -/
theorem searchChunk_eq_some (hs : 0 < s.length) (h : vm.searchChunk bufLen s r = some p) :
    IsLeast {q | vm.MatchIn s r.start r.end_ q} p := by
  unfold searchChunk readBytesFallible at h
  simp only [RdCore.Syscall.length_readMem] at h
  split_ifs at h with hk
  obtain ⟨o, hf, rfl⟩ := Option.map_eq_some'.mp h
  obtain ⟨hocc, hfirst⟩ := find_eq_some hf
  obtain ⟨hok, hbytes⟩ := (prefix_drop_readMem hs).mp hocc
  have hle := vm.readablePrefix_le r.start (min bufLen r.size)
  have hsz : r.size = r.end_ - r.start := rfl
  have hr := r.start_le_end
  refine ⟨⟨Nat.le_add_right _ _, by omega, fun i hi => ?_, hbytes⟩, ?_⟩
  · rw [Nat.add_assoc]; exact readable_of_lt_readablePrefix (n := min bufLen r.size) (by omega)
  · rintro q ⟨hq₁, -, -, hq⟩
    by_contra hlt
    exact hfirst (q - r.start) (by omega) (prefix_drop_readMem_sub hs hq₁ (by omega) hq)

/-- When a chunk reports nothing, no match of the range starts in its page. -/
theorem searchChunk_eq_none (hbuf : vm.pageSize + s.length - 1 ≤ bufLen) (hs : 0 < s.length)
    (h : vm.searchChunk bufLen s r = none) (hq : vm.MatchIn s r.start r.end_ q) :
    vm.floorPageSize r.start + vm.pageSize ≤ q := by
  obtain ⟨hq₁, hq₂, hqr, hq⟩ := hq
  by_contra hlt
  have hfl : vm.floorPageSize r.start ≤ r.start := Nat.div_mul_le_self _ _
  -- every byte from the chunk's start to the end of the match can be read
  have hread : ∀ i < q + s.length - r.start, vm.readable (r.start + i) = true := by
    intro i hi
    by_cases hiq : r.start + i < q
    · rw [readable_eq_of_same_page (a := r.start) (by omega) (by omega),
        ← readable_eq_of_same_page (a := r.start) (b := q) (by omega) (by omega)]
      simpa using hqr 0 hs
    · have := hqr (r.start + i - q) (by omega)
      rwa [Nat.add_sub_cancel' (by omega)] at this
  have hk : q + s.length - r.start ≤ vm.readablePrefix r.start (min bufLen r.size) :=
    le_readablePrefix (by simp only [MemoryRange.size]; omega) hread
  unfold searchChunk readBytesFallible at h
  simp only [RdCore.Syscall.length_readMem] at h
  rw [if_pos (by omega)] at h
  exact find_eq_none (Option.map_eq_none'.mp h) _ (prefix_drop_readMem_sub hs hq₁ (by omega) hq)

/-- After a chunk that reports nothing, the matches of the range are those of
what is left of it. -/
theorem matchIn_nextChunk_iff (hbuf : vm.pageSize + s.length - 1 ≤ bufLen) (hs : 0 < s.length)
    (h : vm.searchChunk bufLen s r = none) (q : Nat) :
    vm.MatchIn s r.start r.end_ q ↔ vm.MatchIn s (vm.nextChunk r).start (vm.nextChunk r).end_ q := by
  have hlt := Nat.lt_div_mul_add (a := r.start) vm.pageSize_pos
  have hr := r.start_le_end
  simp only [nextChunk]
  constructor
  · intro hq
    exact ⟨min_le_of_right_le (searchChunk_eq_none hbuf hs h hq), hq.2⟩
  · rintro ⟨h₁, hq⟩
    exact ⟨by simp only [floorPageSize] at *; omega, hq⟩

end Chunk

/-! ## The loops -/

section Loops

variable {s : List UInt8} {bufLen : Nat}

/-- **The chunk loop returns the least match of its range**, or none when the
range holds none. -/
theorem searchRange_spec (hbuf : vm.pageSize + s.length - 1 ≤ bufLen) (hs : 0 < s.length)
    (r : MemoryRange) : IsSearchResult (vm.MatchIn s r.start r.end_) (vm.searchRange bufLen s hs r) := by
  induction r using searchRange.induct vm bufLen s hs with
  | case1 r hr p hc =>
    rw [searchRange, if_pos hr, hc]
    exact searchChunk_eq_some hs hc
  | case2 r hr hc ih =>
    rw [searchRange, if_pos hr, hc]
    exact (IsSearchResult.congr (matchIn_nextChunk_iff hbuf hs hc)).mpr ih
  | case3 r hr =>
    rw [searchRange, if_neg hr]
    rintro q ⟨h₁, h₂, -⟩
    exact hr (by simp only [MemoryRange.size]; omega)

/-- The matches in the range scanned for a mapping are the matches in `where_`
that start inside the mapping. -/
theorem matchIn_mapRange_iff (hs : 0 < s.length) (where_ : MemoryRange) (m : Mapping) (q : Nat) :
    vm.MatchIn s (mapRange where_ s m).start (mapRange where_ s m).end_ q ↔
      vm.MatchIn s where_.start where_.end_ q ∧ m.map.start ≤ q ∧ q < m.map.end_ := by
  simp only [MatchIn, mapRange, MemoryRange.intersect]
  constructor
  · rintro ⟨h₁, h₂, h₃⟩
    exact ⟨⟨by omega, by omega, h₃⟩, by omega, by omega⟩
  · rintro ⟨⟨h₁, h₂, h₃⟩, h₄, h₅⟩
    exact ⟨by omega, by omega, h₃⟩

/-- **The loop over the mappings returns the least match starting in one of
them**, the mappings being disjoint and in ascending order. -/
theorem searchMaps_spec (hbuf : vm.pageSize + s.length - 1 ≤ bufLen) (hs : 0 < s.length)
    (where_ : MemoryRange) {ms : List Mapping} (hms : ms.Pairwise fun m m' => m.map.end_ ≤ m'.map.start) :
    IsSearchResult (fun q => vm.MatchIn s where_.start where_.end_ q ∧ ∃ m ∈ ms, m.map.start ≤ q ∧ q < m.map.end_)
      (vm.searchMaps bufLen s hs where_ ms) := by
  induction ms with
  | nil => rintro q ⟨-, m, hm, -⟩; cases hm
  | cons m ms ih =>
    obtain ⟨hafter, hms⟩ := List.pairwise_cons.mp hms
    have hm := (IsSearchResult.congr (vm.matchIn_mapRange_iff hs where_ m)).mp
      (vm.searchRange_spec hbuf hs (mapRange where_ s m))
    rw [searchMaps]
    cases hres : vm.searchRange bufLen s hs (mapRange where_ s m) with
    | some p =>
      rw [hres] at hm
      obtain ⟨⟨hp, hpm⟩, hlow⟩ := hm
      refine ⟨⟨hp, m, List.mem_cons_self _ _, hpm⟩, ?_⟩
      rintro q ⟨hq, m', hm', hq'⟩
      rcases List.mem_cons.mp hm' with rfl | hm'
      · exact hlow ⟨hq, hq'⟩
      · have := hafter m' hm'
        have := hpm.2
        omega
    | none =>
      rw [hres] at hm
      refine (IsSearchResult.congr fun q => ⟨?_, ?_⟩).mp (ih hms)
      · rintro ⟨hq, m', hm', hq'⟩
        exact ⟨hq, m', List.mem_cons_of_mem _ hm', hq'⟩
      · rintro ⟨hq, m', hm', hq'⟩
        rcases List.mem_cons.mp hm' with rfl | hm'
        · exact absurd ⟨hq, hq'⟩ (hm q)
        · exact ⟨hq, m', hm', hq'⟩

/-- `search_memory` answers the search for the least match in `where_`: every
match starts in a mapping, since its first byte can be read. -/
theorem searchMemory_spec {where_ : MemoryRange} (hs : s ≠ []) :
    ∃ res, vm.searchMemory where_ s = .ok res ∧ IsSearchResult (vm.MatchIn s where_.start where_.end_) res := by
  have hl : s.length ≠ 0 := by simpa using hs
  refine ⟨_, dif_neg hl, (IsSearchResult.congr fun q => ⟨fun h => h.1, fun hq => ⟨hq, ?_⟩⟩).mp
    (vm.searchMaps_spec (Nat.le_refl _) (Nat.pos_of_ne_zero hl) where_ vm.maps_ascending)⟩
  exact vm.readable_mapped q (by simpa [readable] using hq.2.2.1 0 (Nat.pos_of_ne_zero hl))

theorem naiveSearchFrom_spec (s : List UInt8) (lo hi q n : Nat) :
    IsSearchResult (fun x => vm.MatchIn s lo hi x ∧ q ≤ x ∧ x < q + n) (vm.naiveSearchFrom s lo hi q n) := by
  induction n generalizing q with
  | zero => rintro x ⟨-, h₁, h₂⟩; omega
  | succ n ih =>
    rw [naiveSearchFrom]
    split_ifs with hq
    · exact ⟨⟨hq, Nat.le_refl _, by omega⟩, fun x hx => hx.2.1⟩
    · refine (IsSearchResult.congr fun x => ⟨?_, ?_⟩).mp (ih (q + 1))
      · rintro ⟨hx, h₁, h₂⟩
        exact ⟨hx, by omega, by omega⟩
      · rintro ⟨hx, h₁, h₂⟩
        refine ⟨hx, ?_, by omega⟩
        rcases Nat.eq_or_lt_of_le h₁ with rfl | h
        · exact absurd hx hq
        · exact h

/-- The naive search answers the search for the least match in `where_`. -/
theorem naiveSearch_spec (where_ : MemoryRange) (hs : 0 < s.length) :
    IsSearchResult (vm.MatchIn s where_.start where_.end_) (vm.naiveSearch where_ s) := by
  have := where_.start_le_end
  refine (IsSearchResult.congr fun q => ⟨fun h => h.1, fun h => ⟨h, h.1, ?_⟩⟩).mp
    (vm.naiveSearchFrom_spec s where_.start where_.end_ where_.start where_.size)
  have := h.2.1
  simp only [MemoryRange.size]
  omega

end Loops

/-- **`search_memory` finds the least match.** For every non-empty pattern it
returns, without failing, the least address `q` at which `[q, q + |s|)` lies in
`where_`, can be read and holds `s`, or none when there is no such address:
the answer of the naive byte-by-byte search. -/
theorem searchMemory_finds_least_match (vm : AddressSpace) (where_ : MemoryRange) (s : List UInt8)
    (hs : s ≠ []) :
    vm.searchMemory where_ s = .ok (vm.naiveSearch where_ s) ∧
      (∀ p, vm.searchMemory where_ s = .ok (some p) ↔ IsLeast {q | vm.MatchIn s where_.start where_.end_ q} p) ∧
      (vm.searchMemory where_ s = .ok none ↔ ∀ q, ¬ vm.MatchIn s where_.start where_.end_ q) := by
  obtain ⟨res, hres, hspec⟩ := vm.searchMemory_spec hs
  refine ⟨?_, fun p => ?_, ?_⟩ <;> rw [hres]
  · rw [hspec.unique (vm.naiveSearch_spec where_ (List.length_pos.mpr hs))]
  · rw [Except.ok.injEq]; exact hspec.eq_some_iff
  · rw [Except.ok.injEq]; exact hspec.eq_none_iff

/-- A mapping `[0, 12)` of three readable 4-byte pages, with the pattern
`de ad` at 3 and 4, across the boundary of the first two pages: the search
finds it at 3. -/
theorem searchMemory_finds_least_match_across_pages :
    ∃ (vm : AddressSpace) (where_ : MemoryRange) (s : List UInt8), s ≠ [] ∧
      vm.floorPageSize 3 ≠ vm.floorPageSize (3 + s.length - 1) ∧ vm.searchMemory where_ s = .ok (some 3) ∧
      vm.searchMemory where_ s = .ok (vm.naiveSearch where_ s) ∧
      (∀ p, vm.searchMemory where_ s = .ok (some p) ↔ IsLeast {q | vm.MatchIn s where_.start where_.end_ q} p) ∧
      (vm.searchMemory where_ s = .ok none ↔ ∀ q, ¬ vm.MatchIn s where_.start where_.end_ q) := by
  refine ⟨⟨[⟨⟨0, 12, by decide⟩, ⟨false⟩⟩], List.pairwise_singleton _ _, 4, by decide, fun p => decide (p < 3),
      fun a => if a = 3 then 0xde else if a = 4 then 0xad else 0,
      fun a h => ⟨_, List.mem_singleton_self _, Nat.zero_le a, by simp at h; show a < 12; omega⟩⟩,
    ⟨0, 12, by decide⟩, [0xde, 0xad], by decide, by decide, ?_,
    searchMemory_finds_least_match _ _ _ (by decide)⟩
  rw [(searchMemory_finds_least_match _ _ _ (by decide)).1]
  exact congrArg Except.ok (by decide)

end AddressSpace

end RdCore.Gdb
