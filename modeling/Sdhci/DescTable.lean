import Sdhci.Prog

namespace Sdhci

/-- A descriptor as the fields of struct desc_entry hold it: 16-bit attribute and
length, 32-bit address. -/
def descEntry (tranAtt len addr : Nat) : DescEntry :=
  ⟨tranAtt % 2 ^ 16, len % 2 ^ 16, addr % 2 ^ 32⟩

/-- The bytes the ADMA2 engine moves for a descriptor: a 16-bit length of 0 means 65536. -/
def DescEntry.bytes (e : DescEntry) : Nat := if e.len = 0 then 65536 else e.len

/-- The loop of sdhci_prep_desc_table over every entry but the last: each takes a full
line at data, then data and len move on by a line. Returns the entries and the final
data and len. -/
def prepDescLines : Nat → Nat → Nat → List DescEntry × Nat × Nat
  | 0, data, len => ([], data, len)
  | n + 1, data, len =>
    let rest := prepDescLines n ((data + sdhciAdmaDescLineSz) % 2 ^ 32) (len - sdhciAdmaDescLineSz)
    (descEntry (sdhciAdmaTransValid ||| sdhciAdmaTransData) sdhciAdmaDescLineSz data :: rest.1,
      rest.2)

/-- sg_len of sdhci_prep_desc_table: the lines a multi-line table of len bytes needs. -/
def descLines (len : Nat) : Nat :=
  if len - len / sdhciAdmaDescLineSz * sdhciAdmaDescLineSz ≠ 0 then
    len / sdhciAdmaDescLineSz + 1
  else len / sdhciAdmaDescLineSz

/-- The entries sdhci_prep_desc_table writes for len bytes at data. -/
def descTable (data len : Nat) : List DescEntry :=
  let last := sdhciAdmaTransValid ||| sdhciAdmaTransData ||| sdhciAdmaTransEnd
  if len ≤ sdhciAdmaDescLineSz then [descEntry last len data]
  else
    let lines := prepDescLines (descLines len - 1) data len
    lines.1 ++ [descEntry last lines.2.2 lines.2.1]

def allocCheck (sgList : Nat) : Prog Unit :=
  if sgList = 0 then do dprintf "Error allocating memory\n"; assert false else pure ()

/-- sdhci_prep_desc_table: allocate the table, fill it, and clean it to memory. -/
def sdhciPrepDescTable (data len : Nat) : Prog Nat :=
  if len ≤ sdhciAdmaDescLineSz then do
    let sgList ← memalign descEntrySize
    allocCheck sgList
    emit (.store sgList (descTable data len))
    emit (.cleanInvalidate sgList descEntrySize)
    emit (.cleanInvalidate sgList 0)
    pure sgList
  else do
    let tableLen := descLines len * descEntrySize
    let sgList ← memalign tableLen
    allocCheck sgList
    emit (.store sgList (descTable data len))
    emit (.cleanInvalidate sgList tableLen)
    pure sgList

theorem descEntry_congr {att len x y : Nat} (h : x % 2 ^ 32 = y % 2 ^ 32) :
    descEntry att len x = descEntry att len y := by
  simp only [descEntry, h]

theorem prepDescLines_entries (n data len : Nat) :
    (prepDescLines n data len).1 = (List.range n).map fun i ↦
      descEntry (sdhciAdmaTransValid ||| sdhciAdmaTransData) sdhciAdmaDescLineSz
        (data + i * sdhciAdmaDescLineSz) := by
  induction n generalizing data len with
  | zero => rfl
  | succ n ih =>
    rw [prepDescLines, ih, List.range_succ_eq_map, List.map_cons, List.map_map]
    refine congrArg₂ _ (by simp) (List.map_congr_left fun i _ ↦ descEntry_congr ?_)
    simp only [sdhciAdmaDescLineSz, Function.comp]
    omega

theorem prepDescLines_data (n data len : Nat) :
    (prepDescLines n data len).2.1 % 2 ^ 32 = (data + n * sdhciAdmaDescLineSz) % 2 ^ 32 := by
  induction n generalizing data len with
  | zero => simp [prepDescLines]
  | succ n ih =>
    rw [prepDescLines, ih]
    simp only [sdhciAdmaDescLineSz]
    omega

theorem prepDescLines_len (n data len : Nat) :
    (prepDescLines n data len).2.2 = len - n * sdhciAdmaDescLineSz := by
  induction n generalizing data len with
  | zero => simp [prepDescLines]
  | succ n ih =>
    rw [prepDescLines, ih]
    simp only [sdhciAdmaDescLineSz]
    omega

/-- Entry `i` of an `n`-entry chain for `len` bytes at `a`: a full line with Valid and
Data, the last one the rest with End as well. -/
def chainEntry (a len n i : Nat) : DescEntry :=
  if i + 1 < n then
    descEntry (sdhciAdmaTransValid ||| sdhciAdmaTransData) sdhciAdmaDescLineSz
      (a + i * sdhciAdmaDescLineSz)
  else
    descEntry (sdhciAdmaTransValid ||| sdhciAdmaTransData ||| sdhciAdmaTransEnd)
      (len - i * sdhciAdmaDescLineSz) (a + i * sdhciAdmaDescLineSz)

theorem descLines_eq {len : Nat} (h : sdhciAdmaDescLineSz < len) :
    descLines len = (len + sdhciAdmaDescLineSz - 1) / sdhciAdmaDescLineSz := by
  simp only [descLines, sdhciAdmaDescLineSz] at h ⊢
  split <;> omega

theorem descTable_eq (a len : Nat) (h : 1 ≤ len) :
    descTable a len = (List.range ((len + sdhciAdmaDescLineSz - 1) / sdhciAdmaDescLineSz)).map
      (chainEntry a len ((len + sdhciAdmaDescLineSz - 1) / sdhciAdmaDescLineSz)) := by
  unfold descTable
  split
  case isTrue hle =>
    have h1 : (len + sdhciAdmaDescLineSz - 1) / sdhciAdmaDescLineSz = 1 := by
      simp only [sdhciAdmaDescLineSz] at hle ⊢; omega
    rw [h1]
    simp [chainEntry, List.range_succ]
  case isFalse hgt =>
    rw [← descLines_eq (by omega)]
    obtain ⟨n, hn⟩ : ∃ n, descLines len = n + 1 := ⟨descLines len - 1, by
      rw [descLines_eq (by omega)]; simp only [sdhciAdmaDescLineSz] at hgt ⊢; omega⟩
    simp only [hn, Nat.add_sub_cancel, List.range_succ, List.map_append, prepDescLines_entries,
      List.map_cons, List.map_nil]
    refine congrArg₂ _ (List.map_congr_left fun i hi ↦ ?_) ?_
    · simp [chainEntry, List.mem_range.1 hi]
    · simp only [chainEntry, lt_irrefl, if_false, prepDescLines_len]
      rw [descEntry_congr (prepDescLines_data _ _ _)]

/-- What the ADMA2 engine needs of a chain for `len` bytes at `a`: one entry per started
line, entry `i` at `a + i` lines, every entry moving between one byte and a full line,
all but the last a full line, `len` bytes in all, every entry Valid and Data, and End on
the last entry only. So the chain covers `[a, a + len)` in order, with no gap or overlap. -/
structure Covers (a len : Nat) (t : List DescEntry) : Prop where
  length_eq : t.length = max 1 ((len + sdhciAdmaDescLineSz - 1) / sdhciAdmaDescLineSz)
  addr_eq : ∀ i (h : i < t.length), t[i].addr = (a + i * sdhciAdmaDescLineSz) % 2 ^ 32
  bytes_pos : ∀ e ∈ t, 1 ≤ e.bytes
  bytes_le : ∀ e ∈ t, e.bytes ≤ sdhciAdmaDescLineSz
  full : ∀ i (h : i < t.length), i + 1 < t.length → t[i].bytes = sdhciAdmaDescLineSz
  sum_eq : (t.map DescEntry.bytes).sum = len
  valid : ∀ e ∈ t, e.tranAtt &&& (sdhciAdmaTransValid ||| sdhciAdmaTransData) =
    sdhciAdmaTransValid ||| sdhciAdmaTransData
  end_iff : ∀ i (h : i < t.length), t[i].tranAtt &&& sdhciAdmaTransEnd ≠ 0 ↔ i + 1 = t.length

@[simp] theorem allocCheck_bind {β : Type} (sgList : Nat) (f : Unit → Prog β) :
    allocCheck sgList >>= f =
      if sgList = 0 then .effect (.dprintf "Error allocating memory\n") (.halt .assert)
      else f () := by
  unfold allocCheck; split <;> rfl

section Chain

variable {a len n i : Nat}

theorem chainEntry_addr : (chainEntry a len n i).addr = (a + i * sdhciAdmaDescLineSz) % 2 ^ 32 := by
  unfold chainEntry; split <;> simp [descEntry]

theorem chainEntry_tranAtt :
    (chainEntry a len n i).tranAtt = if i + 1 < n then 0x21 else 0x23 := by
  unfold chainEntry; split <;> rfl

theorem chainEntry_bytes (hn : n = (len + sdhciAdmaDescLineSz - 1) / sdhciAdmaDescLineSz)
    (hi : i < n) :
    (chainEntry a len n i).bytes =
      if i + 1 < n then sdhciAdmaDescLineSz else len - i * sdhciAdmaDescLineSz := by
  unfold chainEntry DescEntry.bytes descEntry
  simp only [sdhciAdmaDescLineSz] at hn ⊢
  split <;> split <;> simp_all <;> omega

theorem chainEntry_end :
    (chainEntry a len n i).tranAtt &&& sdhciAdmaTransEnd ≠ 0 ↔ n ≤ i + 1 := by
  rw [chainEntry_tranAtt]
  split
  · exact iff_of_false (by decide) (by omega)
  · exact iff_of_true (by decide) (by omega)

end Chain

theorem chain_covers (a len : Nat) (h : 1 ≤ len) :
    Covers a len ((List.range ((len + sdhciAdmaDescLineSz - 1) / sdhciAdmaDescLineSz)).map
      (chainEntry a len ((len + sdhciAdmaDescLineSz - 1) / sdhciAdmaDescLineSz))) := by
  generalize hn : (len + sdhciAdmaDescLineSz - 1) / sdhciAdmaDescLineSz = n
  have hL : sdhciAdmaDescLineSz = 65536 := rfl
  have hb := fun i ↦ chainEntry_bytes (a := a) (i := i) hn.symm
  rw [hL] at hn hb
  refine ⟨?_, ?_, ?_, ?_, ?_, ?_, ?_, ?_⟩
  · simp only [List.length_map, List.length_range, hL]; omega
  · simp [chainEntry_addr]
  · simp only [List.forall_mem_map, List.mem_range]
    intro i hi; rw [hb i hi]; split <;> omega
  · simp only [List.forall_mem_map, List.mem_range, hL]
    intro i hi; rw [hb i hi]; split <;> omega
  · simp only [List.length_map, List.length_range, List.getElem_map, List.getElem_range, hL]
    intro i hi hi1; rw [hb i hi, if_pos hi1]
  · obtain ⟨m, rfl⟩ : ∃ m, n = m + 1 := ⟨n - 1, by omega⟩
    have hfull : (List.range m).map (DescEntry.bytes ∘ chainEntry a len (m + 1)) =
        List.replicate m 65536 := by
      refine List.eq_replicate_iff.2 ⟨by simp, ?_⟩
      simp only [List.forall_mem_map, List.mem_range, Function.comp_apply]
      intro i hi; rw [hb i (by omega), if_pos (by omega)]
    simp only [List.map_map, List.range_succ, List.map_append, List.sum_append, hfull,
      List.sum_const_nat, List.map_cons, List.map_nil, List.sum_cons, List.sum_nil,
      Function.comp_apply, hb m (by omega), lt_irrefl, if_false]
    omega
  · simp only [List.forall_mem_map, chainEntry_tranAtt]
    intro i _; split <;> rfl
  · simp only [List.length_map, List.length_range, List.getElem_map, List.getElem_range,
      chainEntry_end]
    omega

theorem descTable_covers (a len : Nat) (h : 1 ≤ len) : Covers a len (descTable a len) :=
  descTable_eq a len h ▸ chain_covers a len h

variable {σ : Type}

/-- On every controller, sdhci_prep_desc_table for a buffer of at least one byte stops at
its ASSERT when the allocator hands out NULL. Otherwise it returns the block it was handed
and stores there a single table, a chain that covers the buffer exactly. -/
theorem sdhciPrepDescTable_covers (D : Device σ) (w : World σ) (a len : Nat) (h : 1 ≤ len) :
    ∃ t, ((sdhciPrepDescTable a len).run D w).2.trace = w.trace ++ t ∧
      (w.brk = 0 ∧ ((sdhciPrepDescTable a len).run D w).1 = .error .assert ∨
        w.brk ≠ 0 ∧ ((sdhciPrepDescTable a len).run D w).1 = .ok w.brk ∧
          ∃ tab, Covers a len tab ∧
            ∀ q tab', Access.effect (.store q tab') ∈ t ↔ q = w.brk ∧ tab' = tab) := by
  unfold sdhciPrepDescTable
  by_cases hb : w.brk = 0 <;> split <;> simp [Prog.run, World.record, hb] <;>
    exact ⟨_, descTable_covers a len h, fun _ _ _ ↦ Iff.rfl⟩

theorem sdhciPrepDescTable_covers_three_hundred_blocks :
    let D : Device Unit := ⟨fun _ _ _ ↦ 0, fun _ _ ↦ ()⟩
    let w : World Unit := ⟨(), [], 0x2000⟩
    let run := (sdhciPrepDescTable 0x1000 (300 * sdhciMmcBlkSz)).run D w
    1 ≤ 300 * sdhciMmcBlkSz ∧ ∃ t, run.2.trace = w.trace ++ t ∧
      (w.brk = 0 ∧ run.1 = .error .assert ∨ w.brk ≠ 0 ∧ run.1 = .ok w.brk ∧
        ∃ tab, Covers 0x1000 (300 * sdhciMmcBlkSz) tab ∧
          ∀ q tab', Access.effect (.store q tab') ∈ t ↔ q = w.brk ∧ tab' = tab) :=
  ⟨by decide, sdhciPrepDescTable_covers _ _ _ _ (by decide)⟩

end Sdhci
