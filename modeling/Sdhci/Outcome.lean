import Sdhci.Footprint

namespace Sdhci

open Prog

/-- A controller whose registers read as fixed values: `f a` at address `a`, whatever
happened before. -/
def fixedController (f : Addr → Nat) : Device Unit := ⟨fun _ _ a ↦ f a, fun s _ ↦ s⟩

/-- Whether an error status holds one of the ten errors sdhci_cmd_err_status tests. -/
def errClassified (err : Nat) : Bool := sdhciErrChecks.any fun c ↦ err &&& c.1 != 0

/-- The return code of the err label: 1 exactly when the summary bit is set and the error
status holds a classified error. -/
def errLabelCode (intStatus err : Nat) : Nat :=
  if intStatus &&& sdhciErrIntStatMask != 0 && errClassified err then 1 else 0

section Reads

variable {σ : Type} (D : Device σ) (w : World σ)

theorem run_ifThen_bind {β : Type} {c : Prop} [Decidable c] (p : Prog Unit) (k : Unit → Prog β) :
    (ifThen c p >>= k).run D w = if c then (p >>= k).run D w else (k ()).run D w := by
  unfold ifThen; split <;> rfl

theorem sdhciCmdErrStatus_run : (sdhciCmdErrStatus.run D w).1 =
    .ok (if errClassified (D.answer w.dev 16 (.hc sdhciErrIntStsReg) % 2 ^ 16) then 1 else 0) := by
  rw [sdhciCmdErrStatus, readReg_bind, Prog.run]
  generalize D.answer w.dev 16 (.hc sdhciErrIntStsReg) % 2 ^ 16 = v
  rw [errClassified]
  split
  case h_1 c h =>
    have : sdhciErrChecks.any (fun c ↦ v &&& c.1 != 0) = true :=
      List.any_eq_true.2 ⟨c, List.mem_of_find?_eq_some h, by simpa using List.find?_some h⟩
    rw [this]; rfl
  case h_2 h =>
    have : sdhciErrChecks.any (fun c ↦ v &&& c.1 != 0) = false := by
      simpa [List.find?_eq_none] using h
    rw [this]; rfl

/-- On a controller that reads do not move on, the err label returns the code of the
normal and error status it reads. -/
theorem sdhciCmdErrLabel_run (hD : ∀ s n a v, D.step s (.read n a v) = s) (cmd : MmcCommand) :
    ((sdhciCmdCompleteErr cmd).run D w).1 =
      .ok (errLabelCode (D.answer w.dev 16 (.hc sdhciNrmlIntStsReg) % 2 ^ 16)
        (D.answer w.dev 16 (.hc sdhciErrIntStsReg) % 2 ^ 16), cmd) := by
  rw [sdhciCmdCompleteErr, readReg_bind, Prog.run]
  have hreset : ∀ w' : World σ, ((ifThen (cmd.dataPresent ≠ 0)
      (writeReg 8 (.hc sdhciResetReg) (softResetCmd ||| softResetData)) >>= fun _ ↦
        pure (0, cmd)).run D w').1 = .ok (0, cmd) := by
    intro w'; rw [run_ifThen_bind]; split <;> rfl
  have hw := hD w.dev 16 (.hc sdhciNrmlIntStsReg)
  generalize D.answer w.dev 16 (.hc sdhciNrmlIntStsReg) % 2 ^ 16 = v at hw ⊢
  rw [errLabelCode]
  by_cases hs : (v &&& sdhciErrIntStatMask != 0) = true
  · rw [if_pos hs, Prog.run_bind_ok _ (sdhciCmdErrStatus_run D _), World.record, hw]
    by_cases he : errClassified (D.answer w.dev 16 (.hc sdhciErrIntStsReg) % 2 ^ 16) = true
    · simp only [he, hs, if_true, Bool.and_self]; rfl
    · simp only [he, hs, Bool.false_eq_true, if_false, Bool.and_false, ne_eq, not_true]
      exact hreset _
  · rw [if_neg hs]
    simp only [hs, Bool.false_eq_true, Bool.false_and, if_false]
    exact hreset _

end Reads

section Fixed

variable (f : Addr → Nat) (w : World Unit)

theorem sdhciRespStep_returns (resp : Fin 4 → Nat) (i : Fin 4) :
    (sdhciRespStep resp i).Returns := by
  intro v
  split
  · exact fun _ ↦ trivial
  · trivial

theorem sdhciReadResp_returns (cmd : MmcCommand) : (sdhciReadResp cmd).Returns := by
  unfold sdhciReadResp
  split
  · generalize cmd.resp = resp
    induction List.finRange 4 generalizing resp with
    | nil => trivial
    | cons i is ih => exact Prog.returns_bind (sdhciRespStep_returns resp i) ih
  · exact fun _ ↦ trivial

/-- A wait against the fixed controller `f` has the fuel to see its condition, or to give
up on it. -/
def PollFits (w : Nat) (a : Addr) (done : Nat → Bool) (bits bound fuel : Nat) : Prop :=
  0 < fuel ∧ (done (f a % 2 ^ w) = false → 0 < bound ∧ bound < 2 ^ bits ∧ bound ≤ fuel)

theorem pollLoop_run_fixed {w' : Nat} {a : Addr} {done : Nat → Bool} {bits bound us fuel : Nat}
    (h : PollFits f w' a done bits bound fuel) :
    ((pollLoop w' a done bits bound us fuel 0).run (fixedController f) w).1 =
      .ok (done (f a % 2 ^ w')) := by
  obtain ⟨hf, hb⟩ := h
  cases hd : done (f a % 2 ^ w')
  · obtain ⟨h0, hb, hbf⟩ := hb hd
    exact pollLoop_run_timeout _ (fun _ ↦ hd) hb h0 (by omega) w
  · obtain ⟨n, rfl⟩ : ∃ n, fuel = n + 1 := ⟨fuel - 1, by omega⟩
    rw [pollLoop_run_found _ hd]

/-- Against a fixed controller sdhci_cmd_complete returns the code of its err label,
whether or not it saw Command Complete. -/
theorem sdhciCmdComplete_fixed (cfg : Config) (fuel : Nat) (cmd : MmcCommand)
    (hc : PollFits f 16 (.hc sdhciNrmlIntStsReg) cmdCompleteSeen 16 cfg.sdhciMaxCmdRetry fuel)
    (ht : cmdCompleteSeen (f (.hc sdhciNrmlIntStsReg) % 2 ^ 16) = true →
      cmd.dataPresent ≠ 0 ∨ cmd.cmdIndex = sdhciSwitchCmd →
      PollFits f 16 (.hc sdhciNrmlIntStsReg) transCompleteSeen 16 cfg.sdhciMaxTransRetry fuel) :
    ∃ r, ((sdhciCmdComplete cfg fuel cmd).run (fixedController f) w).1 =
      .ok (errLabelCode (f (.hc sdhciNrmlIntStsReg) % 2 ^ 16) (f (.hc sdhciErrIntStsReg) % 2 ^ 16),
        { cmd with resp := r }) := by
  rw [sdhciCmdComplete, Prog.run_bind_ok _ (pollLoop_run_fixed f w hc)]
  cases hcc : cmdCompleteSeen (f (.hc sdhciNrmlIntStsReg) % 2 ^ 16)
  · exact ⟨cmd.resp, sdhciCmdErrLabel_run _ _ (fun _ _ _ _ ↦ rfl) cmd⟩
  · simp only [Bool.not_true, Bool.false_eq_true, if_false, writeReg_bind, Prog.run,
      Prog.bind_ret_left]
    generalize World.record (fixedController f) _ _ = w'
    obtain ⟨r, hr⟩ := Prog.run_returns (fixedController f) (sdhciReadResp_returns cmd) w'
    refine ⟨r, ?_⟩
    rw [Prog.run_bind_ok _ hr]
    split
    case isTrue hd =>
      rw [Prog.run_bind_ok _ (pollLoop_run_fixed f _ (ht hcc hd))]
      cases transCompleteSeen (f (.hc sdhciNrmlIntStsReg) % 2 ^ 16) <;>
        exact sdhciCmdErrLabel_run _ _ (fun _ _ _ _ ↦ rfl) _
    case isFalse => exact sdhciCmdErrLabel_run _ _ (fun _ _ _ _ ↦ rfl) _

end Fixed

section Issue

variable {σ : Type} (D : Device σ)

theorem ifThen_assert_bind {β : Type} {c : Prop} [Decidable c] {b : Bool} (h : c → b = true)
    (k : Unit → Prog β) : ifThen c (assert b) >>= k = k () := by
  unfold ifThen; split
  · rw [assert_bind, if_pos (h ‹_›)]
  · rfl

theorem sdhciIssueCommand_run (cfg : Config) (cmd : MmcCommand) (respType : Nat) (w : World σ)
    (hb : cmd.dataPresent ≠ 0 → w.brk ≠ 0) :
    ((sdhciIssueCommand cfg cmd respType).run D w).1 =
      .ok (if cmd.dataPresent ≠ 0 then w.brk else 0) := by
  by_cases hd : cmd.dataPresent ≠ 0
  · simp only [sdhciIssueCommand, sdhciAdmaTransfer, sdhciPrepDescTable, hd, if_true, ne_eq,
      not_false_eq_true]
    split <;> split <;> simp [Prog.run, hb hd]
  · simp [sdhciIssueCommand, hd, Prog.run]

theorem sdhciIssueCommand_trace (cfg : Config) (cmd : MmcCommand) (respType : Nat) (w : World σ)
    (hd : cmd.dataPresent ≠ 0) (hb : w.brk ≠ 0) :
    (∃ n, Access.effect (.memalign w.brk n) ∈
      ((sdhciIssueCommand cfg cmd respType).run D w).2.trace) ∧
      Access.effect (.store w.brk
          (descTable cmd.data.dataPtr (cmd.data.numBlocks * sdhciMmcBlkSz % 2 ^ 32))) ∈
        ((sdhciIssueCommand cfg cmd respType).run D w).2.trace ∧
      .write 16 (.hc sdhciBlkCntReg) (cmd.data.numBlocks % 2 ^ 16) ∈
        ((sdhciIssueCommand cfg cmd respType).run D w).2.trace := by
  simp only [sdhciIssueCommand, sdhciAdmaTransfer, sdhciPrepDescTable, hd, if_true, ne_eq,
    not_false_eq_true]
  split <;> split <;> simp [Prog.run, hb]

/-- With its checks passed, free lines at the first poll and a known response type,
sdhci_send_command issues the command and finishes it. -/
theorem sdhciSendCommand_run_issue (w : World σ) (cfg : Config) (fuel : Nat) (cmd : MmcCommand)
    {respType : Nat} (h1 : cmd.dataPresent ≠ 0 → cmd.data.dataPtr ≠ 0)
    (h2 : cmd.transMode = sdhciReadMode → cfg.isCacheLineAligned cmd.data.dataPtr = true)
    (hl : linesFree (D.answer w.dev 32 (.hc sdhciPresentStateReg) % 2 ^ 32) = true)
    (hfuel : 0 < fuel) (hr : respTypeCode cmd.respType = some respType) :
    (sdhciSendCommand cfg fuel cmd).run D w =
      (sdhciIssueCommand cfg cmd respType >>= sdhciFinishCommand cfg fuel cmd).run D
        (w.record D (.read 32 (.hc sdhciPresentStateReg)
          (D.answer w.dev 32 (.hc sdhciPresentStateReg) % 2 ^ 32))) := by
  obtain ⟨n, rfl⟩ : ∃ n, fuel = n + 1 := ⟨fuel - 1, by omega⟩
  rw [sdhciSendCommand, ifThen_assert_bind (fun h ↦ bne_iff_ne.2 (h1 h)),
    ifThen_assert_bind h2, run_bind, pollLoop_run_found _ hl]
  simp only [Bool.not_true, Bool.false_eq_true, if_false, hr]

end Issue

section Fixed

variable (f : Addr → Nat) (w : World Unit)

theorem sdhciFinishCommand_fixed (cfg : Config) (fuel : Nat) (cmd : MmcCommand) (sgList : Nat)
    (hc : PollFits f 16 (.hc sdhciNrmlIntStsReg) cmdCompleteSeen 16 cfg.sdhciMaxCmdRetry fuel)
    (ht : cmdCompleteSeen (f (.hc sdhciNrmlIntStsReg) % 2 ^ 16) = true →
      cmd.dataPresent ≠ 0 ∨ cmd.cmdIndex = sdhciSwitchCmd →
      PollFits f 16 (.hc sdhciNrmlIntStsReg) transCompleteSeen 16 cfg.sdhciMaxTransRetry fuel) :
    ∃ c, ((sdhciFinishCommand cfg fuel cmd sgList).run (fixedController f) w).1 =
      .ok (errLabelCode (f (.hc sdhciNrmlIntStsReg) % 2 ^ 16) (f (.hc sdhciErrIntStsReg) % 2 ^ 16),
        c) := by
  obtain ⟨r, hr⟩ := sdhciCmdComplete_fixed f w cfg fuel cmd hc ht
  rw [sdhciFinishCommand, run_bind_ok _ hr]
  refine ⟨{ cmd with resp := r }, ?_⟩
  unfold errLabelCode at hr ⊢
  split
  case isTrue h => rw [if_pos h]; rfl
  case isFalse h =>
    rw [if_neg (by simp [h])]
    unfold ifThen; split <;> split <;> rfl

/-- Against a fixed controller with free lines and a known response type,
sdhci_send_command returns the code of the err label: whether it ever saw Command Complete
or Transfer Complete plays no part. -/
theorem sdhciSendCommand_fixed (cfg : Config) (fuel : Nat) (cmd : MmcCommand) {respType : Nat}
    (h1 : cmd.dataPresent ≠ 0 → cmd.data.dataPtr ≠ 0)
    (h2 : cmd.transMode = sdhciReadMode → cfg.isCacheLineAligned cmd.data.dataPtr = true)
    (hl : linesFree (f (.hc sdhciPresentStateReg) % 2 ^ 32) = true)
    (hr : respTypeCode cmd.respType = some respType) (hb : cmd.dataPresent ≠ 0 → w.brk ≠ 0)
    (hc : PollFits f 16 (.hc sdhciNrmlIntStsReg) cmdCompleteSeen 16 cfg.sdhciMaxCmdRetry fuel)
    (ht : cmdCompleteSeen (f (.hc sdhciNrmlIntStsReg) % 2 ^ 16) = true →
      cmd.dataPresent ≠ 0 ∨ cmd.cmdIndex = sdhciSwitchCmd →
      PollFits f 16 (.hc sdhciNrmlIntStsReg) transCompleteSeen 16 cfg.sdhciMaxTransRetry fuel) :
    ∃ c, ((sdhciSendCommand cfg fuel cmd).run (fixedController f) w).1 =
      .ok (errLabelCode (f (.hc sdhciNrmlIntStsReg) % 2 ^ 16) (f (.hc sdhciErrIntStsReg) % 2 ^ 16),
        c) := by
  rw [sdhciSendCommand_run_issue (fixedController f) w cfg fuel cmd h1 h2 hl hc.1 hr,
    run_bind_ok _ (sdhciIssueCommand_run _ cfg cmd respType (w.record _ _) hb)]
  exact sdhciFinishCommand_fixed f _ cfg fuel cmd _ hc ht

theorem sdhciSendCommand_trace_issue (cfg : Config) (fuel : Nat) (cmd : MmcCommand)
    {respType : Nat}
    (h2 : cmd.transMode = sdhciReadMode → cfg.isCacheLineAligned cmd.data.dataPtr = true)
    (hl : linesFree (f (.hc sdhciPresentStateReg) % 2 ^ 32) = true) (hfuel : 0 < fuel)
    (hr : respTypeCode cmd.respType = some respType) (hd : cmd.dataPresent ≠ 0)
    (hp : cmd.data.dataPtr ≠ 0) (hb : w.brk ≠ 0) :
    (∃ n, Access.effect (.memalign w.brk n) ∈
        ((sdhciSendCommand cfg fuel cmd).run (fixedController f) w).2.trace) ∧
      Access.effect (.store w.brk
          (descTable cmd.data.dataPtr (cmd.data.numBlocks * sdhciMmcBlkSz % 2 ^ 32))) ∈
        ((sdhciSendCommand cfg fuel cmd).run (fixedController f) w).2.trace ∧
      .write 16 (.hc sdhciBlkCntReg) (cmd.data.numBlocks % 2 ^ 16) ∈
        ((sdhciSendCommand cfg fuel cmd).run (fixedController f) w).2.trace := by
  rw [sdhciSendCommand_run_issue (fixedController f) w cfg fuel cmd (fun _ ↦ hp) h2 hl hfuel hr,
    run_bind_ok _ (sdhciIssueCommand_run _ cfg cmd respType (w.record _ _) fun _ ↦ hb)]
  obtain ⟨⟨n, hm⟩, hs, hc⟩ :=
    sdhciIssueCommand_trace (fixedController f) cfg cmd respType (w.record _ _) hd hb
  exact ⟨⟨n, mem_run_trace _ hm _⟩, mem_run_trace _ hs _, mem_run_trace _ hc _⟩

end Fixed

/-- CMD13, SEND_STATUS: no data, an R1 response. -/
def statusCmd : MmcCommand := ⟨13, 0, 0, 0, sdhciCmdRespR1, fun _ ↦ 0, 0, ⟨0, 0⟩⟩

/-- CMD25, WRITE_MULTIPLE_BLOCK, of `nb` blocks from the buffer at `ptr`, R1 response. -/
def writeCmd (ptr nb : Nat) : MmcCommand := ⟨25, 0, 1, 0, sdhciCmdRespR1, fun _ ↦ 0, 0, ⟨ptr, nb⟩⟩

/-- CMD17, READ_SINGLE_BLOCK, into the buffer at `ptr`, with the read code of `cfg`. -/
def readCmd (cfg : Config) (ptr : Nat) : MmcCommand :=
  ⟨17, 0, 1, 0, sdhciCmdRespR1, fun _ ↦ 0, cfg.sdhciMmcRead, ⟨ptr, 1⟩⟩

/-- A controller that reads `nrml` and `err` from the two interrupt status registers and
0 everywhere else, so the lines are always free. -/
def statusController (nrml err : Nat) : Addr → Nat := fun a ↦
  if a = .hc sdhciNrmlIntStsReg then nrml else if a = .hc sdhciErrIntStsReg then err else 0

theorem sdhciSendCommand_returns_zero_unconfirmed (cfg : Config) (fuel : Nat) (w : World Unit)
    (hK : 0 < cfg.sdhciMaxCmdRetry ∧ cfg.sdhciMaxCmdRetry < 2 ^ 16 ∧ cfg.sdhciMaxCmdRetry ≤ fuel) :
    (∃ c, ((sdhciSendCommand cfg fuel statusCmd).run (fixedController (statusController 0 0)) w).1 =
        .ok (0, c)) ∧
      ∃ c, ((sdhciSendCommand cfg fuel statusCmd).run
        (fixedController (statusController 0x8001 0x400)) w).1 = .ok (0, c) := by
  obtain ⟨h0, hK, hf⟩ := hK
  constructor
  · exact sdhciSendCommand_fixed _ w cfg fuel statusCmd (absurd rfl) (absurd · (by decide))
      (by decide) rfl (absurd rfl) ⟨by omega, fun _ ↦ ⟨h0, hK, hf⟩⟩ (absurd · (by decide))
  · exact sdhciSendCommand_fixed _ w cfg fuel statusCmd (absurd rfl) (absurd · (by decide))
      (by decide) rfl (absurd rfl) ⟨by omega, (absurd · (by decide))⟩ fun _ ↦ (absurd · (by decide))

theorem sdhciSendCommand_returns_zero_unconfirmed_run :
    (0 < 10000 ∧ 10000 < 2 ^ 16 ∧ 10000 ≤ 10000) ∧
      (∃ c, ((sdhciSendCommand ⟨10000, 10000, 0, 64⟩ 10000 statusCmd).run
          (fixedController (statusController 0 0)) ⟨(), [], 1⟩).1 = .ok (0, c)) ∧
      ∃ c, ((sdhciSendCommand ⟨10000, 10000, 0, 64⟩ 10000 statusCmd).run
        (fixedController (statusController 0x8001 0x400)) ⟨(), [], 1⟩).1 = .ok (0, c) :=
  ⟨by decide, sdhciSendCommand_returns_zero_unconfirmed _ _ _ (by decide)⟩

theorem sdhciSendCommand_reads_unaligned (cfg : Config) (fuel : Nat) (w : World Unit)
    (hr : cfg.sdhciMmcRead ≠ sdhciReadMode) (hl : 2 ≤ cfg.cacheLine) (hfuel : 0 < fuel)
    (hb : w.brk ≠ 0) :
    cfg.isCacheLineAligned (cfg.cacheLine - 1) = false ∧
      ∃ c, ((sdhciSendCommand cfg fuel (readCmd cfg (cfg.cacheLine - 1))).run
        (fixedController (statusController 3 0)) w).1 = .ok (0, c) := by
  refine ⟨?_, sdhciSendCommand_fixed _ w cfg fuel _ (fun _ ↦ show cfg.cacheLine - 1 ≠ 0 by omega)
    (absurd · hr) (by decide) rfl (fun _ ↦ hb) ⟨hfuel, (absurd · (by decide))⟩
    fun _ _ ↦ ⟨hfuel, (absurd · (by decide))⟩⟩
  simp only [Config.isCacheLineAligned, Nat.and_self, beq_eq_false_iff_ne]
  omega

theorem sdhciSendCommand_reads_unaligned_run :
    (0 ≠ sdhciReadMode ∧ 2 ≤ 64 ∧ 0 < 1 ∧ 1 ≠ 0) ∧
      Config.isCacheLineAligned ⟨10000, 10000, 0, 64⟩ 63 = false ∧
      ∃ c, ((sdhciSendCommand ⟨10000, 10000, 0, 64⟩ 1 (readCmd ⟨10000, 10000, 0, 64⟩ 63)).run
        (fixedController (statusController 3 0)) ⟨(), [], 1⟩).1 = .ok (0, c) :=
  ⟨by decide,
    sdhciSendCommand_reads_unaligned _ _ _ (by decide) (by decide) (by decide) (by decide)⟩

theorem sdhciSendCommand_failure_keeps_table (cfg : Config) (fuel : Nat) (w : World Unit)
    (hfuel : 0 < fuel) (hb : w.brk ≠ 0) :
    (∃ c, ((sdhciSendCommand cfg fuel (writeCmd 0x1000 1)).run
        (fixedController (statusController 0x8003 sdhciDatCrcMask)) w).1 = .ok (1, c)) ∧
      (∃ n, Access.effect (.memalign w.brk n) ∈ ((sdhciSendCommand cfg fuel (writeCmd 0x1000 1)).run
        (fixedController (statusController 0x8003 sdhciDatCrcMask)) w).2.trace) ∧
      ∃ t, ((sdhciSendCommand cfg fuel (writeCmd 0x1000 1)).run
        (fixedController (statusController 0x8003 sdhciDatCrcMask)) w).2.trace = w.trace ++ t ∧
        lineReset ∉ t ∧ ∀ p, Access.effect (.free p) ∉ t := by
  have hcode : errLabelCode
      (statusController 0x8003 sdhciDatCrcMask (.hc sdhciNrmlIntStsReg) % 2 ^ 16)
      (statusController 0x8003 sdhciDatCrcMask (.hc sdhciErrIntStsReg) % 2 ^ 16) = 1 := by
    decide
  obtain ⟨c, hc⟩ := sdhciSendCommand_fixed (statusController 0x8003 sdhciDatCrcMask) w cfg fuel
    (writeCmd 0x1000 1) (fun _ ↦ by decide)
    (absurd · (by decide)) (by decide) rfl (fun _ ↦ hb) ⟨hfuel, (absurd · (by decide))⟩
    fun _ _ ↦ ⟨hfuel, (absurd · (by decide))⟩
  rw [hcode] at hc
  obtain ⟨⟨n, hm⟩, -, -⟩ := sdhciSendCommand_trace_issue (statusController 0x8003 sdhciDatCrcMask)
    w cfg fuel (writeCmd 0x1000 1)
    (absurd · (by decide)) (by decide) hfuel rfl (by decide) (by decide) hb
  obtain ⟨t, ht, hP⟩ := sdhciSendCommand_onlyWhen_fail cfg fuel _ _ w _ hc one_ne_zero
  exact ⟨⟨c, hc⟩, ⟨n, hm⟩, t, ht, fun h ↦ (hP _ h).ne_lineReset rfl,
    fun p h ↦ (hP _ h).ne_free rfl⟩

theorem sdhciSendCommand_failure_keeps_table_run :
    (0 < 1 ∧ 1 ≠ 0) ∧
      (∃ c, ((sdhciSendCommand ⟨10000, 10000, 0, 64⟩ 1 (writeCmd 0x1000 1)).run
        (fixedController (statusController 0x8003 sdhciDatCrcMask)) ⟨(), [], 1⟩).1 = .ok (1, c)) ∧
      (∃ n, Access.effect (.memalign 1 n) ∈ ((sdhciSendCommand ⟨10000, 10000, 0, 64⟩ 1
        (writeCmd 0x1000 1)).run (fixedController (statusController 0x8003 sdhciDatCrcMask))
          ⟨(), [], 1⟩).2.trace) ∧
      ∃ t, ((sdhciSendCommand ⟨10000, 10000, 0, 64⟩ 1 (writeCmd 0x1000 1)).run
        (fixedController (statusController 0x8003 sdhciDatCrcMask)) ⟨(), [], 1⟩).2.trace = [] ++ t ∧
        lineReset ∉ t ∧ ∀ p, Access.effect (.free p) ∉ t :=
  ⟨by decide, sdhciSendCommand_failure_keeps_table _ _ _ (by decide) (by decide)⟩

theorem sdhciSendCommand_blkCnt_mismatch (cfg : Config) (fuel : Nat) (w : World Unit)
    (hfuel : 0 < fuel) (hb : w.brk ≠ 0) :
    Access.write 16 (.hc sdhciBlkCntReg) 0 ∈
        ((sdhciSendCommand cfg fuel (writeCmd 0x1000 65536)).run
          (fixedController (statusController 0 0)) w).2.trace ∧
      Access.effect (.store w.brk (descTable 0x1000 0)) ∈
        ((sdhciSendCommand cfg fuel (writeCmd 0x1000 0)).run
          (fixedController (statusController 0 0)) w).2.trace ∧
      ((descTable 0x1000 0).map DescEntry.bytes).sum = 65536 :=
  ⟨(sdhciSendCommand_trace_issue (statusController 0 0) w cfg fuel (writeCmd 0x1000 65536)
      (absurd · (by decide))
      (by decide) hfuel rfl (by decide) (by decide) hb).2.2,
    (sdhciSendCommand_trace_issue (statusController 0 0) w cfg fuel (writeCmd 0x1000 0)
      (absurd · (by decide))
      (by decide) hfuel rfl (by decide) (by decide) hb).2.1, by decide⟩

end Sdhci
