import Sdhci.Outcome

namespace Sdhci

open Prog

section Ends

variable {α β : Type}

theorem Prog.Ends.bind_le {n k : Nat} (m : Nat) {p : Prog α} {f : α → Prog β} (hp : p.Ends n)
    (hf : ∀ a, (f a).Ends m) (h : n + m ≤ k) : (p >>= f).Ends k :=
  (ends_bind hp hf).mono h

theorem readReg_ends (w : Nat) (a : Addr) : (readReg w a).Ends 1 := ⟨Nat.one_pos, fun _ ↦ trivial⟩

theorem writeReg_ends (n w : Nat) (a : Addr) (v : Nat) : (writeReg w a v).Ends n := trivial

theorem dprintf_ends (n : Nat) (m : String) : (dprintf m).Ends n := trivial

theorem assert_ends (n : Nat) (b : Bool) : (assert b).Ends n := by
  unfold assert
  split
  · trivial
  · rfl

theorem ifThen_ends {n : Nat} {c : Prop} [Decidable c] {p : Prog Unit} (hp : p.Ends n) :
    (ifThen c p).Ends n := by
  unfold ifThen
  split
  · exact hp
  · trivial

end Ends

theorem sdhciCmdErrStatus_ends : sdhciCmdErrStatus.Ends 1 :=
  Ends.bind_le 0 (readReg_ends _ _) (fun err ↦ by split <;> trivial) le_rfl

theorem sdhciCmdCompleteErr_ends (cmd : MmcCommand) : (sdhciCmdCompleteErr cmd).Ends 2 := by
  refine Ends.bind_le 1 (readReg_ends _ _) (fun intStatus ↦ ?_) le_rfl
  refine Ends.bind_le 0 (by split; exacts [sdhciCmdErrStatus_ends, trivial]) (fun failed ↦ ?_)
    le_rfl
  split
  · trivial
  · exact Ends.bind_le 0 (ifThen_ends trivial) (fun _ ↦ trivial) le_rfl

theorem sdhciRespStep_ends (resp : Fin 4 → Nat) (i : Fin 4) : (sdhciRespStep resp i).Ends 2 := by
  refine Ends.bind_le 1 (readReg_ends _ _) (fun r ↦ ?_) le_rfl
  dsimp only
  split
  · exact Ends.bind_le 0 (readReg_ends _ _) (fun _ ↦ trivial) le_rfl
  · trivial

theorem sdhciReadResp_ends (cmd : MmcCommand) : (sdhciReadResp cmd).Ends 8 := by
  have hfold : ∀ (l : List (Fin 4)) resp, (l.foldlM sdhciRespStep resp).Ends (2 * l.length) := by
    intro l
    induction l with
    | nil => exact fun _ ↦ trivial
    | cons i is ih =>
      exact fun resp ↦ Ends.bind_le _ (sdhciRespStep_ends resp i) ih (by simp; omega)
  unfold sdhciReadResp
  split
  · simpa using hfold (List.finRange 4) cmd.resp
  · exact Ends.bind_le 0 (readReg_ends _ _) (fun _ ↦ trivial) (by omega)

/-- A wait whose bound `K` fits its 16-bit counter and the model's fuel. -/
def RetryFits (K fuel : Nat) : Prop := 0 < K ∧ K < 2 ^ 16 ∧ K ≤ fuel

instance (K fuel : Nat) : Decidable (RetryFits K fuel) :=
  inferInstanceAs (Decidable (0 < K ∧ K < 2 ^ 16 ∧ K ≤ fuel))

theorem sdhciCmdComplete_ends (cfg : Config) (fuel : Nat) (cmd : MmcCommand)
    (hc : RetryFits cfg.sdhciMaxCmdRetry fuel) (ht : RetryFits cfg.sdhciMaxTransRetry fuel) :
    (sdhciCmdComplete cfg fuel cmd).Ends (cfg.sdhciMaxCmdRetry + cfg.sdhciMaxTransRetry + 10) := by
  obtain ⟨hc0, hc1, hc2⟩ := hc
  obtain ⟨ht0, ht1, ht2⟩ := ht
  have herr := sdhciCmdCompleteErr_ends
  refine Ends.bind_le (cfg.sdhciMaxTransRetry + 10) (pollLoop_ends hc1 hc0 (by omega))
    (fun complete ↦ ?_) (by omega)
  split
  · exact Ends.bind_le 2 (dprintf_ends 0 _) (fun _ ↦ herr _) (by omega)
  · refine Ends.bind_le (cfg.sdhciMaxTransRetry + 10) (writeReg_ends 0 _ _ _) (fun _ ↦ ?_)
      (by omega)
    refine Ends.bind_le (cfg.sdhciMaxTransRetry + 2) (sdhciReadResp_ends cmd) (fun resp ↦ ?_)
      (by omega)
    dsimp only
    split
    · refine Ends.bind_le 2 (pollLoop_ends ht1 ht0 (by omega)) (fun t ↦ ?_) (by omega)
      split
      · exact Ends.bind_le 2 (dprintf_ends 0 _) (fun _ ↦ herr _) le_rfl
      · exact Ends.bind_le 2 (writeReg_ends 0 _ _ _) (fun _ ↦ herr _) le_rfl
    · exact (herr _).mono (by omega)

theorem sdhciPrepDescTable_ends (data len : Nat) : (sdhciPrepDescTable data len).Ends 0 := by
  have hcheck : ∀ p, (allocCheck p).Ends 0 := fun p ↦ by
    unfold allocCheck
    split
    · exact Ends.bind_le 0 (dprintf_ends 0 _) (fun _ ↦ assert_ends 0 _) le_rfl
    · trivial
  unfold sdhciPrepDescTable
  split <;> exact Ends.bind_le 0 (fun _ ↦ trivial)
    (fun p ↦ Ends.bind_le 0 (hcheck p) (fun _ ↦ trivial) le_rfl) le_rfl

theorem sdhciIssueCommand_ends (cfg : Config) (cmd : MmcCommand) (respType : Nat) :
    (sdhciIssueCommand cfg cmd respType).Ends 0 := by
  have hadma : (sdhciAdmaTransfer cfg cmd).Ends 0 := by
    refine Ends.bind_le 0 (sdhciPrepDescTable_ends _ _) (fun _ ↦ ?_) le_rfl
    refine Ends.bind_le 0 (writeReg_ends 0 _ _ _) (fun _ ↦ ?_) le_rfl
    exact Ends.bind_le 0 (by split <;> trivial) (fun _ ↦ trivial) le_rfl
  refine Ends.bind_le 0 (writeReg_ends 0 _ _ _) (fun _ ↦ ?_) le_rfl
  exact Ends.bind_le 0 (by split; exacts [hadma, trivial]) (fun _ ↦ trivial) le_rfl

/-- The reads of sdhci_send_command, wait by wait: at most ten polls of the lines, then at
most the two retry bounds and ten other reads in sdhci_cmd_complete. -/
theorem sdhciSendCommand_ends_within (cfg : Config) (fuel : Nat) (cmd : MmcCommand)
    (hl : 10 ≤ fuel) (hc : RetryFits cfg.sdhciMaxCmdRetry fuel)
    (ht : RetryFits cfg.sdhciMaxTransRetry fuel) :
    (sdhciSendCommand cfg fuel cmd).Ends
      (10 + (cfg.sdhciMaxCmdRetry + cfg.sdhciMaxTransRetry + 10)) := by
  have hsend := sdhciCmdComplete_ends cfg fuel cmd hc ht
  refine Ends.bind_le _ (ifThen_ends (assert_ends 0 _)) (fun _ ↦ ?_) (Nat.zero_add _).le
  refine Ends.bind_le _ (ifThen_ends (assert_ends 0 _)) (fun _ ↦ ?_) (Nat.zero_add _).le
  refine Ends.bind_le (cfg.sdhciMaxCmdRetry + cfg.sdhciMaxTransRetry + 10)
    (pollLoop_ends (by decide) (by decide) hl) (fun freed ↦ ?_) le_rfl
  split
  · exact Ends.bind_le 0 (dprintf_ends 0 _) (fun _ ↦ trivial) (Nat.zero_le _)
  · split
    · exact Ends.bind_le 0 (dprintf_ends 0 _) (fun _ ↦ trivial) (Nat.zero_le _)
    · refine Ends.bind_le _ (sdhciIssueCommand_ends cfg cmd _) (fun sgList ↦ ?_) (Nat.zero_add _).le
      refine Ends.bind_le 0 hsend (fun res ↦ ?_) le_rfl
      split
      · trivial
      · exact Ends.bind_le 0 (ifThen_ends trivial) (fun _ ↦ Ends.bind_le 0 (ifThen_ends trivial)
          (fun _ ↦ trivial) le_rfl) le_rfl

/-- When both retry bounds fit their counters, sdhci_send_command ends within ten polls
of the lines, the two bounds, and the ten other reads it can make, whatever the
controller answers. -/
theorem sdhciSendCommand_ends (cfg : Config) (fuel : Nat) (cmd : MmcCommand) (hl : 10 ≤ fuel)
    (hc : RetryFits cfg.sdhciMaxCmdRetry fuel) (ht : RetryFits cfg.sdhciMaxTransRetry fuel) :
    (sdhciSendCommand cfg fuel cmd).Ends (cfg.sdhciMaxCmdRetry + cfg.sdhciMaxTransRetry + 20) :=
  (sdhciSendCommand_ends_within cfg fuel cmd hl hc ht).mono (by omega)

theorem sdhciSendCommand_ends_at_five_thousand :
    10 ≤ 10000 ∧ RetryFits 5000 10000 ∧ RetryFits 5000 10000 ∧
      (sdhciSendCommand ⟨5000, 5000, 0, 64⟩ 10000 statusCmd).Ends (5000 + 5000 + 20) :=
  ⟨by decide, by decide, by decide,
    sdhciSendCommand_ends ⟨5000, 5000, 0, 64⟩ 10000 statusCmd (by decide) (by decide) (by decide)⟩

/-- On every controller, when both retry bounds fit their 16-bit counters, every run of
sdhci_send_command returns or stops at an ASSERT, and makes at most 10 +
SDHCI_MAX_CMD_RETRY + SDHCI_MAX_TRANS_RETRY + 10 register reads. -/
theorem sdhciSendCommand_run_bounded {σ : Type} (D : Device σ) (w : World σ) (cfg : Config)
    (fuel : Nat) (cmd : MmcCommand) (hl : 10 ≤ fuel) (hc : RetryFits cfg.sdhciMaxCmdRetry fuel)
    (ht : RetryFits cfg.sdhciMaxTransRetry fuel) :
    ((sdhciSendCommand cfg fuel cmd).run D w).1 ≠ .error .hang ∧
      ∃ t, ((sdhciSendCommand cfg fuel cmd).run D w).2.trace = w.trace ++ t ∧
        t.countP Access.isRead ≤ cfg.sdhciMaxCmdRetry + cfg.sdhciMaxTransRetry + 20 :=
  run_ends D ((sdhciSendCommand_ends_within cfg fuel cmd hl hc ht).mono (by omega)) w

theorem sdhciSendCommand_run_bounded_at_five_thousand :
    let run := (sdhciSendCommand ⟨5000, 5000, 0, 64⟩ 10000 statusCmd).run
      (fixedController (statusController 0 0)) ⟨(), [], 1⟩
    10 ≤ 10000 ∧ RetryFits 5000 10000 ∧ RetryFits 5000 10000 ∧ run.1 ≠ .error .hang ∧
      ∃ t, run.2.trace = [] ++ t ∧ t.countP Access.isRead ≤ 5000 + 5000 + 20 :=
  ⟨by decide, by decide, by decide, sdhciSendCommand_run_bounded _ _ _ _ _ (by decide) (by decide)
    (by decide)⟩

/-- A retry bound of 2^16 never meets the 16-bit counter: against a controller that never
reports Command Complete, sdhci_send_command polls until the model's fuel runs out. -/
theorem sdhciSendCommand_polls_past_wrap :
    ((sdhciSendCommand ⟨2 ^ 16, 2 ^ 16, 0, 64⟩ 100000 statusCmd).run
      (fixedController (statusController 0 0)) ⟨(), [], 1⟩).1 = .error .hang := by
  rw [sdhciSendCommand_run_issue _ _ _ _ statusCmd (absurd rfl) (absurd · (by decide)) (by decide)
      (by decide) rfl,
    run_bind_ok _ (sdhciIssueCommand_run _ _ statusCmd _ _ (absurd rfl)), sdhciFinishCommand,
    sdhciCmdComplete, bind_assoc,
    run_bind_error _ (pollLoop_run_hang _ (fun () ↦ by decide) le_rfl _ _ _)]

/-- When SDHCI_MAX_CMD_RETRY does not fit the 16-bit counter, on every controller whose
lines read free and that never reports Command Complete, every command the driver accepts
keeps sdhci_send_command polling until the model's fuel runs out, however much fuel there
is. -/
theorem sdhciSendCommand_hangs_past_counter {σ : Type} (D : Device σ) (w : World σ)
    (cfg : Config) (fuel : Nat) (cmd : MmcCommand) {respType : Nat}
    (h1 : cmd.dataPresent ≠ 0 → cmd.data.dataPtr ≠ 0)
    (h2 : cmd.transMode = sdhciReadMode → cfg.isCacheLineAligned cmd.data.dataPtr = true)
    (hr : respTypeCode cmd.respType = some respType) (hb : cmd.dataPresent ≠ 0 → w.brk ≠ 0)
    (hl : ∀ s, linesFree (D.answer s 32 (.hc sdhciPresentStateReg) % 2 ^ 32) = true)
    (hcc : ∀ s, cmdCompleteSeen (D.answer s 16 (.hc sdhciNrmlIntStsReg) % 2 ^ 16) = false)
    (hK : 2 ^ 16 ≤ cfg.sdhciMaxCmdRetry) :
    ((sdhciSendCommand cfg fuel cmd).run D w).1 = .error .hang := by
  obtain _ | fuel := fuel
  · rw [sdhciSendCommand, ifThen_assert_bind (fun h ↦ bne_iff_ne.2 (h1 h)),
      ifThen_assert_bind h2]
    rfl
  rw [sdhciSendCommand_run_issue D w cfg (fuel + 1) cmd h1 h2 (hl _) (Nat.succ_pos _) hr,
    run_bind_ok _ (sdhciIssueCommand_run D cfg cmd respType (w.record D _) hb), sdhciFinishCommand,
    sdhciCmdComplete, bind_assoc, run_bind_error _ (pollLoop_run_hang D hcc hK _ _ _)]

theorem sdhciSendCommand_hangs_past_counter_at_two_pow :
    let D := fixedController (statusController 0 0)
    (statusCmd.dataPresent ≠ 0 → statusCmd.data.dataPtr ≠ 0) ∧
      (statusCmd.transMode = sdhciReadMode →
        Config.isCacheLineAligned ⟨2 ^ 16, 2 ^ 16, 0, 64⟩ statusCmd.data.dataPtr = true) ∧
      respTypeCode statusCmd.respType = some sdhciCmdResp48 ∧
      (statusCmd.dataPresent ≠ 0 → 1 ≠ 0) ∧
      (∀ s, linesFree (D.answer s 32 (.hc sdhciPresentStateReg) % 2 ^ 32) = true) ∧
      (∀ s, cmdCompleteSeen (D.answer s 16 (.hc sdhciNrmlIntStsReg) % 2 ^ 16) = false) ∧
      2 ^ 16 ≤ 2 ^ 16 ∧
      ((sdhciSendCommand ⟨2 ^ 16, 2 ^ 16, 0, 64⟩ 100000 statusCmd).run D ⟨(), [], 1⟩).1 =
        .error .hang :=
  ⟨by decide, by decide, by decide, by decide, fun () ↦ by decide, fun () ↦ by decide, le_rfl,
    sdhciSendCommand_hangs_past_counter _ ⟨(), [], 1⟩ _ _ _ (by decide) (by decide) rfl
      (by decide) (fun () ↦ by decide) (fun () ↦ by decide) le_rfl⟩

end Sdhci
