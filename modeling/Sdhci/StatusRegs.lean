import Sdhci.Termination

namespace Sdhci

open Prog

/-- The interrupt status of the controller, and what it held at each command write. -/
structure IntStatus where
  nrml : Nat
  err : Nat
  issued : Nat
  staleAtIssue : List Bool
  deriving DecidableEq, Repr

def IntStatus.stale (s : IntStatus) : Bool :=
  s.nrml &&& (sdhciIntStsCmdComplete ||| sdhciIntStsTransComplete) != 0 || s.err != 0

/-- A 16-bit write-1-to-clear register after `v` is written to it. -/
def clearBits (reg v : Nat) : Nat := reg &&& (0xFFFF ^^^ v)

/-- An SDHCI controller's interrupt status. `raise k` is what the controller sets, normal
bits and error bits, for the `k`-th command written to it. The normal status reads with
the error summary set while an error bit is, and the lines always read free. -/
def statusRegs (raise : Nat → Nat × Nat) : Device IntStatus where
  answer s _ a :=
    if a = .hc sdhciNrmlIntStsReg then s.nrml ||| (if s.err ≠ 0 then sdhciErrIntStatMask else 0)
    else if a = .hc sdhciErrIntStsReg then s.err
    else 0
  step s
    | .write _ a v =>
      if a = .hc sdhciNrmlIntStsReg then { s with nrml := clearBits s.nrml v }
      else if a = .hc sdhciErrIntStsReg then { s with err := clearBits s.err v }
      else if a = .hc sdhciResetReg ∧ v &&& (softResetCmd ||| softResetData) ≠ 0 then
        { s with nrml := clearBits s.nrml (sdhciIntStsCmdComplete ||| sdhciIntStsTransComplete) }
      else if a = .hc sdhciCmdReg then
        { nrml := s.nrml ||| (raise s.issued).1, err := s.err ||| (raise s.issued).2,
          issued := s.issued + 1, staleAtIssue := s.staleAtIssue ++ [s.stale] }
      else s
    | _ => s

section Steps

variable {raise : Nat → Nat × Nat} {s : IntStatus}

theorem statusRegs_answer_nrml (n : Nat) :
    (statusRegs raise).answer s n (.hc sdhciNrmlIntStsReg) =
      s.nrml ||| (if s.err ≠ 0 then sdhciErrIntStatMask else 0) := rfl

theorem statusRegs_answer_err (n : Nat) :
    (statusRegs raise).answer s n (.hc sdhciErrIntStsReg) = s.err := rfl

theorem statusRegs_step_of_not_write {x : Access} (hx : ∀ n a v, x ≠ .write n a v) :
    (statusRegs raise).step s x = s := by
  rcases x with _ | ⟨n, a, v⟩ | _
  · rfl
  · exact absurd rfl (hx n a v)
  · rfl

end Steps

/-- sdhci_send_command for each command in turn, with the codes it returns. -/
def sendCommands (cfg : Config) (fuel : Nat) : List MmcCommand → Prog (List Nat)
  | [] => pure []
  | cmd :: cmds => do
    let r ← sdhciSendCommand cfg fuel cmd
    let rs ← sendCommands cfg fuel cmds
    pure (r.1 :: rs)

theorem or_and_eq_of_and_eq {a b e : Nat} (h : a &&& e = e) : (a ||| b) &&& e = e :=
  Nat.eq_of_testBit_eq fun i ↦ by
    have hi := congrArg (Nat.testBit · i) h
    simp only [Nat.testBit_and, Nat.testBit_or] at hi ⊢
    revert hi
    cases a.testBit i <;> cases b.testBit i <;> cases e.testBit i <;> simp

section Errors

variable (raise : Nat → Nat × Nat)

theorem sendCommands_only (cfg : Config) (fuel : Nat) (cmds : List MmcCommand) :
    (sendCommands cfg fuel cmds).Only fun x ↦ ∀ n v, x ≠ .write n (.hc sdhciErrIntStsReg) v := by
  induction cmds with
  | nil => trivial
  | cons cmd cmds ih =>
    exact only_bind ((sdhciSendCommand_only cfg fuel cmd).mono fun _ hx _ _ ↦ hx.ne_errWrite)
      fun _ ↦ only_bind ih fun _ ↦ trivial

/-- The status once bits `e` of the error status are set: they stay set, and every command
written from the `n`-th on found a stale status. -/
structure StaleFrom (e n : Nat) (s : IntStatus) : Prop where
  keeps : s.err &&& e = e
  le_length : n ≤ s.staleAtIssue.length
  stale : ∀ b ∈ s.staleAtIssue.drop n, b = true

theorem statusRegs_step_staleFrom {e n : Nat} (he : e ≠ 0) {s : IntStatus} {x : Access}
    (hx : ∀ n v, x ≠ .write n (.hc sdhciErrIntStsReg) v) (hs : StaleFrom e n s) :
    StaleFrom e n ((statusRegs raise).step s x) := by
  have herr : s.err ≠ 0 := fun h ↦ he (by rw [← hs.keeps, h, Nat.zero_and])
  rcases x with _ | ⟨m, a, v⟩ | _
  · exact hs
  · have ha : a ≠ .hc sdhciErrIntStsReg := fun h ↦ hx m v (h ▸ rfl)
    simp only [statusRegs, if_neg ha]
    split
    · exact ⟨hs.1, hs.2, hs.3⟩
    · split
      · exact ⟨hs.1, hs.2, hs.3⟩
      · split
        · refine ⟨or_and_eq_of_and_eq hs.keeps, ?_, ?_⟩
          · rw [List.length_append]
            exact Nat.le_add_right_of_le hs.le_length
          · intro b hmem
            rw [List.drop_append_of_le_length hs.le_length, List.mem_append,
              List.mem_singleton] at hmem
            rcases hmem with hmem | rfl
            · exact hs.stale b hmem
            · simp [IntStatus.stale, herr]
        · exact hs
  · exact hs

/-- Once an error bit is set, no sequence of commands clears it, and every command written
later is written over a stale status, whatever the commands and whatever the controller
raises. -/
theorem sendCommands_stale_after_error (cfg : Config) (fuel : Nat) (cmds : List MmcCommand)
    (w : World IntStatus) (hw : w.dev.err ≠ 0) :
    ((sendCommands cfg fuel cmds).run (statusRegs raise) w).2.dev.err &&& w.dev.err =
        w.dev.err ∧
      ∀ b ∈ ((sendCommands cfg fuel cmds).run (statusRegs raise) w).2.dev.staleAtIssue.drop
        w.dev.staleAtIssue.length, b = true :=
  have h := run_dev_inv (statusRegs raise) (I := StaleFrom w.dev.err w.dev.staleAtIssue.length)
    (sendCommands_only cfg fuel cmds) (fun _ _ hx hs ↦ statusRegs_step_staleFrom raise hw hx hs) w
    ⟨Nat.and_self _, le_rfl, by simp⟩
  ⟨h.keeps, h.stale⟩

theorem sendCommands_stale_after_error_after_crc :
    let w : World IntStatus := ⟨⟨0, sdhciCmdCrcMask, 0, []⟩, [], 1⟩
    let run := (sendCommands ⟨1, 1, 0, 64⟩ 1 [statusCmd, statusCmd]).run
      (statusRegs fun _ ↦ (sdhciIntStsCmdComplete, 0)) w
    w.dev.err ≠ 0 ∧ run.2.dev.err &&& w.dev.err = w.dev.err ∧
      ∀ b ∈ run.2.dev.staleAtIssue.drop w.dev.staleAtIssue.length, b = true :=
  ⟨by decide, sendCommands_stale_after_error _ _ _ _ _ (by decide)⟩

end Errors

/-- CMD13 once it is issued, on a controller that has set Command Complete: the err label
reads the status with Command Complete acknowledged, and that status is what is left. -/
theorem statusCmd_finish_statusRegs (raise : Nat → Nat × Nat) (cfg : Config) (fuel : Nat)
    (w : World IntStatus) (hcc : w.dev.nrml % 2 = 1) :
    let s : IntStatus := { w.dev with nrml := clearBits w.dev.nrml sdhciIntStsCmdComplete }
    ∃ c, ((sdhciFinishCommand cfg (fuel + 1) statusCmd 0).run (statusRegs raise) w).1 =
      .ok (errLabelCode ((statusRegs raise).answer s 16 (.hc sdhciNrmlIntStsReg) % 2 ^ 16)
        (s.err % 2 ^ 16), c) ∧
      ((sdhciFinishCommand cfg (fuel + 1) statusCmd 0).run (statusRegs raise) w).2.dev = s := by
  intro s
  have hR2 : statusCmd.respType ≠ sdhciCmdRespR2 := by decide
  have hsw : ¬(statusCmd.dataPresent ≠ 0 ∨ statusCmd.cmdIndex = sdhciSwitchCmd) := by decide
  rw [sdhciFinishCommand, sdhciCmdComplete, bind_assoc, run_bind, pollLoop_run_found _ (by
    simp [cmdCompleteSeen, sdhciIntStsCmdComplete, statusRegs_answer_nrml,
      Nat.mod_mod_of_dvd _ (by norm_num : 2 ∣ 65536), hcc])]
  simp only [Bool.not_true, Bool.false_eq_true, if_false, writeReg_bind, write_bind, run_write,
    sdhciReadResp, if_neg hR2, readReg_bind, read_bind, run_read, pure_eq, ret_bind, bind_assoc,
    if_neg hsw]
  generalize hw₄ : World.record (statusRegs raise) (World.record (statusRegs raise)
    (World.record (statusRegs raise) w _) _) _ = w₄
  have hd₄ : w₄.dev = s := by
    rw [← hw₄]
    simp [World.record, statusRegs, sdhciNrmlIntStsReg, sdhciErrIntStsReg, sdhciIntStsCmdComplete, s]
  -- the err label of a command without data only reads and prints
  have hdev : ∀ c : MmcCommand, c.dataPresent = 0 →
      ((sdhciCmdCompleteErr c).run (statusRegs raise) w₄).2.dev = s := fun c hc ↦
    run_dev_inv (statusRegs raise) (I := (· = s))
      (sdhciCmdCompleteErr_only (P := fun x ↦ ∀ n a v, x ≠ .write n a v)
        (fun _ hx _ _ _ h ↦ by subst h; exact hx) fun h ↦ absurd hc h)
      (fun _ _ hx h ↦ (statusRegs_step_of_not_write hx).trans h) w₄ hd₄
  rw [run_bind_ok _ (sdhciCmdErrLabel_run _ _ (fun _ _ _ _ ↦ rfl) _), hd₄, statusRegs_answer_err]
  unfold errLabelCode
  split
  case isTrue h =>
    simp only [h, if_true, ne_eq, one_ne_zero, not_false_eq_true, run_ret]
    exact ⟨_, rfl, hdev _ rfl⟩
  case isFalse h =>
    simp only [h, if_false, ne_eq, not_true, run_ifThen_bind]
    split <;> exact ⟨_, rfl, hdev _ rfl⟩

/-- CMD13 on the status registers, when the controller completes it at its command write:
it returns the code of the err label over the status the write leaves, acknowledged, and
that status is what the run leaves. -/
theorem statusCmd_run_statusRegs (raise : Nat → Nat × Nat) (cfg : Config) (fuel : Nat)
    (w : World IntStatus) (hcc : (raise w.dev.issued).1 % 2 = 1) :
    let s : IntStatus := ⟨clearBits (w.dev.nrml ||| (raise w.dev.issued).1) sdhciIntStsCmdComplete,
      w.dev.err ||| (raise w.dev.issued).2, w.dev.issued + 1, w.dev.staleAtIssue ++ [w.dev.stale]⟩
    ∃ c, ((sdhciSendCommand cfg (fuel + 1) statusCmd).run (statusRegs raise) w).1 =
      .ok (errLabelCode ((statusRegs raise).answer s 16 (.hc sdhciNrmlIntStsReg) % 2 ^ 16)
        (s.err % 2 ^ 16), c) ∧
      ((sdhciSendCommand cfg (fuel + 1) statusCmd).run (statusRegs raise) w).2.dev = s := by
  rw [sdhciSendCommand_run_issue (statusRegs raise) w cfg (fuel + 1) statusCmd (fun h ↦ absurd rfl h)
      (fun h ↦ absurd h (by decide)) (by simp [statusRegs, linesFree, sdhciPresentStateReg,
        sdhciNrmlIntStsReg, sdhciErrIntStsReg]) (Nat.succ_pos _) rfl,
    run_bind_ok _ (sdhciIssueCommand_run _ cfg statusCmd _ _ fun h ↦ absurd rfl h)]
  generalize hw₁ : ((sdhciIssueCommand cfg statusCmd sdhciCmdResp48).run (statusRegs raise) _).2 = w₁
  have hd₁ : w₁.dev = ⟨w.dev.nrml ||| (raise w.dev.issued).1, w.dev.err ||| (raise w.dev.issued).2,
      w.dev.issued + 1, w.dev.staleAtIssue ++ [w.dev.stale]⟩ := by
    rw [← hw₁]
    simp [sdhciIssueCommand, statusCmd, Prog.run, World.record, statusRegs, sdhciTimeoutReg,
      sdhciArgumentReg, sdhciCmdReg, sdhciNrmlIntStsReg, sdhciErrIntStsReg, sdhciResetReg]
  obtain ⟨c, hr, hd⟩ := statusCmd_finish_statusRegs raise cfg fuel w₁ (by simp [hd₁, hcc])
  rw [hd₁] at hr hd
  exact ⟨c, hr, hd⟩

/-- A controller that completes every command, and reports a command CRC error for the
first. -/
def crcErrorFirst (k : Nat) : Nat × Nat :=
  if k = 0 then (sdhciIntStsCmdComplete, sdhciCmdCrcMask) else (sdhciIntStsCmdComplete, 0)

theorem sendCommands_takes_stale_error (cfg : Config) (fuel : Nat) (hfuel : 0 < fuel) :
    ((sendCommands cfg fuel [statusCmd, statusCmd]).run (statusRegs crcErrorFirst)
        ⟨⟨0, 0, 0, []⟩, [], 1⟩).1 = .ok [1, 1] ∧
      ((sendCommands cfg fuel [statusCmd, statusCmd]).run (statusRegs crcErrorFirst)
        ⟨⟨0, 0, 0, []⟩, [], 1⟩).2.dev.staleAtIssue = [false, true] := by
  obtain _ | fuel := fuel
  · exact absurd hfuel (Nat.lt_irrefl 0)
  obtain ⟨c₁, hr₁, hd₁⟩ :=
    statusCmd_run_statusRegs crcErrorFirst cfg fuel ⟨⟨0, 0, 0, []⟩, [], 1⟩ (by decide)
  obtain ⟨c₂, hr₂, hd₂⟩ := statusCmd_run_statusRegs crcErrorFirst cfg fuel
    ((sdhciSendCommand cfg (fuel + 1) statusCmd).run (statusRegs crcErrorFirst)
      ⟨⟨0, 0, 0, []⟩, [], 1⟩).2 (by rw [hd₁]; decide)
  rw [hd₁] at hr₂ hd₂
  simp only [sendCommands, bind_assoc, run_bind_ok _ hr₁, run_bind_ok _ hr₂, pure_eq, ret_bind]
  -- the final world by its lemma, so that the kernel never unfolds a command's run
  rw [run_ret_snd, hd₂, run_ret]
  exact ⟨congrArg Except.ok (by decide), by decide⟩

theorem sendCommands_takes_stale_error_at_one :
    0 < 1 ∧
      ((sendCommands ⟨1, 1, 0, 64⟩ 1 [statusCmd, statusCmd]).run (statusRegs crcErrorFirst)
          ⟨⟨0, 0, 0, []⟩, [], 1⟩).1 = .ok [1, 1] ∧
      ((sendCommands ⟨1, 1, 0, 64⟩ 1 [statusCmd, statusCmd]).run (statusRegs crcErrorFirst)
        ⟨⟨0, 0, 0, []⟩, [], 1⟩).2.dev.staleAtIssue = [false, true] :=
  ⟨by decide, sendCommands_takes_stale_error _ _ (by decide)⟩

end Sdhci
