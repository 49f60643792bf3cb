import Sdhci.Command

namespace Sdhci

open Prog

/-- Register reads, delays and messages: all that the waits and checks of the command
engine do. -/
def Access.Passive : Access → Prop
  | .read .. | .effect (.udelay _) | .effect (.dprintf _) => True
  | _ => False

/-- The acknowledgements of sdhci_cmd_complete: Command Complete and Transfer Complete
written back to the normal interrupt status. -/
def Access.IsAck (x : Access) : Prop :=
  x = .write 16 (.hc sdhciNrmlIntStsReg) (sdhciIntStsCmdComplete % 2 ^ 16) ∨
    x = .write 16 (.hc sdhciNrmlIntStsReg) (sdhciIntStsTransComplete % 2 ^ 16)

/-- The reset of the command and data lines that ends a data command. -/
def lineReset : Access := .write 8 (.hc sdhciResetReg) ((softResetCmd ||| softResetData) % 2 ^ 8)

/-- What sdhci_issue_command can do for `cmd`: write the command registers and, for a data
command, its transfer registers, with the block count of `cmd` in BLK_CNT, and allocate,
store and clean the descriptor table of `cmd`'s buffer, or report that the allocation
failed. -/
def IssueAccess (cmd : MmcCommand) : Access → Prop
  | .write _ (.hc a) v =>
    a = sdhciTimeoutReg ∨ a = sdhciArgumentReg ∨ a = sdhciCmdReg ∨ a = sdhciBlkszReg ∨
      a = sdhciArg2Reg ∨ a = sdhciAdmAddrReg ∨ a = sdhciTransModeReg ∨
      (a = sdhciBlkCntReg ∧ v = cmd.data.numBlocks % 2 ^ 16)
  | .effect (.memalign _ _) | .effect (.cleanInvalidate _ _) | .effect (.dprintf _) => True
  | .effect (.store _ t) =>
    t = descTable cmd.data.dataPtr (cmd.data.numBlocks * sdhciMmcBlkSz % 2 ^ 32)
  | _ => False

/-- Every access sdhci_send_command can make for `cmd`. -/
def SendAccess (cmd : MmcCommand) (x : Access) : Prop :=
  x.Passive ∨ x.IsAck ∨ x = lineReset ∨ IssueAccess cmd x ∨
    (∃ a n, x = .effect (.invalidate a n)) ∨ ∃ p, x = .effect (.free p)

section Footprints

variable {P : Access → Prop}

theorem readReg_only (hP : ∀ x, x.Passive → P x) (w : Nat) (a : Addr) : (readReg w a).Only P :=
  fun _ ↦ ⟨hP _ trivial, trivial⟩

theorem writeReg_only {n : Nat} {a : Addr} {v : Nat} (h : P (.write n a (v % 2 ^ n))) :
    (writeReg n a v).Only P :=
  ⟨h, trivial⟩

theorem dprintf_only (hP : ∀ x, x.Passive → P x) (m : String) : (dprintf m).Only P :=
  ⟨hP _ trivial, trivial⟩

theorem pollLoop_only (hP : ∀ x, x.Passive → P x) {w : Nat} {a : Addr} {done : Nat → Bool}
    {bits bound us fuel r : Nat} : (pollLoop w a done bits bound us fuel r).Only P := by
  induction fuel generalizing r with
  | zero => trivial
  | succ fuel ih =>
    rw [pollLoop_succ]
    refine fun v ↦ ⟨hP _ trivial, ?_⟩
    dsimp only
    split
    · trivial
    · exact ⟨hP _ trivial, by split; trivial; exact ih⟩

theorem sdhciCmdErrStatus_only (hP : ∀ x, x.Passive → P x) : sdhciCmdErrStatus.Only P := by
  refine only_bind (readReg_only hP _ _) fun err ↦ ?_
  split
  · exact ⟨hP _ trivial, trivial⟩
  · trivial

theorem sdhciReadResp_only (hP : ∀ x, x.Passive → P x) (cmd : MmcCommand) :
    (sdhciReadResp cmd).Only P := by
  unfold sdhciReadResp
  split
  · generalize cmd.resp = resp
    induction List.finRange 4 generalizing resp with
    | nil => trivial
    | cons i is ih =>
      refine only_bind (only_bind (readReg_only hP _ _) fun r ↦ ?_) ih
      split
      · exact only_bind (readReg_only hP _ _) fun _ ↦ trivial
      · trivial
  · exact only_bind (readReg_only hP _ _) fun _ ↦ trivial

theorem errCheck_only (hP : ∀ x, x.Passive → P x) (v : Nat) :
    (if v &&& sdhciErrIntStatMask != 0 then sdhciCmdErrStatus else pure 0).Only P := by
  split
  · exact sdhciCmdErrStatus_only hP
  · trivial

theorem sdhciCmdCompleteErr_only (hP : ∀ x, x.Passive → P x) {cmd : MmcCommand}
    (hr : cmd.dataPresent ≠ 0 → P lineReset) : (sdhciCmdCompleteErr cmd).Only P := by
  refine only_bind (readReg_only hP _ _) fun v ↦ only_bind (errCheck_only hP v) fun failed ↦ ?_
  split
  · exact ⟨hP _ trivial, trivial⟩
  · unfold ifThen; split
    · exact ⟨hr ‹_›, trivial⟩
    · trivial

theorem sdhciCmdCompleteErr_onlyWhen (hP : ∀ x, x.Passive → P x) (cmd : MmcCommand) :
    (sdhciCmdCompleteErr cmd).OnlyWhen P (·.1 ≠ 0) := by
  refine onlyWhen_bind_only (readReg_only hP _ _) fun v ↦
    onlyWhen_bind_only (errCheck_only hP v) fun failed ↦ ?_
  split
  · refine Only.onlyWhen ?_
    exact ⟨hP _ trivial, trivial⟩
  · refine Yields.onlyWhen (yields_bind ?_)
    unfold ifThen; split
    · exact fun h ↦ h rfl
    · exact fun h ↦ h rfl

theorem sdhciCmdComplete_only (hP : ∀ x, x.Passive → P x) (ha : ∀ x, x.IsAck → P x)
    (hr : P lineReset) (cfg : Config) (fuel : Nat) (cmd : MmcCommand) :
    (sdhciCmdComplete cfg fuel cmd).Only P := by
  refine only_bind (pollLoop_only hP) fun complete ↦ ?_
  split
  · exact only_bind (dprintf_only hP _) fun _ ↦ sdhciCmdCompleteErr_only hP fun _ ↦ hr
  · refine only_bind (writeReg_only (ha _ (.inl rfl))) fun _ ↦
      only_bind (sdhciReadResp_only hP cmd) fun resp ↦ ?_
    dsimp only
    split
    · refine only_bind (pollLoop_only hP) fun transferred ↦ ?_
      split
      · exact only_bind (dprintf_only hP _) fun _ ↦ sdhciCmdCompleteErr_only hP fun _ ↦ hr
      · exact only_bind (writeReg_only (ha _ (.inr rfl))) fun _ ↦
          sdhciCmdCompleteErr_only hP fun _ ↦ hr
    · exact sdhciCmdCompleteErr_only hP fun _ ↦ hr

theorem sdhciCmdComplete_onlyWhen (hP : ∀ x, x.Passive → P x) (ha : ∀ x, x.IsAck → P x)
    (cfg : Config) (fuel : Nat) (cmd : MmcCommand) :
    (sdhciCmdComplete cfg fuel cmd).OnlyWhen P (·.1 ≠ 0) := by
  refine onlyWhen_bind_only (pollLoop_only hP) fun complete ↦ ?_
  split
  · exact onlyWhen_bind_only (dprintf_only hP _) fun _ ↦ sdhciCmdCompleteErr_onlyWhen hP cmd
  · refine onlyWhen_bind_only (writeReg_only (ha _ (.inl rfl))) fun _ ↦
      onlyWhen_bind_only (sdhciReadResp_only hP cmd) fun resp ↦ ?_
    dsimp only
    split
    · refine onlyWhen_bind_only (pollLoop_only hP) fun transferred ↦ ?_
      split
      · exact onlyWhen_bind_only (dprintf_only hP _) fun _ ↦ sdhciCmdCompleteErr_onlyWhen hP _
      · exact onlyWhen_bind_only (writeReg_only (ha _ (.inr rfl))) fun _ ↦
          sdhciCmdCompleteErr_onlyWhen hP _
    · exact sdhciCmdCompleteErr_onlyWhen hP _

end Footprints

theorem sdhciPrepDescTable_only (cmd : MmcCommand) :
    (sdhciPrepDescTable cmd.data.dataPtr (cmd.data.numBlocks * sdhciMmcBlkSz % 2 ^ 32)).Only
      (IssueAccess cmd) := by
  unfold sdhciPrepDescTable
  split <;> simp [Prog.Only, IssueAccess, apply_ite (Prog.Only _)]

theorem sdhciAdmaTransfer_only (cfg : Config) (cmd : MmcCommand) :
    (sdhciAdmaTransfer cfg cmd).Only (IssueAccess cmd) := by
  refine only_bind (sdhciPrepDescTable_only cmd) fun sgList ↦
    only_bind (writeReg_only (by simp [IssueAccess])) fun _ ↦ only_bind ?_ fun transMode ↦ ?_
  · split
    · exact only_bind (writeReg_only (by simp [IssueAccess])) fun _ ↦ trivial
    · trivial
  · simp [Prog.Only, IssueAccess]

theorem sdhciIssueCommand_only (cfg : Config) (cmd : MmcCommand) (respType : Nat) :
    (sdhciIssueCommand cfg cmd respType).Only (IssueAccess cmd) := by
  refine only_bind (by simp [Prog.Only, IssueAccess]) fun _ ↦ only_bind ?_ fun sgList ↦ ?_
  · split
    · exact sdhciAdmaTransfer_only cfg cmd
    · trivial
  · simp [Prog.Only, IssueAccess]

theorem assertIf_only {P : Access → Prop} {c : Prop} [Decidable c] (b : Bool) :
    (ifThen c (assert b)).Only P := by
  unfold ifThen assert; split <;> (try split) <;> trivial

theorem ifThen_yields {Q : Prop} {c : Prop} [Decidable c] {p : Prog Unit} (hp : p.Yields fun _ ↦ Q)
    (hQ : Q) : (ifThen c p).Yields fun _ ↦ Q := by
  unfold ifThen; split
  exacts [hp, hQ]

theorem sdhciFinishCommand_only (cfg : Config) (fuel : Nat) (cmd : MmcCommand) (sgList : Nat) :
    (sdhciFinishCommand cfg fuel cmd sgList).Only (SendAccess cmd) := by
  refine only_bind (sdhciCmdComplete_only (fun x h ↦ .inl h) (fun x h ↦ .inr (.inl h))
    (.inr (.inr (.inl rfl))) cfg fuel cmd) fun res ↦ ?_
  split
  · trivial
  · refine only_bind ?_ fun _ ↦ only_bind ?_ fun _ ↦ trivial
    · unfold ifThen; split
      · exact ⟨.inr (.inr (.inr (.inr (.inl ⟨_, _, rfl⟩)))), trivial⟩
      · trivial
    · unfold ifThen; split
      · exact ⟨.inr (.inr (.inr (.inr (.inr ⟨_, rfl⟩)))), trivial⟩
      · trivial

/-- What sdhci_send_command can do, whatever the controller answers. -/
theorem sdhciSendCommand_only (cfg : Config) (fuel : Nat) (cmd : MmcCommand) :
    (sdhciSendCommand cfg fuel cmd).Only (SendAccess cmd) := by
  refine only_bind (assertIf_only _) fun _ ↦ only_bind (assertIf_only _) fun _ ↦
    only_bind (pollLoop_only fun x h ↦ .inl h) fun freed ↦ ?_
  split
  · exact only_bind (dprintf_only (fun x h ↦ .inl h) _) fun _ ↦ trivial
  · split
    · exact only_bind (dprintf_only (fun x h ↦ .inl h) _) fun _ ↦ trivial
    · exact only_bind
        ((sdhciIssueCommand_only cfg cmd _).mono fun x h ↦ .inr (.inr (.inr (.inl h))))
        (sdhciFinishCommand_only cfg fuel cmd)

/-- The accesses of a failed sdhci_send_command: those of the waits and checks, the
acknowledgements, and the programming of the command and its transfer. -/
def FailAccess (cmd : MmcCommand) (x : Access) : Prop := x.Passive ∨ x.IsAck ∨ IssueAccess cmd x

/-- On every controller, a run of sdhci_send_command that returns failure makes only the
accesses of `FailAccess`: it never resets the lines, invalidates or frees. -/
theorem sdhciSendCommand_onlyWhen_fail (cfg : Config) (fuel : Nat) (cmd : MmcCommand) :
    (sdhciSendCommand cfg fuel cmd).OnlyWhen (FailAccess cmd) (·.1 ≠ 0) := by
  refine onlyWhen_bind_only (assertIf_only _) fun _ ↦ onlyWhen_bind_only (assertIf_only _) fun _ ↦
    onlyWhen_bind_only (pollLoop_only fun x h ↦ .inl h) fun freed ↦ ?_
  split
  · refine Only.onlyWhen ?_
    exact only_bind (dprintf_only (fun x h ↦ .inl h) _) fun _ ↦ trivial
  · split
    · refine Only.onlyWhen ?_
      exact only_bind (dprintf_only (fun x h ↦ .inl h) _) fun _ ↦ trivial
    · refine onlyWhen_bind_only ((sdhciIssueCommand_only cfg cmd _).mono fun x h ↦ .inr (.inr h))
        fun sgList ↦ onlyWhen_bind (sdhciCmdComplete_onlyWhen (fun x h ↦ .inl h)
          (fun x h ↦ .inr (.inl h)) cfg fuel cmd) (fun res h ↦ ?_) (fun res h ↦ ?_)
      · rw [if_pos h]
        refine Only.onlyWhen ?_
        trivial
      · rw [if_neg h]
        exact yields_bind (ifThen_yields (yields_bind (ifThen_yields (fun h ↦ h rfl) fun h ↦ h rfl))
          (yields_bind (ifThen_yields (fun h ↦ h rfl) fun h ↦ h rfl)))

section Consequences

variable {cmd : MmcCommand} {x : Access}

/-- A command writes BLK_CNT only with its own block count, as the 16-bit register holds it. -/
theorem SendAccess.blkCnt_eq {n v : Nat} (hx : SendAccess cmd x)
    (h : x = .write n (.hc sdhciBlkCntReg) v) : v = cmd.data.numBlocks % 2 ^ 16 := by
  subst h
  rcases hx with h | h | h | h | ⟨_, _, h⟩ | ⟨_, h⟩ <;>
    simp_all [Access.Passive, Access.IsAck, lineReset, IssueAccess, sdhciBlkCntReg,
      sdhciNrmlIntStsReg, sdhciResetReg, sdhciTimeoutReg, sdhciArgumentReg, sdhciCmdReg,
      sdhciBlkszReg, sdhciArg2Reg, sdhciAdmAddrReg, sdhciTransModeReg]

theorem SendAccess.store_eq {sg : Nat} {t : List DescEntry} (hx : SendAccess cmd x)
    (h : x = .effect (.store sg t)) :
    t = descTable cmd.data.dataPtr (cmd.data.numBlocks * sdhciMmcBlkSz % 2 ^ 32) := by
  subst h
  rcases hx with h | h | h | h | ⟨_, _, h⟩ | ⟨_, h⟩ <;>
    simp_all [Access.Passive, Access.IsAck, lineReset, IssueAccess]

theorem SendAccess.ne_errWrite {n v : Nat} (hx : SendAccess cmd x) :
    x ≠ .write n (.hc sdhciErrIntStsReg) v := by
  rintro rfl
  rcases hx with h | h | h | h | ⟨_, _, h⟩ | ⟨_, h⟩ <;>
    simp_all [Access.Passive, Access.IsAck, lineReset, IssueAccess, sdhciErrIntStsReg,
      sdhciNrmlIntStsReg, sdhciResetReg, sdhciTimeoutReg, sdhciArgumentReg, sdhciCmdReg,
      sdhciBlkszReg, sdhciArg2Reg, sdhciAdmAddrReg, sdhciTransModeReg, sdhciBlkCntReg]

theorem FailAccess.ne_free {p : Nat} (hx : FailAccess cmd x) : x ≠ .effect (.free p) := by
  rintro rfl
  rcases hx with h | h | h <;> simp_all [Access.Passive, Access.IsAck, IssueAccess]

theorem FailAccess.ne_lineReset (hx : FailAccess cmd x) : x ≠ lineReset := by
  rintro rfl
  rcases hx with h | h | h <;>
    simp_all [Access.Passive, Access.IsAck, lineReset, IssueAccess, sdhciResetReg,
      sdhciNrmlIntStsReg, sdhciTimeoutReg, sdhciArgumentReg, sdhciCmdReg, sdhciBlkszReg,
      sdhciArg2Reg, sdhciAdmAddrReg, sdhciTransModeReg, sdhciBlkCntReg]

end Consequences

end Sdhci
