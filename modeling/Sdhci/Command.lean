import Sdhci.DescTable
import Sdhci.Poll

namespace Sdhci

/-- The tests of sdhci_cmd_err_status in its order: each error mask and its message. -/
def sdhciErrChecks : List (Nat × String) :=
  [(sdhciCmdTimeoutMask, "Error: Command timeout error\n"),
   (sdhciCmdCrcMask, "Error: Command CRC error\n"),
   (sdhciCmdEndBitMask, "Error: CMD end bit error\n"),
   (sdhciCmdIdxMask, "Error: Command Index error\n"),
   (sdhciDatTimeoutMask, "Error: DATA time out error\n"),
   (sdhciDatCrcMask, "Error: DATA CRC error\n"),
   (sdhciDatEndBitMask, "Error: DATA end bit error\n"),
   (sdhciCurLimMask, "Error: Current limit error\n"),
   (sdhciAutoCmd12Mask, "Error: Auto CMD12 error\n"),
   (sdhciAdmaMask, "Error: ADMA error\n")]

/-- sdhci_cmd_err_status: 1 and the message of the first error the status shows. -/
def sdhciCmdErrStatus : Prog Nat := do
  let err ← readReg 16 (.hc sdhciErrIntStsReg)
  match sdhciErrChecks.find? (fun c ↦ err &&& c.1 != 0) with
  | some c => do dprintf c.2; pure 1
  | none => pure 0

/-- sdhci_cmd_complete from its `err` label on: the final error check, then the line
reset of a data command. -/
def sdhciCmdCompleteErr (cmd : MmcCommand) : Prog (Nat × MmcCommand) := do
  let intStatus ← readReg 16 (.hc sdhciNrmlIntStsReg)
  let failed ← (if intStatus &&& sdhciErrIntStatMask != 0 then sdhciCmdErrStatus else pure 0)
  if failed ≠ 0 then do
    dprintf "Error: Command completed with errors\n"
    pure (1, cmd)
  else do
    ifThen (cmd.dataPresent ≠ 0) (writeReg 8 (.hc sdhciResetReg) (softResetCmd ||| softResetData))
    pure (0, cmd)

/-- One turn of the R2 copy loop of sdhci_cmd_complete: word `i` moves up a byte and
takes the top byte of word `i - 1`, read again. -/
def sdhciRespStep (resp : Fin 4 → Nat) (i : Fin 4) : Prog (Fin 4 → Nat) := do
  let r ← readReg 32 (.hc (sdhciRespReg + i.val * 4))
  let r := (r <<< sdhciRespLshift) % 2 ^ 32
  if i.val ≠ 0 then do
    let p ← readReg 32 (.hc (sdhciRespReg + (i.val - 1) * 4))
    pure (Function.update resp i (r ||| (p >>> sdhciRespRshift)))
  else pure (Function.update resp i r)

/-- The response copy of sdhci_cmd_complete. -/
def sdhciReadResp (cmd : MmcCommand) : Prog (Fin 4 → Nat) :=
  if cmd.respType = sdhciCmdRespR2 then (List.finRange 4).foldlM sdhciRespStep cmd.resp
  else do
    let r ← readReg 32 (.hc sdhciRespReg)
    pure (Function.update cmd.resp 0 r)

def cmdCompleteSeen (intStatus : Nat) : Bool :=
  intStatus &&& sdhciIntStsCmdComplete == sdhciIntStsCmdComplete

def transCompleteSeen (intStatus : Nat) : Bool := intStatus &&& sdhciIntStsTransComplete != 0

/-- sdhci_cmd_complete: wait for Command Complete, copy the response, wait for Transfer
Complete when the command has data or is the switch command, then the `err` label. -/
def sdhciCmdComplete (cfg : Config) (fuel : Nat) (cmd : MmcCommand) :
    Prog (Nat × MmcCommand) := do
  let complete ← pollLoop 16 (.hc sdhciNrmlIntStsReg) cmdCompleteSeen 16 cfg.sdhciMaxCmdRetry 500
    fuel 0
  if !complete then do
    dprintf "Error: Command never completed\n"
    sdhciCmdCompleteErr cmd
  else do
    writeReg 16 (.hc sdhciNrmlIntStsReg) sdhciIntStsCmdComplete
    let resp ← sdhciReadResp cmd
    let cmd := { cmd with resp := resp }
    if cmd.dataPresent ≠ 0 ∨ cmd.cmdIndex = sdhciSwitchCmd then do
      let transferred ← pollLoop 16 (.hc sdhciNrmlIntStsReg) transCompleteSeen 16
        cfg.sdhciMaxTransRetry 1000 fuel 0
      if !transferred then do
        dprintf "Error: Transfer never completed\n"
        sdhciCmdCompleteErr cmd
      else do
        writeReg 16 (.hc sdhciNrmlIntStsReg) sdhciIntStsTransComplete
        sdhciCmdCompleteErr cmd
    else sdhciCmdCompleteErr cmd

/-- sdhci_adma_transfer: build the table, program block size, count, direction and DMA,
and hand the table to the controller. Returns the table's address. -/
def sdhciAdmaTransfer (cfg : Config) (cmd : MmcCommand) : Prog Nat := do
  let numBlks := cmd.data.numBlocks
  let sz := numBlks * sdhciMmcBlkSz % 2 ^ 32
  let admaAddr ← sdhciPrepDescTable cmd.data.dataPtr sz
  writeReg 16 (.hc sdhciBlkszReg) sdhciMmcBlkSz
  let transMode ← (if numBlks > 1 then do
      writeReg 32 (.hc sdhciArg2Reg) numBlks
      pure (sdhciTransMulti ||| sdhciAutoCmd23En ||| sdhciBlkCntEn)
    else pure 0)
  writeReg 16 (.hc sdhciBlkCntReg) numBlks
  let transMode := if cmd.transMode = cfg.sdhciMmcRead then transMode ||| sdhciReadMode
    else transMode
  writeReg 32 (.hc sdhciAdmAddrReg) admaAddr
  writeReg 16 (.hc sdhciTransModeReg) (transMode ||| sdhciDmaEn)
  pure admaAddr

/-- The response length code of sdhci_send_command's switch; `none` is its default. -/
def respTypeCode (respType : Nat) : Option Nat :=
  if respType = sdhciCmdRespR1 ∨ respType = sdhciCmdRespR3 ∨ respType = sdhciCmdRespR6 ∨
      respType = sdhciCmdRespR7 then some sdhciCmdResp48
  else if respType = sdhciCmdRespR2 then some sdhciCmdResp136
  else if respType = sdhciCmdRespR1b then some sdhciCmdResp48Busy
  else if respType = sdhciCmdRespNone then some sdhciCmdRespNone
  else none

/-- The command register's flag byte: response length, data present, command type. -/
def cmdFlags (respType : Nat) (cmd : MmcCommand) : Nat :=
  (respType <<< sdhciCmdRespTypeSelBit) ||| (cmd.dataPresent <<< sdhciCmdDataPresentBit) |||
    (cmd.cmdType <<< sdhciCmdCmdTypeBit)

/-- The test of sdhci_send_command's first wait: the CMD and DAT lines are free in the
16-bit present_state. -/
def linesFree (presentState : Nat) : Bool := presentState % 2 ^ 16 &&& sdhciStateCmdDatMask == 0

/-- sdhci_send_command from the timeout write to the command write: program the transfer
of a data command and issue the command. Returns sg_list. -/
def sdhciIssueCommand (cfg : Config) (cmd : MmcCommand) (respType : Nat) : Prog Nat := do
  writeReg 8 (.hc sdhciTimeoutReg) sdhciCmdTimeout
  let sgList ← (if cmd.dataPresent ≠ 0 then sdhciAdmaTransfer cfg cmd else pure 0)
  writeReg 32 (.hc sdhciArgumentReg) cmd.argument
  writeReg 16 (.hc sdhciCmdReg) (sdhciPrepCmd cmd.cmdIndex (cmdFlags respType cmd))
  pure sgList

/-- sdhci_send_command once the command is issued: run sdhci_cmd_complete and, when it
succeeds, invalidate a read buffer and free the table. -/
def sdhciFinishCommand (cfg : Config) (fuel : Nat) (cmd : MmcCommand) (sgList : Nat) :
    Prog (Nat × MmcCommand) := do
  let res ← sdhciCmdComplete cfg fuel cmd
  if res.1 ≠ 0 then pure (1, res.2)
  else do
    ifThen (res.2.transMode = cfg.sdhciMmcRead)
      (emit (.invalidate res.2.data.dataPtr (res.2.data.numBlocks * sdhciMmcBlkSz % 2 ^ 32)))
    ifThen (sgList ≠ 0) (free sgList)
    pure (0, res.2)

/-- sdhci_send_command: check the buffer, wait for free lines, choose the response type,
then issue the command and finish it. -/
def sdhciSendCommand (cfg : Config) (fuel : Nat) (cmd : MmcCommand) :
    Prog (Nat × MmcCommand) := do
  ifThen (cmd.dataPresent ≠ 0) (assert (cmd.data.dataPtr != 0))
  ifThen (cmd.transMode = sdhciReadMode) (assert (cfg.isCacheLineAligned cmd.data.dataPtr))
  let freed ← pollLoop 32 (.hc sdhciPresentStateReg) linesFree 8 10 1000 fuel 0
  if !freed then do
    dprintf "Error: CMD or DAT lines were never freed\n"
    pure (1, cmd)
  else match respTypeCode cmd.respType with
  | none => do
    dprintf "Invalid response type for the command\n"
    pure (1, cmd)
  | some respType => do
    let sgList ← sdhciIssueCommand cfg cmd respType
    sdhciFinishCommand cfg fuel cmd sgList

end Sdhci
