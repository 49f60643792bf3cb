import Sdhci.Poll

namespace Sdhci

/-- The divisor scan of sdhci_clk_supply from `div`, `freq` being the last rate computed:
the first even divisor below SDHCI_CLK_MAX_DIV whose rate `base / div` is at most `clk`,
with that rate; when there is none, the loop's end and the last rate it computed. `fuel`
bounds the turns, and `sdhciClkMaxDiv` of it is more than the loop takes. -/
def clkScan (base clk : Nat) : Nat → Nat → Nat → Nat × Nat
  | 0, div, freq => (div, freq)
  | fuel + 1, div, freq =>
    if div < sdhciClkMaxDiv then
      if base / div ≤ clk then (div, base / div) else clkScan base clk fuel (div + 2) (base / div)
    else (div, freq)

/-- The divider and the rate sdhci_clk_supply settles on for a request `clk ≤ base`:
divider 0 and the initial rate 0 for the base rate itself, half the scan's divisor and
its rate otherwise. -/
def clkDivider (base clk : Nat) : Nat × Nat :=
  if clk = base then (0, 0)
  else
    let r := clkScan base clk sdhciClkMaxDiv 2 0
    (r.1 >>> 1, r.2)

/-- The clock control word for divider `div`: its bits 0-7 at bits 8-15, its bits 8-9 at
bits 6-7, and the internal clock enabled. -/
def clkCtrlVal (div : Nat) : Nat :=
  ((div &&& sdhciSdclkFreqMask) <<< sdhciSdclkFreqSel) |||
    (((div &&& sdhcSdclkUpBitMask) >>> sdhciSdclkFreqSel) <<< sdhciSdclkUpBitSel) ||| sdhciIntClkEn

/-- The 10-bit divider a clock control word selects, as SDHCI 3.0 lays the field out. -/
def clkDividerField (v : Nat) : Nat :=
  ((v >>> sdhciSdclkFreqSel) &&& sdhciSdclkFreqMask) |||
    (((v >>> sdhciSdclkUpBitSel) &&& 0x3) <<< sdhciSdclkFreqSel)

/-- The SD clock of base rate `base` under the 10-bit divider `n`: the base rate for 0,
`base / (2n)` otherwise. -/
def sdClock (base n : Nat) : Nat := if n = 0 then base else base / (2 * n)

/-- sdhci_clk_supply: refuse a rate above the base rate; otherwise program the divider,
wait for the internal clock to be stable, enable the SD clock and record the rate. -/
def sdhciClkSupply (fuel : Nat) (host : SdhciHost) (clk : Nat) : Prog (Nat × SdhciHost) :=
  if clk > host.caps.baseClkRate then do
    dprintf "Error: Requested clk freq is more than supported\n"
    pure (1, host)
  else do
    let d := clkDivider host.caps.baseClkRate clk
    writeReg 16 (.hc sdhciClkCtrlReg) (clkCtrlVal d.1)
    spinUntil 16 (.hc sdhciClkCtrlReg) (fun v ↦ v &&& sdhciClkStable != 0) fuel
    let clkVal ← readReg 16 (.hc sdhciClkCtrlReg)
    writeReg 16 (.hc sdhciClkCtrlReg) (clkVal ||| sdhciClkEn)
    pure (0, { host with curClkRate := d.2 })

/-- sdhci_stop_sdcc_clk: refuse while the command or data line is active, else stop the
clock. -/
def sdhciStopSdccClk : Prog Nat := do
  let reg ← readReg 32 (.hc sdhciPresentStateReg)
  if reg &&& (sdhciCmdAct ||| sdhciDatAct) ≠ 0 then do
    dprintf "Error: SDCC command & data line are active\n"
    pure 1
  else do
    writeReg 16 (.hc sdhciClkCtrlReg) sdhciClkDis
    pure 0

/-- sdhci_change_freq_clk: stop the clock, then supply the new rate. -/
def sdhciChangeFreqClk (fuel : Nat) (host : SdhciHost) (clk : Nat) : Prog (Nat × SdhciHost) := do
  let stopped ← sdhciStopSdccClk
  if stopped ≠ 0 then do
    dprintf "Error: Card is busy, cannot change frequency\n"
    pure (1, host)
  else do
    let r ← sdhciClkSupply fuel host clk
    if r.1 ≠ 0 then do
      dprintf "Error: cannot change frequency\n"
      pure (1, r.2)
    else pure (0, r.2)

/-- The first half of sdhci_set_sdr_mode and sdhci_set_ddr_mode: disable the SD clock and
OR `mode` into Host Control 2. -/
def setUhsMode (mode : Nat) : Prog Unit := do
  let clk ← readReg 16 (.hc sdhciClkCtrlReg)
  writeReg 16 (.hc sdhciClkCtrlReg) (clk &&& (0xFFFF ^^^ sdhciClkEn))
  let ctrl ← readReg 16 (.hc sdhciHostCtrl2Reg)
  writeReg 16 (.hc sdhciHostCtrl2Reg) (ctrl ||| mode)

/-- sdhci_set_sdr_mode: SDR50 when the controller supports it, and the clock back at
100 MHz. -/
def sdhciSetSdrMode (fuel : Nat) (host : SdhciHost) : Prog SdhciHost := do
  setUhsMode (if host.caps.sdr50Support ≠ 0 then sdhciSdr50ModeEn else 0)
  let r ← sdhciClkSupply fuel host sdhciClk100mhz
  pure r.2

/-- sdhci_set_ddr_mode: DDR mode, and the clock back at the recorded rate. -/
def sdhciSetDdrMode (fuel : Nat) (host : SdhciHost) : Prog SdhciHost := do
  setUhsMode sdhciDdrModeEn
  let r ← sdhciClkSupply fuel host host.curClkRate
  pure r.2

end Sdhci
