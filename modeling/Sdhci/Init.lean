import Sdhci.Clock

namespace Sdhci

/-- sdhci_int_handler: acknowledge the power events the mask register shows. `ack` is
the handler's uninitialised local, what it writes when no bus event is pending. -/
def sdhciIntHandler (ack : Nat) : Prog Nat := do
  let status ← readReg 32 .pwrctlMask
  let ack := if status &&& (sdccHcBusOn ||| sdccHcBusOff) ≠ 0 then sdccHcBusOnOffSucc else ack
  let ack := if status &&& (sdccHcIoSigLow ||| sdccHcIoSigHigh) ≠ 0 then ack ||| sdccHcIoSigSucc
    else ack
  writeReg 32 .pwrctlCtl ack
  emit .eventSignal
  pure 0

/-- sdhci_error_status_enable: enable every normal and error interrupt status and signal. -/
def sdhciErrorStatusEnable : Prog Unit := do
  writeReg 16 (.hc sdhciNrmlIntStsEnReg) sdhciNrmlIntStsEn
  writeReg 16 (.hc sdhciErrIntStsEnReg) sdhciErrIntStsEn
  writeReg 16 (.hc sdhciNrmlIntSigEnReg) sdhciNrmlIntSigEn
  writeReg 16 (.hc sdhciErrIntSigEnReg) sdhciErrIntSigEn

/-- sdhci_set_bus_power_on: the voltage, shifted into place in its 8-bit local, written
to the register at offset SDHCI_BUS_PWR_EN, then with bus power on to SDHCI_PWR_CTRL_REG. -/
def sdhciSetBusPowerOn (host : SdhciHost) : Prog Unit := do
  let voltage := ((host.caps.voltage % 2 ^ 8) <<< sdhciBusVolSel) % 2 ^ 8
  writeReg 8 (.hc sdhciBusPwrEn) voltage
  writeReg 8 (.hc sdhciPwrCtrlReg) (voltage ||| sdhciBusPwrEn)

/-- sdhci_set_adma_mode: select 32-bit ADMA2, overwriting Host Control 1. -/
def sdhciSetAdmaMode : Prog Unit := writeReg 8 (.hc sdhciHostCtrl1Reg) sdhciAdma32bit

/-- The width bits of sdhci_set_bus_width's switch; `none` is its default. -/
def busWidthBits (width : Nat) : Option Nat :=
  if width = dataBusWidth8bit then some sdhciBusWitdh8bit
  else if width = dataBusWidth4bit then some sdhciBusWitdh4bit
  else if width = dataBusWidth1bit then some sdhciBusWitdh1bit
  else none

/-- sdhci_set_bus_width: OR the width's bits into Host Control 1. -/
def sdhciSetBusWidth (width : Nat) : Prog Nat := do
  let reg ← readReg 8 (.hc sdhciHostCtrl1Reg)
  match busWidthBits (width % 2 ^ 16) with
  | none => do
    dprintf "Bus width is invalid: %u\n"
    pure 1
  | some bits => do
    writeReg 8 (.hc sdhciHostCtrl1Reg) (reg ||| bits)
    pure 0

/-- sdhci_reset: start a software reset and wait, without bound, for it to complete. -/
def sdhciReset (fuel : Nat) : Prog Unit := do
  writeReg 8 (.hc sdhciResetReg) sdhciSoftReset
  spinUntil 8 (.hc sdhciResetReg) (fun v ↦ v &&& sdhciSoftResetMask == 0) fuel

def sdhciModeEnable (enable : Nat) : Prog Unit :=
  writeReg 32 .mciHcMode (if enable % 2 ^ 8 ≠ 0 then sdhciHcModeEn else sdhciHcModeDis)

/-- The capabilities sdhci_init reads from the two capability words into `caps`. The
voltage is left as it was when no supported voltage is reported. -/
def capsOf (caps : HostCaps) (caps0 caps1 : Nat) : HostCaps where
  baseClkRate := (caps0 &&& sdhciClkRateMask) >>> sdhciClkRateBit * 1000000
  maxBlkLen := (caps0 &&& sdhciBlkLenMask) >>> sdhciBlkLenBit
  busWidth8bit := if caps0 &&& sdhci8bitWidthMask ≠ 0 then 1 else caps.busWidth8bit
  admaSupport := if caps0 &&& sdhciBlkAdmaMask ≠ 0 then 1 else caps.admaSupport
  voltage :=
    if caps0 &&& sdhci33VolMask ≠ 0 then sdhciVol33
    else if caps0 &&& sdhci30VolMask ≠ 0 then sdhciVol30
    else if caps0 &&& sdhci18VolMask ≠ 0 then sdhciVol18
    else caps.voltage
  ddrSupport := if caps1 &&& sdhciDdrModeMask ≠ 0 then 1 else 0
  sdr50Support := if caps1 &&& sdhciSdr50ModeMask ≠ 0 then 1 else 0

/-- sdhci_init: reset, read the capabilities, power the bus once the power interrupt is
handled, then 1-bit width, ADMA2 and every interrupt status. -/
def sdhciInit (fuel : Nat) (host : SdhciHost) : Prog SdhciHost := do
  emit .eventInit
  sdhciReset fuel
  let caps0 ← readReg 32 (.hc sdhciCapsReg1)
  let caps1 ← readReg 32 (.hc sdhciCapsReg2)
  let host := { host with caps := capsOf host.caps caps0 caps1 }
  emit .registerIntHandler
  emit .unmaskInterrupt
  writeReg 32 .pwrctlMask sdccHcPwrCtrlInt
  sdhciSetBusPowerOn host
  emit .eventWait
  let _ ← sdhciSetBusWidth sdhciBusWitdh1bit
  sdhciSetAdmaMode
  sdhciErrorStatusEnable
  pure host

/-- The calls a card driver makes on an initialised host to set its bus. -/
inductive ModeCall where
  | busWidth (width : Nat)
  | sdrMode
  | ddrMode
  deriving DecidableEq, Repr

def ModeCall.run (fuel : Nat) (host : SdhciHost) : ModeCall → Prog SdhciHost
  | .busWidth width => do
    let _ ← sdhciSetBusWidth width
    pure host
  | .sdrMode => sdhciSetSdrMode fuel host
  | .ddrMode => sdhciSetDdrMode fuel host

def modeCalls (fuel : Nat) (host : SdhciHost) (calls : List ModeCall) : Prog SdhciHost :=
  calls.foldlM (fun host c ↦ c.run fuel host) host

theorem modeCalls_cons (fuel : Nat) (host : SdhciHost) (c : ModeCall) (cs : List ModeCall) :
    modeCalls fuel host (c :: cs) = c.run fuel host >>= fun host ↦ modeCalls fuel host cs :=
  rfl

def initThen (fuel : Nat) (host : SdhciHost) (calls : List ModeCall) : Prog SdhciHost := do
  let host ← sdhciInit fuel host
  modeCalls fuel host calls

end Sdhci
