import Sdhci.BusModes
import Sdhci.Footprint
import Sdhci.Watch

namespace Sdhci

open Prog

/-- The registers sdhci_send_command programs for a command before it writes the command
register, each with the width in bits it writes it at: timeout, argument, and the transfer
registers of a data command. -/
def cmdSetupRegs : List (Nat × Nat) :=
  [(sdhciTimeoutReg, 8), (sdhciArgumentReg, 32), (sdhciBlkszReg, 16), (sdhciArg2Reg, 32),
    (sdhciBlkCntReg, 16), (sdhciAdmAddrReg, 32), (sdhciTransModeReg, 16)]

/-- An `n`-bit access at offset `a` reaches a byte of the `k`-bit register at offset `r`. -/
def overlaps (a n r k : Nat) : Bool := a < r + k / 8 && r < a + n / 8

def engineRegs : List Nat := sdhciCmdReg :: sdhciNrmlIntStsReg :: cmdSetupRegs.map Prod.fst

def Effect.Benign : Effect → Prop
  | .udelay _ | .dprintf _ | .eventInit | .eventWait | .eventSignal | .registerIntHandler
  | .unmaskInterrupt => True
  | _ => False

/-- What the entry points other than sdhci_send_command do: read registers, write
registers off the command engine, and the benign effects. -/
def Access.Control : Access → Prop
  | .read .. => True
  | .write _ (.hc a) _ => a ∉ engineRegs
  | .write .. => True
  | .effect e => e.Benign

/-- Reads, waits, messages and the platform's events, and writes only to the host
registers in `regs`, at the widths given there, or to the SDCC platform registers. -/
def Access.Writes (regs : List (Nat × Nat)) : Access → Prop
  | .read .. => True
  | .write n (.hc a) _ => (a, n) ∈ regs
  | .write .. => True
  | .effect e => e.Benign

/-- The host registers sdhci_init writes, with their widths. -/
def initRegs : List (Nat × Nat) :=
  [(sdhciResetReg, 8), (sdhciBusPwrEn, 8), (sdhciPwrCtrlReg, 8), (sdhciHostCtrl1Reg, 8),
    (sdhciNrmlIntStsEnReg, 16), (sdhciErrIntStsEnReg, 16), (sdhciNrmlIntSigEnReg, 16),
    (sdhciErrIntSigEnReg, 16)]

/-- The driver's entry points the card layer calls. Each call works on the host the calls
before it left. -/
inductive DriverCall where
  | init
  | modeEnable (enable : Nat)
  | clkSupply (clk : Nat)
  | busWidth (width : Nat)
  | sdrMode
  | ddrMode
  | sendCommand (cmd : MmcCommand)

def DriverCall.run (cfg : Config) (fuel : Nat) (host : SdhciHost) : DriverCall → Prog SdhciHost
  | .init => sdhciInit fuel host
  | .modeEnable enable => do sdhciModeEnable enable; pure host
  | .clkSupply clk => do
    let r ← sdhciClkSupply fuel host clk
    pure r.2
  | .busWidth width => do
    let _ ← sdhciSetBusWidth width
    pure host
  | .sdrMode => sdhciSetSdrMode fuel host
  | .ddrMode => sdhciSetDdrMode fuel host
  | .sendCommand cmd => do
    let _ ← sdhciSendCommand cfg fuel cmd
    pure host

/-- The host registers an entry point other than sdhci_send_command writes, with their
widths. -/
def DriverCall.hostWrites : DriverCall → List (Nat × Nat)
  | .init => initRegs
  | .clkSupply _ => [(sdhciClkCtrlReg, 16)]
  | .busWidth _ => [(sdhciHostCtrl1Reg, 8)]
  | .sdrMode | .ddrMode => [(sdhciClkCtrlReg, 16), (sdhciHostCtrl2Reg, 16)]
  | .modeEnable _ | .sendCommand _ => []

def session (cfg : Config) (fuel : Nat) (host : SdhciHost) (calls : List DriverCall) :
    Prog SdhciHost :=
  calls.foldlM (fun host c ↦ c.run cfg fuel host) host

/-- The power interrupt as the platform delivers it: sdhci_int_handler, which sdhci_init
registers for SDCC_PWRCTRL_IRQ, with whatever its uninitialised local `ack` holds. It may
come before any access of a session. -/
def powerIrq (ack : Nat) : Prog Unit := do
  let _ ← sdhciIntHandler ack
  pure ()

def Access.OffHost : Access → Prop
  | .read _ (.hc _) _ | .write _ (.hc _) _ => False
  | .read .. | .write .. => True
  | .effect e => e = .eventSignal

theorem powerIrq_offHost (ack : Nat) : (powerIrq ack).Only Access.OffHost :=
  fun _ ↦ ⟨trivial, trivial, rfl, trivial⟩

/-- A session under the power interrupt: before the session's `i`-th access the handler
runs when `irqs i` holds an `ack`. -/
def irqSession (cfg : Config) (fuel : Nat) (host : SdhciHost) (calls : List DriverCall)
    (irqs : Nat → Option Nat) : Prog SdhciHost :=
  (session cfg fuel host calls).preempt powerIrq irqs

theorem session_cons (cfg : Config) (fuel : Nat) (host : SdhciHost) (c : DriverCall)
    (cs : List DriverCall) :
    session cfg fuel host (c :: cs) = c.run cfg fuel host >>= fun host ↦ session cfg fuel host cs :=
  rfl

section Control

theorem Access.Passive.writes {x : Access} (h : x.Passive) (regs : List (Nat × Nat)) :
    x.Writes regs := by
  rcases x with _ | _ | ⟨_ | _⟩ <;> trivial

theorem Access.Writes.control {regs : List (Nat × Nat)} (h : ∀ r ∈ regs, r.1 ∉ engineRegs)
    {x : Access} (hx : x.Writes regs) : x.Control := by
  rcases x with _ | ⟨_, _ | _ | _ | _, _⟩ | _
  case write.hc a => exact h _ hx
  all_goals exact hx

theorem Access.Writes.mono {regs regs' : List (Nat × Nat)} (h : ∀ r ∈ regs, r ∈ regs')
    {x : Access} (hx : x.Writes regs) : x.Writes regs' := by
  rcases x with _ | ⟨_, _ | _ | _ | _, _⟩ | _
  case write.hc a => exact h _ hx
  all_goals exact hx

theorem writeReg_writes {n a v : Nat} {regs : List (Nat × Nat)} (h : (a, n) ∈ regs) :
    (writeReg n (.hc a) v).Only (Access.Writes regs) :=
  ⟨h, trivial⟩

theorem readReg_writes (regs : List (Nat × Nat)) (w : Nat) (a : Addr) :
    (readReg w a).Only (Access.Writes regs) :=
  readReg_only (fun _ h ↦ h.writes regs) w a

theorem sdhciSetBusWidth_writes (width : Nat) :
    (sdhciSetBusWidth width).Only (Access.Writes [(sdhciHostCtrl1Reg, 8)]) := by
  refine only_bind (readReg_writes _ _ _) fun _ ↦ ?_
  split
  · exact ⟨trivial, trivial⟩
  · exact only_bind (writeReg_writes (by simp)) fun _ ↦ trivial

theorem sdhciClkSupply_writes (fuel : Nat) (host : SdhciHost) (clk : Nat) :
    (sdhciClkSupply fuel host clk).Only (Access.Writes [(sdhciClkCtrlReg, 16)]) := by
  unfold sdhciClkSupply
  split
  · exact ⟨trivial, trivial⟩
  · exact only_bind (writeReg_writes (by simp)) fun _ ↦
      only_bind (spinUntil_only (fun _ ↦ trivial) fuel) fun _ ↦
      only_bind (readReg_writes _ _ _) fun _ ↦ only_bind (writeReg_writes (by simp)) fun _ ↦ trivial

theorem setUhsMode_writes (mode : Nat) :
    (setUhsMode mode).Only (Access.Writes [(sdhciClkCtrlReg, 16), (sdhciHostCtrl2Reg, 16)]) :=
  only_bind (readReg_writes _ _ _) fun _ ↦ only_bind (writeReg_writes (by simp)) fun _ ↦
    only_bind (readReg_writes _ _ _) fun _ ↦ writeReg_writes (by simp)

theorem sdhciInit_writes (fuel : Nat) (host : SdhciHost) :
    (sdhciInit fuel host).Only (Access.Writes initRegs) := by
  have hw : ∀ {n a v}, (a, n) ∈ initRegs → (writeReg n (.hc a) v).Only (Access.Writes initRegs) :=
    writeReg_writes
  refine only_bind ⟨trivial, trivial⟩ fun _ ↦ only_bind (only_bind (hw (by decide))
    fun _ ↦ spinUntil_only (fun _ ↦ trivial) fuel) fun _ ↦
    only_bind (readReg_writes _ _ _) fun _ ↦ only_bind (readReg_writes _ _ _) fun _ ↦
    only_bind ⟨trivial, trivial⟩ fun _ ↦ only_bind ⟨trivial, trivial⟩ fun _ ↦
    only_bind ⟨trivial, trivial⟩ fun _ ↦
    only_bind (only_bind (hw (by decide)) fun _ ↦ hw (by decide)) fun _ ↦
    only_bind ⟨trivial, trivial⟩ fun _ ↦
    only_bind ((sdhciSetBusWidth_writes _).mono fun _ ↦ Access.Writes.mono (by decide)) fun _ ↦
    only_bind (hw (by decide)) fun _ ↦ only_bind ?_ fun _ ↦ trivial
  exact only_bind (hw (by decide)) fun _ ↦ only_bind (hw (by decide)) fun _ ↦
      only_bind (hw (by decide)) fun _ ↦ hw (by decide)

/-- Every entry point but sdhci_send_command writes only the host registers it names. -/
theorem DriverCall.run_writes (cfg : Config) (fuel : Nat) (host : SdhciHost) (c : DriverCall)
    (hc : ∀ cmd, c ≠ .sendCommand cmd) : (c.run cfg fuel host).Only (Access.Writes c.hostWrites) := by
  cases c with
  | init => exact sdhciInit_writes fuel host
  | modeEnable enable => exact ⟨trivial, trivial⟩
  | clkSupply clk => exact only_bind (sdhciClkSupply_writes fuel host clk) fun _ ↦ trivial
  | busWidth width => exact only_bind (sdhciSetBusWidth_writes width) fun _ ↦ trivial
  | sdrMode | ddrMode =>
    exact only_bind (setUhsMode_writes _) fun _ ↦ only_bind ((sdhciClkSupply_writes fuel host _).mono
      fun _ ↦ Access.Writes.mono (by decide)) fun _ ↦ trivial
  | sendCommand cmd => exact absurd rfl (hc cmd)

theorem DriverCall.run_control (cfg : Config) (fuel : Nat) (host : SdhciHost) (c : DriverCall)
    (hc : ∀ cmd, c ≠ .sendCommand cmd) : (c.run cfg fuel host).Only Access.Control :=
  (c.run_writes cfg fuel host hc).mono fun _ ↦ Access.Writes.control (by
    cases c <;> simp only [DriverCall.hostWrites] <;> decide)

end Control

end Sdhci
