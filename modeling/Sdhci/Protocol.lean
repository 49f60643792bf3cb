import Sdhci.Session
import Sdhci.StatusRegs
import Sdhci.Watch
namespace Sdhci

open Prog

section Phases

variable {μ : Type} {m : μ → Access → Option μ}

theorem assertIf_watch {c : Prop} [Decidable c] {b : Bool} {s : μ} {Q : Unit → μ → Prop}
    (h : Q () s) : (ifThen c (assert b)).Watch m s Q := by
  unfold ifThen assert
  split
  · split
    · exact h
    · trivial
  · exact h

/-- sdhci_adma_transfer under a monitor that the transfer register writes leave where the
table preparation put it, the ADMA address being the table's. -/
theorem sdhciAdmaTransfer_watch {cfg : Config} {cmd : MmcCommand} {I : Nat → μ → Prop} {s : μ}
    (hprep : (sdhciPrepDescTable cmd.data.dataPtr
      (cmd.data.numBlocks * sdhciMmcBlkSz % 2 ^ 32)).Watch m s I)
    (hkeep : ∀ p s r n v, I p s → (r, n) ∈ [(sdhciBlkszReg, 16), (sdhciArg2Reg, 32),
      (sdhciBlkCntReg, 16), (sdhciAdmAddrReg, 32), (sdhciTransModeReg, 16)] →
      (r = sdhciAdmAddrReg → v = p % 2 ^ 32) → m s (.write n (.hc r) v) = some s) :
    (sdhciAdmaTransfer cfg cmd).Watch m s I := by
  refine watch_bind (hprep.mono fun p s₁ hI ↦ ?_)
  have hk : ∀ r n v, (r, n) ∈ [(sdhciBlkszReg, 16), (sdhciArg2Reg, 32), (sdhciBlkCntReg, 16),
      (sdhciAdmAddrReg, 32), (sdhciTransModeReg, 16)] → r ≠ sdhciAdmAddrReg →
      m s₁ (.write n (.hc r) v) = some s₁ := fun r n v hr hne ↦ hkeep p s₁ r n v hI hr (absurd · hne)
  simp only [writeReg_bind]
  refine ⟨s₁, hk _ _ _ (by decide) (by decide),
    watch_bind (Watch.mono (Q := fun _ s' ↦ s' = s₁) ?_ ?_)⟩
  · split
    · exact ⟨s₁, hk _ _ _ (by decide) (by decide), rfl⟩
    · rfl
  · intro _ s₂ h
    rw [h]
    exact ⟨s₁, hk _ _ _ (by decide) (by decide), s₁, hkeep p s₁ _ _ _ hI (by decide) fun _ ↦ rfl,
      s₁, hk _ _ _ (by decide) (by decide), hI⟩

/-- sdhci_finish_command under a monitor that sdhci_cmd_complete leaves in `R`: when the
invalidation keeps `R` and the free of the table is accepted from `R`, a successful run
ends in `Q`. -/
theorem sdhciFinishCommand_watch {cfg : Config} {fuel : Nat} {cmd : MmcCommand} {sg : Nat}
    {R Q : μ → Prop} {s : μ} (hcc : (sdhciCmdComplete cfg fuel cmd).Watch m s fun _ ↦ R)
    (hinv : ∀ s a n, R s → ∃ s', m s (.effect (.invalidate a n)) = some s' ∧ R s')
    (hfree : ∀ s, R s → sg ≠ 0 → ∃ s', m s (.effect (.free sg)) = some s' ∧ Q s')
    (hdone : ∀ s, R s → sg = 0 → Q s) :
    (sdhciFinishCommand cfg fuel cmd sg).Watch m s fun r s' ↦ r.1 = 0 → Q s' := by
  refine watch_bind (hcc.mono fun res s₁ hR ↦ ?_)
  split
  · exact fun h ↦ absurd h one_ne_zero
  · refine watch_bind (Watch.mono (Q := fun _ ↦ R) ?_ fun _ s₂ hR₂ ↦ watch_bind ?_)
    · unfold ifThen
      split
      · exact hinv _ _ _ hR
      · exact hR
    · unfold ifThen
      split
      case isTrue hsg =>
        obtain ⟨s₃, h₃, hQ⟩ := hfree s₂ hR₂ hsg
        exact ⟨s₃, h₃, fun _ ↦ hQ⟩
      case isFalse hsg => exact fun _ ↦ hdone s₂ hR₂ (not_not.1 hsg)

/-- sdhci_send_command under a monitor: the line wait leaves it in `F` when it sees the
lines free, the issue goes from `F` to `R`, and the finish from `R`; a refusal ends in
`Q` at once. -/
theorem sdhciSendCommand_watch {cfg : Config} {fuel : Nat} {cmd : MmcCommand} {F : μ → Prop}
    {R : Nat → μ → Prop} {Q : Nat × MmcCommand → μ → Prop} {s : μ}
    (hpoll : (pollLoop 32 (.hc sdhciPresentStateReg) linesFree 8 10 1000 fuel 0).Watch m s
      fun b s' ↦ b = true → F s')
    (hprint : ∀ msg, Allows m (.effect (.dprintf msg))) (hfail : ∀ s, Q (1, cmd) s)
    (hissue : ∀ s respType, F s → (sdhciIssueCommand cfg cmd respType).Watch m s R)
    (hfinish : ∀ s sg, R sg s → (sdhciFinishCommand cfg fuel cmd sg).Watch m s Q) :
    (sdhciSendCommand cfg fuel cmd).Watch m s Q := by
  have hrefuse : ∀ s msg, (dprintf msg >>= fun _ ↦ pure (1, cmd)).Watch m s Q := fun s msg ↦
    (hprint msg s).imp fun _ h ↦ ⟨h, hfail _⟩
  refine watch_bind (assertIf_watch (watch_bind (assertIf_watch
    (watch_bind (hpoll.mono fun freed s₁ hF ↦ ?_)))))
  split
  · exact hrefuse _ _
  · rename_i hfreed
    have hF₁ := hF (by simpa using hfreed)
    split
    · exact hrefuse _ _
    · exact watch_bind ((hissue _ _ hF₁).mono fun sg s₂ h ↦ hfinish s₂ sg h)

theorem session_watch {cfg : Config} {fuel : Nat} {calls : List DriverCall}
    (hcall : ∀ host, ∀ c ∈ calls, ∀ s, (c.run cfg fuel host).Watch m s fun _ _ ↦ True)
    (host : SdhciHost) (s : μ) : (session cfg fuel host calls).Watch m s fun _ _ ↦ True := by
  induction calls generalizing host s with
  | nil => trivial
  | cons c cs ih =>
    rw [session_cons]
    exact watch_bind ((hcall host c (List.mem_cons_self c cs) s).mono fun h s' _ ↦
      ih (fun host c hc ↦ hcall host c (List.mem_cons_of_mem _ hc)) h s')

theorem callWatch_of_control {cfg : Config} {fuel : Nat}
    (hcmd : ∀ s cmd, (sdhciSendCommand cfg fuel cmd).Watch m s fun _ _ ↦ True)
    (hctl : ∀ x, x.Control → Allows m x) (host : SdhciHost) (c : DriverCall) (s : μ) :
    (c.run cfg fuel host).Watch m s fun _ _ ↦ True := by
  cases c with
  | sendCommand cmd => exact watch_bind ((hcmd s cmd).mono fun _ _ _ ↦ trivial)
  | _ =>
    exact watch_of_allows ((DriverCall.run_control cfg fuel host _ fun _ h ↦ by cases h).mono
      hctl) s

/-- Such a monitor, when it keeps every access off the host controller, accepts the trace
of every run of the session on every controller, wherever the power interrupt comes. -/
theorem session_accepts {σ : Type} {cfg : Config} {fuel : Nat} {calls : List DriverCall}
    (hcall : ∀ host, ∀ c ∈ calls, ∀ s, (c.run cfg fuel host).Watch m s fun _ _ ↦ True)
    (hoff : ∀ x, x.OffHost → Keeps m x) (D : Device σ) (w : World σ) (host : SdhciHost)
    (irqs : Nat → Option Nat) (s : μ) :
    ∃ t, ((irqSession cfg fuel host calls irqs).run D w).2.trace = w.trace ++ t ∧
      (t.foldlM m s).isSome := by
  obtain ⟨t, s', ht, hf, -⟩ := run_watch D (watch_preempt
    (fun ack ↦ (powerIrq_offHost ack).mono hoff) (session_watch hcall host s) irqs) w
  exact ⟨t, ht, by rw [hf]; rfl⟩

end Phases

theorem SendAccess.ne_hostWrite {cmd : MmcCommand} {x : Access} (hx : SendAccess cmd x)
    {a : Nat} (ha : a ∉ sdhciResetReg :: engineRegs) (n v : Nat) : x ≠ .write n (.hc a) v := by
  rintro rfl
  simp only [engineRegs, cmdSetupRegs, List.map_cons, List.map_nil, List.mem_cons,
    List.not_mem_nil, or_false, not_or] at ha
  rcases hx with h | h | h | h | ⟨_, _, h⟩ | ⟨_, h⟩ <;>
    simp_all [Access.Passive, Access.IsAck, lineReset, IssueAccess]

section Entry

variable {μ : Type} {m : μ → Access → Option μ} (cfg : Config) (fuel : Nat) (host : SdhciHost)

/-- A monitor that accepts every access but the writes to host register `a` passes, from
every state, every entry point other than sdhci_send_command that never writes `a`. -/
theorem DriverCall.run_watch_of_allows {a : Nat}
    (hm : ∀ x, (∀ n v, x ≠ .write n (.hc a) v) → Allows m x) {c : DriverCall}
    (hc : ∀ cmd, c ≠ .sendCommand cmd) (ha : a ∉ c.hostWrites.map Prod.fst) (s : μ) :
    (c.run cfg fuel host).Watch m s fun _ _ ↦ True :=
  watch_of_allows ((c.run_writes cfg fuel host hc).mono fun _ hx ↦
    hm _ fun _ _ h ↦ ha (by subst h; exact List.mem_map_of_mem Prod.fst hx)) s

theorem sendCommand_watch_of_allows {a : Nat}
    (hm : ∀ x, (∀ n v, x ≠ .write n (.hc a) v) → Allows m x)
    (ha : a ∉ sdhciResetReg :: engineRegs) (cmd : MmcCommand) (s : μ) :
    ((DriverCall.sendCommand cmd).run cfg fuel host).Watch m s fun _ _ ↦ True :=
  watch_bind ((watch_of_allows ((sdhciSendCommand_only cfg fuel cmd).mono fun _ hx ↦
    hm _ (hx.ne_hostWrite ha)) s).mono fun _ _ _ ↦ trivial)

theorem setMode_watch (hu : ∀ mode s, (setUhsMode mode).Watch m s fun _ _ ↦ True)
    (hs : ∀ clk s, (sdhciClkSupply fuel host clk).Watch m s fun _ _ ↦ True)
    (mode clk : Nat) (s : μ) :
    (setUhsMode mode >>= fun _ ↦ sdhciClkSupply fuel host clk >>= fun r ↦ pure r.2).Watch m s
      fun _ _ ↦ True :=
  watch_bind ((hu mode s).mono fun _ s₁ _ ↦ watch_bind ((hs clk s₁).mono fun _ _ _ ↦ trivial))

end Entry

theorem Access.Passive.ne_write {x : Access} (h : x.Passive) (n : Nat) (a : Addr) (v : Nat) :
    x ≠ .write n a v := by
  rintro rfl
  exact h

theorem sdhciPrepDescTable_effects (data len : Nat) :
    (sdhciPrepDescTable data len).Only fun x ↦ ∃ e, x = .effect e := by
  unfold sdhciPrepDescTable
  split <;> simp [Prog.Only, apply_ite (Prog.Only _)]

/-- A write that reaches a byte of the command register or of a register of a command:
`issueSpan a n` for an `n`-bit write at offset `a`. -/
def issueSpan (a n : Nat) : Bool :=
  overlaps a n sdhciCmdReg 16 || cmdSetupRegs.any fun r ↦ overlaps a n r.1 r.2

def Access.IsIssueWrite : Access → Prop
  | .write n (.hc a) _ => issueSpan a n = true
  | _ => False

/-- The host's rule for issuing a command (SDHCI 3.0, 3.7.1.1). `ready`: the last read of
the present state showed Command Inhibit (CMD) and Command Inhibit (DAT) clear, and no
command has been written since. A write that reaches a byte of the command register or of
a register of a command is made only when ready; one that reaches the command register
ends it. -/
def issueStep (ready : Bool) : Access → Option Bool
  | .read _ a v =>
    some (if a = .hc sdhciPresentStateReg then v &&& sdhciStateCmdDatMask == 0 else ready)
  | .write n (.hc a) _ =>
    if overlaps a n sdhciCmdReg 16 then (if ready then some false else none)
    else if cmdSetupRegs.any (fun r ↦ overlaps a n r.1 r.2) then
      (if ready then some true else none)
    else some ready
  | _ => some ready

/-- sdhci_send_command's test of the lines reads the 16-bit truncation of the present
state; the inhibit bits lie in it. -/
theorem linesFree_eq (v : Nat) : linesFree v = (v &&& sdhciStateCmdDatMask == 0) := by
  rw [linesFree, show sdhciStateCmdDatMask = 2 ^ 2 - 1 from rfl, Nat.and_pow_two_sub_one_eq_mod,
    Nat.and_pow_two_sub_one_eq_mod, Nat.mod_mod_of_dvd _ (by norm_num)]

theorem issueStep_offHost {x : Access} (hx : x.OffHost) : Keeps issueStep x := fun _ ↦ by
  rcases x with ⟨_, _ | _ | _ | _, _⟩ | ⟨_, _ | _ | _ | _, _⟩ | e
  all_goals first | exact False.elim hx | rfl

theorem issueStep_allows {x : Access} (hx : ¬x.IsIssueWrite) : Allows issueStep x := fun ready ↦ by
  rcases x with ⟨n, a, v⟩ | ⟨n, _ | _ | _ | _, v⟩ | e
  · exact ⟨_, rfl⟩
  · simp only [Access.IsIssueWrite, issueSpan, Bool.or_eq_true, not_or, Bool.not_eq_true] at hx
    simp [issueStep, hx.1, hx.2]
  all_goals exact ⟨_, rfl⟩

theorem issueStep_allows_completion {x : Access} (hx : x.Passive ∨ x.IsAck ∨ x = lineReset) :
    Allows issueStep x := by
  refine issueStep_allows ?_
  rcases hx with hx | (rfl | rfl) | rfl
  · rcases x with _ | _ | _ <;> first | exact id | exact hx.elim
  all_goals simp only [lineReset, Access.IsIssueWrite]; decide

theorem Access.Writes.not_issueWrite {regs : List (Nat × Nat)}
    (h : ∀ r ∈ regs, issueSpan r.1 r.2 = false) {x : Access} (hx : x.Writes regs) :
    ¬x.IsIssueWrite := by
  rcases x with _ | ⟨_, _ | _ | _ | _, _⟩ | _ <;> simp only [Access.IsIssueWrite, not_false_eq_true]
  simp only [Access.Writes] at hx
  simp [h _ hx]

theorem issueStep_transfer_setup {r n v : Nat} (hr : (r, n) ∈ [(sdhciBlkszReg, 16),
    (sdhciArg2Reg, 32), (sdhciBlkCntReg, 16), (sdhciAdmAddrReg, 32), (sdhciTransModeReg, 16)]) :
    issueStep true (.write n (.hc r) v) = some true := by
  simp only [List.mem_cons, Prod.mk.injEq, List.not_mem_nil, or_false] at hr
  rcases hr with ⟨rfl, rfl⟩ | ⟨rfl, rfl⟩ | ⟨rfl, rfl⟩ | ⟨rfl, rfl⟩ | ⟨rfl, rfl⟩ <;> rfl

theorem sdhciIssueCommand_issueStep (cfg : Config) (cmd : MmcCommand) (respType : Nat) :
    (sdhciIssueCommand cfg cmd respType).Watch issueStep true fun _ _ ↦ True := by
  simp only [sdhciIssueCommand, writeReg_bind]
  refine ⟨true, rfl, watch_bind (Watch.mono (Q := fun _ s ↦ s = true) ?_ fun _ s hs ↦ ?_)⟩
  · split
    · exact sdhciAdmaTransfer_watch (watch_of_keeps ((sdhciPrepDescTable_effects _ _).mono
        fun _ ⟨_, hx⟩ ↦ hx ▸ fun _ ↦ rfl) true) fun _ _ _ _ _ hs hr _ ↦
        hs ▸ issueStep_transfer_setup hr
    · rfl
  · subst hs
    exact ⟨true, rfl, false, rfl, trivial⟩

theorem sdhciSendCommand_issueStep (cfg : Config) (fuel : Nat) (cmd : MmcCommand)
    (ready : Bool) : (sdhciSendCommand cfg fuel cmd).Watch issueStep ready fun _ _ ↦ True := by
  have hc : ∀ x, x.Passive ∨ x.IsAck ∨ x = lineReset → Allows issueStep x :=
    fun _ ↦ issueStep_allows_completion
  refine sdhciSendCommand_watch (F := (· = true)) (R := fun _ _ ↦ True)
    ((pollLoop_watch (m := issueStep) (I := fun _ ↦ True)
      (fun _ v _ ↦ ⟨_, rfl, trivial, fun hd ↦ ?_⟩)
      (fun s _ ↦ ⟨s, rfl, trivial⟩) _ _ trivial).mono fun _ _ h ↦ h.2)
    (fun _ ↦ hc _ (.inl trivial)) (fun _ ↦ trivial)
    (fun _ _ hs ↦ hs ▸ sdhciIssueCommand_issueStep cfg cmd _) fun s _ _ ↦
    (sdhciFinishCommand_watch (R := fun _ ↦ True) (Q := fun _ ↦ True)
      (watch_of_allows (sdhciCmdComplete_only (fun _ h ↦ hc _ (.inl h))
        (fun _ h ↦ hc _ (.inr (.inl h))) (hc _ (.inr (.inr rfl))) cfg fuel cmd) s)
      (fun s _ _ _ ↦ ⟨s, rfl, trivial⟩) (fun s _ _ ↦ ⟨s, rfl, trivial⟩) fun _ _ _ ↦ trivial).mono
      fun _ _ _ ↦ trivial
  rw [if_pos rfl, ← linesFree_eq]
  exact hd

/-- The host's rule for the write-1-to-clear normal interrupt status. `seen`: the bits the
last read of the status showed set and that no write has cleared since. A write to the
status clears only bits of `seen`, and they are seen no more. -/
def ackStep (seen : Nat) : Access → Option Nat
  | .read _ a v => some (if a = .hc sdhciNrmlIntStsReg then v else seen)
  | .write _ a v =>
    if a = .hc sdhciNrmlIntStsReg then (if v &&& seen = v then some (clearBits seen v) else none)
    else some seen
  | .effect _ => some seen

theorem ackStep_allows {x : Access} (hx : ∀ n v, x ≠ .write n (.hc sdhciNrmlIntStsReg) v) :
    Allows ackStep x := fun seen ↦ by
  rcases x with ⟨n, a, v⟩ | ⟨n, a, v⟩ | e
  · exact ⟨_, rfl⟩
  · have ha : a ≠ .hc sdhciNrmlIntStsReg := fun h ↦ hx n v (h ▸ rfl)
    exact ⟨seen, if_neg ha⟩
  · exact ⟨_, rfl⟩

theorem ackStep_offHost {x : Access} (hx : x.OffHost) : Keeps ackStep x := fun _ ↦ by
  rcases x with ⟨_, _ | _ | _ | _, _⟩ | ⟨_, _ | _ | _ | _, _⟩ | e
  all_goals first | exact False.elim hx | rfl

theorem two_pow_and_of_ne_zero {s k : Nat} (h : s &&& 2 ^ k ≠ 0) : 2 ^ k &&& s = 2 ^ k := by
  rw [Nat.and_two_pow] at h
  rw [Nat.two_pow_and]
  cases hb : s.testBit k <;> simp_all

theorem ackStep_ack {n k seen : Nat} (h : seen &&& 2 ^ k ≠ 0) (hk : 2 ^ k < 2 ^ n) :
    ackStep seen (.write n (.hc sdhciNrmlIntStsReg) (2 ^ k % 2 ^ n)) =
      some (clearBits seen (2 ^ k)) := by
  simp [ackStep, Nat.mod_eq_of_lt hk, two_pow_and_of_ne_zero h]

theorem sdhciIssueCommand_ackStep (cfg : Config) (cmd : MmcCommand) (respType : Nat)
    (seen : Nat) : (sdhciIssueCommand cfg cmd respType).Watch ackStep seen fun _ _ ↦ True :=
  watch_of_allows ((sdhciIssueCommand_only cfg cmd respType).mono fun x hx ↦ ackStep_allows
    fun n v h ↦ by
      subst h
      simp [IssueAccess, sdhciNrmlIntStsReg, sdhciTimeoutReg, sdhciArgumentReg, sdhciCmdReg,
        sdhciBlkszReg, sdhciArg2Reg, sdhciAdmAddrReg, sdhciTransModeReg, sdhciBlkCntReg] at hx) _

/-- sdhci_cmd_complete acknowledges Command Complete and Transfer Complete each right
after the read of the status that showed it set. -/
theorem sdhciCmdComplete_ackStep (cfg : Config) (fuel : Nat) (cmd : MmcCommand) (seen : Nat) :
    (sdhciCmdComplete cfg fuel cmd).Watch ackStep seen fun _ _ ↦ True := by
  have hp : ∀ x, x.Passive → Allows ackStep x := fun x h ↦
    ackStep_allows fun n v ↦ h.ne_write n _ v
  have herr : ∀ c s, (sdhciCmdCompleteErr c).Watch ackStep s fun _ _ ↦ True := fun c ↦
    watch_of_allows (sdhciCmdCompleteErr_only hp fun _ ↦ ackStep_allows fun _ _ h ↦ by
      simp [lineReset, sdhciResetReg, sdhciNrmlIntStsReg] at h)
  have hpoll : ∀ {done : Nat → Bool} {K us : Nat} s,
      (pollLoop 16 (.hc sdhciNrmlIntStsReg) done 16 K us fuel 0).Watch ackStep s
        fun b s' ↦ b = true → done s' = true := fun s ↦
    (pollLoop_watch (m := ackStep) (I := fun _ ↦ True) (fun _ v _ ↦ ⟨v, by simp [ackStep],
      trivial, id⟩) (fun s _ ↦ ⟨s, rfl, trivial⟩) _ _ trivial).mono fun _ _ h ↦ h.2
  unfold sdhciCmdComplete
  refine watch_bind ((hpoll seen).mono fun complete s₁ hcc ↦ ?_)
  split
  · exact ⟨s₁, rfl, herr cmd s₁⟩
  · rename_i hc
    have h₁ : s₁ &&& 2 ^ 0 ≠ 0 := by
      have := hcc (by simpa using hc)
      simp_all [cmdCompleteSeen, sdhciIntStsCmdComplete]
    simp only [writeReg_bind]
    refine ⟨_, ackStep_ack (n := 16) h₁ (by decide), watch_bind
      ((watch_of_allows (sdhciReadResp_only hp cmd) _).mono fun resp s₂ _ ↦ ?_)⟩
    dsimp only
    split
    · refine watch_bind ((hpoll s₂).mono fun transferred s₃ htc ↦ ?_)
      split
      · exact ⟨s₃, rfl, herr _ s₃⟩
      · rename_i ht
        have h₃ : s₃ &&& 2 ^ 1 ≠ 0 := by
          have := htc (by simpa using ht)
          simp_all [transCompleteSeen, sdhciIntStsTransComplete]
        exact ⟨_, ackStep_ack (n := 16) h₃ (by decide), herr _ _⟩
    · exact herr _ s₂

theorem sdhciSendCommand_ackStep (cfg : Config) (fuel : Nat) (cmd : MmcCommand) (seen : Nat) :
    (sdhciSendCommand cfg fuel cmd).Watch ackStep seen fun _ _ ↦ True :=
  have hp : ∀ x, x.Passive → Allows ackStep x := fun _ h ↦
    ackStep_allows fun n v ↦ h.ne_write n _ v
  sdhciSendCommand_watch (F := fun _ ↦ True) (R := fun _ _ ↦ True)
    ((watch_of_allows (pollLoop_only hp) seen).mono fun _ _ _ _ ↦ trivial) (fun _ ↦ hp _ trivial)
    (fun _ ↦ trivial) (fun s respType _ ↦ sdhciIssueCommand_ackStep cfg cmd respType s)
    fun s _ _ ↦ (sdhciFinishCommand_watch (R := fun _ ↦ True) (Q := fun _ ↦ True)
      ((sdhciCmdComplete_ackStep cfg fuel cmd s).mono fun _ _ _ ↦ trivial)
      (fun s _ _ _ ↦ ⟨s, rfl, trivial⟩) (fun s _ _ ↦ ⟨s, rfl, trivial⟩) fun _ _ _ ↦ trivial).mono
      fun _ _ _ ↦ trivial

/-- What the DMA engine would find: the descriptor table stored last, as its address and
size in bytes, until it is freed; and whether a clean of its whole range to memory has
followed the store. -/
structure TableView where
  table : Option (Nat × Nat)
  cleaned : Bool

/-- The host's rule for handing a descriptor table to the controller: the ADMA address
register receives only the 32-bit address of the table stored last, once it is cleaned to
memory and while it is not freed. -/
def tableStep (v : TableView) : Access → Option TableView
  | .effect (.store a t) => some ⟨some (a, t.length * descEntrySize), false⟩
  | .effect (.cleanInvalidate a n) =>
    some { v with cleaned := v.cleaned || v.table.any fun (b, size) ↦ a ≤ b && b + size ≤ a + n }
  | .effect (.free a) => some (if v.table.map Prod.fst = some a then ⟨none, false⟩ else v)
  | .write _ (.hc r) x =>
    if r = sdhciAdmAddrReg then
      (if v.cleaned ∧ v.table.map (·.1 % 2 ^ 32) = some x then some v else none)
    else some v
  | _ => some v

theorem tableStep_allows {x : Access} (hx : ∀ n y, x ≠ .write n (.hc sdhciAdmAddrReg) y) :
    Allows tableStep x := fun v ↦ by
  rcases x with ⟨n, a, y⟩ | ⟨n, _ | _ | _ | _, y⟩ | ⟨_ | _ | _ | _ | _ | _ | _ | _ | _ | _ | _ | _⟩
  case write.hc r =>
    have hr : r ≠ sdhciAdmAddrReg := fun h ↦ hx n y (h ▸ rfl)
    exact ⟨v, if_neg hr⟩
  all_goals exact ⟨_, rfl⟩

theorem tableStep_offHost {x : Access} (hx : x.OffHost) : Keeps tableStep x := fun _ ↦ by
  rcases x with ⟨_, _ | _ | _ | _, _⟩ | ⟨_, _ | _ | _ | _, _⟩ | e
  all_goals first | exact False.elim hx | rfl | (cases hx; rfl)

theorem descTable_length (data len : Nat) :
    (descTable data len).length = if len ≤ sdhciAdmaDescLineSz then 1 else descLines len := by
  unfold descTable
  split
  · rfl
  · rename_i h
    have := descLines_eq (Nat.lt_of_not_le h)
    simp only [sdhciAdmaDescLineSz] at h this
    simp [prepDescLines_entries]
    omega

/-- sdhci_prep_desc_table stores its table and cleans all of it before it returns it. -/
theorem sdhciPrepDescTable_tableStep (data len : Nat) (v : TableView) :
    (sdhciPrepDescTable data len).Watch tableStep v fun p v' ↦
      v'.cleaned = true ∧ v'.table.map Prod.fst = some p := by
  unfold sdhciPrepDescTable
  split
  all_goals
    refine fun p ↦ ⟨v, rfl, ?_⟩
    simp only [Prog.bind_ret_left, allocCheck_bind, emit_bind]
    by_cases hp : p = 0
    · rw [if_pos hp]
      exact ⟨v, rfl, trivial⟩
    rw [if_neg hp]
    refine ⟨_, rfl, _, rfl, ?_⟩
  · rename_i hle
    refine ⟨_, rfl, ?_⟩
    simp [Prog.Watch, descTable_length, descEntrySize, hle]
  · rename_i hgt
    simp [Prog.Watch, descTable_length, descEntrySize, hgt]

theorem sdhciIssueCommand_tableStep (cfg : Config) (cmd : MmcCommand) (respType : Nat)
    (v : TableView) : (sdhciIssueCommand cfg cmd respType).Watch tableStep v fun _ _ ↦ True := by
  simp only [sdhciIssueCommand, writeReg_bind]
  refine ⟨v, rfl, watch_bind (Watch.mono (Q := fun _ _ ↦ True) ?_ fun _ s _ ↦
    ⟨s, rfl, s, rfl, trivial⟩)⟩
  split
  · refine (sdhciAdmaTransfer_watch (sdhciPrepDescTable_tableStep _ _ v)
      fun p s r n y hs _ hy ↦ ?_).mono fun _ _ _ ↦ trivial
    by_cases hr : r = sdhciAdmAddrReg
    · obtain ⟨⟨a, z⟩, ht, rfl⟩ := Option.map_eq_some'.1 hs.2
      subst hr
      simp [tableStep, hs.1, ht, hy rfl]
    · exact if_neg hr
  · trivial

theorem sdhciSendCommand_tableStep (cfg : Config) (fuel : Nat) (cmd : MmcCommand)
    (v : TableView) : (sdhciSendCommand cfg fuel cmd).Watch tableStep v fun _ _ ↦ True :=
  have hp : ∀ x, x.Passive → Allows tableStep x := fun _ h ↦
    tableStep_allows fun n y ↦ h.ne_write n _ y
  have hw : ∀ {n r y : Nat}, r ≠ sdhciAdmAddrReg → Allows tableStep (.write n (.hc r) y) :=
    fun hr ↦ tableStep_allows fun _ _ h ↦ hr (by cases h; rfl)
  sdhciSendCommand_watch (F := fun _ ↦ True) (R := fun _ _ ↦ True)
    ((watch_of_allows (pollLoop_only hp) v).mono fun _ _ _ _ ↦ trivial) (fun _ ↦ hp _ trivial)
    (fun _ ↦ trivial) (fun s respType _ ↦ sdhciIssueCommand_tableStep cfg cmd respType s)
    fun s _ _ ↦ (sdhciFinishCommand_watch (R := fun _ ↦ True) (Q := fun _ ↦ True)
      (watch_of_allows (sdhciCmdComplete_only hp (fun _ h ↦ by
        rcases h with rfl | rfl <;> exact hw (by decide)) (hw (by decide)) cfg fuel cmd) s)
      (fun s _ _ _ ↦ ⟨s, rfl, trivial⟩) (fun s _ _ ↦ ⟨_, rfl, trivial⟩)
      fun _ _ _ ↦ trivial).mono fun _ _ _ ↦ trivial

/-- The `len` bytes from `a` lie inside the block `b`, given by its base and size. -/
def inBlock (a len : Nat) (b : Nat × Nat) : Bool := b.1 ≤ a && a + len ≤ b.1 + b.2

/-- The host's rule for the heap: `live` holds the blocks memalign handed out and that are
not freed, each with its size. A free frees a live block, and a table is stored and cleaned
only inside one. -/
def allocStep (live : List (Nat × Nat)) : Access → Option (List (Nat × Nat))
  | .effect (.memalign p n) => some ((p, n) :: live)
  | .effect (.free p) => if live.any (·.1 == p) then some (live.eraseP (·.1 == p)) else none
  | .effect (.store p t) =>
    if live.any (inBlock p (t.length * descEntrySize)) then some live else none
  | .effect (.cleanInvalidate p n) => if live.any (inBlock p n) then some live else none
  | _ => some live

theorem allocStep_keeps {x : Access} (hx : x.Passive ∨ x.IsAck ∨ x = lineReset ∨ x.Control) :
    Keeps allocStep x := fun _ ↦ by
  rcases hx with hx | hx | rfl | hx
  · rcases x with _ | _ | ⟨_ | _⟩ <;> first | rfl | exact hx.elim
  · rcases hx with rfl | rfl <;> rfl
  · rfl
  · rcases x with _ | _ | ⟨_ | _ | _ | _ | _ | _ | _ | _ | _ | _ | _ | _⟩ <;>
      first | rfl | exact hx.elim

theorem allocStep_offHost {x : Access} (hx : x.OffHost) : Keeps allocStep x := fun _ ↦ by
  rcases x with ⟨_, _ | _ | _ | _, _⟩ | ⟨_, _ | _ | _ | _, _⟩ | e
  all_goals first | exact False.elim hx | rfl | (cases hx; rfl)

theorem allocStep_inBlock_head {p n a len : Nat} {live : List (Nat × Nat)}
    (h : inBlock a len (p, n) = true) : (((p, n) :: live).any (inBlock a len)) = true := by
  simp [h]

theorem allocStep_free_head (p n : Nat) (live : List (Nat × Nat)) :
    allocStep ((p, n) :: live) (.effect (.free p)) = some live := by
  simp [allocStep, List.eraseP_cons_of_pos]

/-- sdhci_prep_desc_table stores and cleans its table only inside the block it allocates,
which it leaves live. -/
theorem sdhciPrepDescTable_allocStep (data len : Nat) (live : List (Nat × Nat)) :
    (sdhciPrepDescTable data len).Watch allocStep live fun p s ↦
      p ≠ 0 ∧ ∃ n, s = (p, n) :: live := by
  unfold sdhciPrepDescTable
  split
  all_goals
    refine fun p ↦ ⟨_, rfl, ?_⟩
    simp only [Prog.bind_ret_left, allocCheck_bind, emit_bind]
    by_cases hp : p = 0
    · rw [if_pos hp]
      exact ⟨_, rfl, trivial⟩
    rw [if_neg hp]
  · rename_i hle
    refine ⟨_, if_pos (allocStep_inBlock_head ?_), _, if_pos (allocStep_inBlock_head ?_), _,
      if_pos (allocStep_inBlock_head ?_), hp, _, rfl⟩ <;>
      simp [inBlock, descTable_length, hle, descEntrySize]
  · rename_i hgt
    refine ⟨_, if_pos (allocStep_inBlock_head ?_), _, if_pos (allocStep_inBlock_head ?_), hp, _,
      rfl⟩ <;>
      simp [inBlock, descTable_length, hgt]

/-- The heap after the issue of a command: the table's block added for a data command. -/
def IssuedHeap (live : List (Nat × Nat)) (sg : Nat) (s : List (Nat × Nat)) : Prop :=
  sg = 0 ∧ s = live ∨ sg ≠ 0 ∧ ∃ n, s = (sg, n) :: live

theorem sdhciIssueCommand_allocStep (cfg : Config) (cmd : MmcCommand) (respType : Nat)
    (live : List (Nat × Nat)) :
    (sdhciIssueCommand cfg cmd respType).Watch allocStep live fun sg s ↦ IssuedHeap live sg s := by
  simp only [sdhciIssueCommand, writeReg_bind]
  refine ⟨live, rfl, watch_bind (Watch.mono (Q := fun sg s ↦ IssuedHeap live sg s) ?_
    fun _ s hs ↦ ⟨s, rfl, s, rfl, hs⟩)⟩
  split
  · exact (sdhciAdmaTransfer_watch (sdhciPrepDescTable_allocStep _ _ live)
      fun _ _ _ _ _ _ _ _ ↦ rfl).mono fun _ _ h ↦ .inr h
  · exact .inl ⟨rfl, rfl⟩

/-- Every run of sdhci_send_command frees only live blocks, and one that succeeds frees the
table it allocated: the heap is as the run found it. -/
theorem sdhciSendCommand_allocStep (cfg : Config) (fuel : Nat) (cmd : MmcCommand)
    (live : List (Nat × Nat)) :
    (sdhciSendCommand cfg fuel cmd).Watch allocStep live fun r s ↦ r.1 = 0 → s = live :=
  have hk : ∀ x, x.Passive ∨ x.IsAck ∨ x = lineReset ∨ x.Control → Keeps allocStep x :=
    fun _ ↦ allocStep_keeps
  sdhciSendCommand_watch (F := (· = live)) (R := fun sg s ↦ IssuedHeap live sg s)
    ((watch_of_keeps (pollLoop_only fun _ h ↦ hk _ (.inl h)) live).mono fun _ _ h _ ↦ h)
    (fun _ s ↦ ⟨s, hk (.effect (.dprintf _)) (.inl trivial) s⟩) (fun _ h ↦ absurd h one_ne_zero)
    (fun _ respType hs ↦ hs ▸ sdhciIssueCommand_allocStep cfg cmd respType live)
    fun s sg hs ↦ sdhciFinishCommand_watch (R := (IssuedHeap live sg ·))
      ((watch_of_keeps (sdhciCmdComplete_only (fun _ h ↦ hk _ (.inl h))
        (fun _ h ↦ hk _ (.inr (.inl h))) (hk _ (.inr (.inr (.inl rfl)))) cfg fuel cmd) s).mono
        fun _ _ h ↦ h ▸ hs)
      (fun s _ _ h ↦ ⟨s, rfl, h⟩)
      (fun s h hsg ↦ by
        obtain ⟨h0, -⟩ | ⟨-, n, rfl⟩ := h
        · exact absurd h0 hsg
        · exact ⟨live, allocStep_free_head sg n live, rfl⟩)
      fun s h hsg ↦ by
        obtain ⟨-, rfl⟩ | ⟨h0, -⟩ := h
        · rfl
        · exact absurd hsg h0

/-- `pre` holds a read of the present state that showed the CMD and DAT lines free, and
after it no other read of the present state and no write that reaches the command
register. -/
def FreedSince (pre : List Access) : Prop :=
  ∃ pre₁ n u mid, pre = pre₁ ++ .read n (.hc sdhciPresentStateReg) u :: mid ∧
    u &&& sdhciStateCmdDatMask = 0 ∧
    ∀ x ∈ mid, (∀ n u, x ≠ .read n (.hc sdhciPresentStateReg) u) ∧
      ∀ n a v, x = .write n (.hc a) v → overlaps a n sdhciCmdReg 16 = false

theorem issueStep_eq_some_true {s : Bool} {x : Access} (h : issueStep s x = some true) :
    (∃ n u, x = .read n (.hc sdhciPresentStateReg) u ∧ u &&& sdhciStateCmdDatMask = 0) ∨
      s = true ∧ (∀ n u, x ≠ .read n (.hc sdhciPresentStateReg) u) ∧
        ∀ n a v, x = .write n (.hc a) v → overlaps a n sdhciCmdReg 16 = false := by
  rcases x with ⟨n, a, u⟩ | ⟨n, a, v⟩ | e
  · by_cases ha : a = .hc sdhciPresentStateReg
    · subst ha
      exact .inl ⟨n, u, rfl, by simpa [issueStep] using h⟩
    · simp only [issueStep, if_neg ha, Option.some.injEq] at h
      exact .inr ⟨h, fun _ _ h' ↦ ha (by cases h'; rfl), fun _ _ _ h' ↦ (nomatch h')⟩
  · refine .inr ?_
    cases a with
    | hc a =>
      have hs : s = true ∧ overlaps a n sdhciCmdReg 16 = false := by
        simp only [issueStep] at h
        split_ifs at h <;> cases s <;> simp_all
      exact ⟨hs.1, fun _ _ h' ↦ (nomatch h'), fun _ _ _ h' ↦ by cases h'; exact hs.2⟩
    | _ =>
      simp only [issueStep, Option.some.injEq] at h
      exact ⟨h, fun _ _ h' ↦ (nomatch h'), fun _ _ _ h' ↦ (nomatch h')⟩
  · simp only [issueStep, Option.some.injEq] at h
    exact .inr ⟨h, fun _ _ h' ↦ (nomatch h'), fun _ _ _ h' ↦ (nomatch h')⟩

/-- The issue monitor is ready exactly after such a read: a stretch it takes to `true`
either holds one, or starts ready and holds no present-state read or command write. -/
theorem issueStep_foldlM_true {pre : List Access} {s : Bool}
    (h : pre.foldlM issueStep s = some true) :
    FreedSince pre ∨ s = true ∧ ∀ x ∈ pre, (∀ n u, x ≠ .read n (.hc sdhciPresentStateReg) u) ∧
      ∀ n a v, x = .write n (.hc a) v → overlaps a n sdhciCmdReg 16 = false := by
  induction pre generalizing s with
  | nil => exact .inr ⟨Option.some.inj h, by simp⟩
  | cons x rest ih =>
    rw [List.foldlM_cons] at h
    obtain ⟨s₁, h₁, hrest⟩ := Option.bind_eq_some.1 h
    rcases ih hrest with ⟨pre₁, n, u, mid, rfl, hu, hmid⟩ | ⟨rfl, hclean⟩
    · exact .inl ⟨x :: pre₁, n, u, mid, rfl, hu, hmid⟩
    · rcases issueStep_eq_some_true h₁ with ⟨n, u, rfl, hu⟩ | ⟨hs, hx⟩
      · exact .inl ⟨[], n, u, rest, rfl, hu, hclean⟩
      · exact .inr ⟨hs, List.forall_mem_cons.2 ⟨hx, hclean⟩⟩

theorem issueStep_issueWrite {s : Bool} {x : Access} (hx : x.IsIssueWrite)
    (h : (issueStep s x).isSome) : s = true := by
  rcases x with _ | ⟨n, _ | _ | _ | _, v⟩ | _ <;> try exact hx.elim
  simp only [Access.IsIssueWrite, issueSpan, Bool.or_eq_true] at hx
  simp only [issueStep] at h
  split_ifs at h <;> cases s <;> simp_all

/-- Every entry point but sdhci_init and sdhci_send_command writes no byte of a register of
a command. -/
theorem DriverCall.run_issueStep (cfg : Config) (fuel : Nat) (host : SdhciHost)
    (c : DriverCall) (hc : c ≠ .init) (s : Bool) :
    (c.run cfg fuel host).Watch issueStep s fun _ _ ↦ True := by
  cases c with
  | init => exact absurd rfl hc
  | sendCommand cmd =>
    exact watch_bind ((sdhciSendCommand_issueStep cfg fuel cmd s).mono fun _ _ _ ↦ trivial)
  | _ =>
    exact watch_of_allows ((DriverCall.run_writes cfg fuel host _ fun _ h ↦ by cases h).mono
      fun _ hx ↦ issueStep_allows (hx.not_issueWrite (by
        simp only [DriverCall.hostWrites]; decide))) s

/-- On every controller, in every run of every session of driver calls after sdhci_init,
wherever the power interrupt comes, each write that reaches a byte of the command register
or of a register of a command (timeout, argument, block size, block count, argument 2,
ADMA address, transfer mode) comes after a read of the present state that showed Command
Inhibit (CMD) and (DAT) clear, with no other present-state read and no command write in
between. -/
theorem session_issues_after_free_lines {σ : Type} (D : Device σ) (w : World σ) (cfg : Config)
    (fuel : Nat) (host : SdhciHost) (calls : List DriverCall) (irqs : Nat → Option Nat)
    (hinit : DriverCall.init ∉ calls) :
    ∃ t, ((irqSession cfg fuel host calls irqs).run D w).2.trace = w.trace ++ t ∧
      ∀ pre x post, t = pre ++ x :: post → x.IsIssueWrite → FreedSince pre := by
  obtain ⟨t, ht, hacc⟩ := session_accepts
    (fun host c (hc : c ∈ calls) s ↦ DriverCall.run_issueStep cfg fuel host c
      (fun h ↦ hinit (h ▸ hc)) s)
    (fun _ ↦ issueStep_offHost) D w host irqs false
  refine ⟨t, ht, fun pre x post hsplit hx ↦ ?_⟩
  rw [hsplit, List.foldlM_append] at hacc
  obtain ⟨r, hr⟩ := Option.isSome_iff_exists.1 hacc
  obtain ⟨s₁, hs₁, hrest⟩ := Option.bind_eq_some.1 hr
  rw [List.foldlM_cons] at hrest
  obtain ⟨s₂, hs₂, -⟩ := Option.bind_eq_some.1 hrest
  have hready := issueStep_issueWrite hx (by rw [hs₂]; rfl)
  subst hready
  rcases issueStep_foldlM_true hs₁ with h | ⟨h, -⟩
  · exact h
  · exact absurd h Bool.false_ne_true

theorem session_issues_after_free_lines_command :
    DriverCall.init ∉ [DriverCall.sendCommand statusCmd] ∧
      ∃ t, ((irqSession ⟨10000, 10000, 0, 64⟩ 1 ⟨0, ⟨0, 0, 0, 0, 0, 0, 0⟩⟩
          [.sendCommand statusCmd] fun _ ↦ none).run (fixedController fun _ ↦ 0)
          ⟨(), [], 1⟩).2.trace = [] ++ t ∧
        ∀ pre x post, t = pre ++ x :: post → x.IsIssueWrite → FreedSince pre :=
  ⟨by simp, session_issues_after_free_lines _ _ _ _ _ _ _ (by simp)⟩

theorem FreedSince.mem {pre : List Access} (h : FreedSince pre) :
    ∃ n u, Access.read n (.hc sdhciPresentStateReg) u ∈ pre := by
  obtain ⟨pre₁, n, u, mid, rfl, -⟩ := h
  exact ⟨n, u, by simp⟩

/-- On every controller, in every run of every session of driver calls, wherever the power
interrupt comes, from any state of the monitor, every write to the normal interrupt status
clears only bits that the last read of it showed set and that no write has cleared
since. -/
theorem session_acks_only_seen_bits {σ : Type} (D : Device σ) (w : World σ) (cfg : Config)
    (fuel : Nat) (host : SdhciHost) (calls : List DriverCall) (irqs : Nat → Option Nat)
    (seen : Nat) :
    ∃ t, ((irqSession cfg fuel host calls irqs).run D w).2.trace = w.trace ++ t ∧
      (t.foldlM ackStep seen).isSome :=
  session_accepts (fun host c _ s ↦ callWatch_of_control
    (fun s cmd ↦ sdhciSendCommand_ackStep cfg fuel cmd s)
    (fun _ h ↦ ackStep_allows fun _ _ he ↦ by
      subst he
      exact h (by decide)) host c s) (fun _ ↦ ackStep_offHost) D w host irqs seen

/-- On every controller, in every run of every session of driver calls, wherever the power
interrupt comes, from any state of the monitor, the ADMA address register receives only
the address of the descriptor table stored last, after a clean of its whole range to
memory and before it is freed. -/
theorem session_adma_table_cleaned {σ : Type} (D : Device σ) (w : World σ) (cfg : Config)
    (fuel : Nat) (host : SdhciHost) (calls : List DriverCall) (irqs : Nat → Option Nat)
    (v : TableView) :
    ∃ t, ((irqSession cfg fuel host calls irqs).run D w).2.trace = w.trace ++ t ∧
      (t.foldlM tableStep v).isSome :=
  session_accepts (fun host c _ s ↦ callWatch_of_control
    (fun s cmd ↦ sdhciSendCommand_tableStep cfg fuel cmd s)
    (fun _ h ↦ tableStep_allows fun _ _ he ↦ by
      subst he
      exact h (by decide)) host c s) (fun _ ↦ tableStep_offHost) D w host irqs v

/-- On every controller, in every run of every session of driver calls, wherever the power
interrupt comes, whatever blocks are live before it, every free frees a live block, at
most once, and the descriptor table is stored and cleaned only inside a live block. -/
theorem session_frees_only_live_blocks {σ : Type} (D : Device σ) (w : World σ) (cfg : Config)
    (fuel : Nat) (host : SdhciHost) (calls : List DriverCall) (irqs : Nat → Option Nat)
    (live : List (Nat × Nat)) :
    ∃ t, ((irqSession cfg fuel host calls irqs).run D w).2.trace = w.trace ++ t ∧
      (t.foldlM allocStep live).isSome :=
  session_accepts (fun host c _ s ↦ callWatch_of_control
    (fun s cmd ↦ (sdhciSendCommand_allocStep cfg fuel cmd s).mono fun _ _ _ ↦ trivial)
    (fun _ h s ↦ ⟨s, allocStep_keeps (.inr (.inr (.inr h))) s⟩) host c s)
    (fun _ ↦ allocStep_offHost) D w host irqs live

/-- On every controller, wherever the power interrupt comes, every run of
sdhci_send_command frees only live blocks and stores and cleans only inside them, and a run
that returns 0 frees every block it allocates: the live blocks are those before it. -/
theorem sdhciSendCommand_success_frees_table {σ : Type} (D : Device σ) (w : World σ)
    (cfg : Config) (fuel : Nat) (cmd : MmcCommand) (irqs : Nat → Option Nat)
    (live : List (Nat × Nat)) :
    ∃ t live', (((sdhciSendCommand cfg fuel cmd).preempt powerIrq irqs).run D w).2.trace =
        w.trace ++ t ∧ t.foldlM allocStep live = some live' ∧
      ∀ r, (((sdhciSendCommand cfg fuel cmd).preempt powerIrq irqs).run D w).1 = .ok r →
        r.1 = 0 → live' = live :=
  run_watch D (watch_preempt (fun ack ↦ (powerIrq_offHost ack).mono fun _ ↦ allocStep_offHost)
    (sdhciSendCommand_allocStep cfg fuel cmd live) irqs) w

end Sdhci
