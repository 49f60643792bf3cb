import Sdhci.Protocol

namespace Sdhci

open Prog

/-- How far a data command has programmed its transfer: BLK_CNT written, a descriptor
table stored, the command register written. -/
structure TransferView where
  counted : Bool
  stored : Bool
  issued : Bool

/-- The order sdhci_send_command keeps for a data command: the command register is written
only once BLK_CNT is written and a descriptor table stored. -/
def transferStep (v : TransferView) : Access → Option TransferView
  | .write _ (.hc a) _ =>
    if a = sdhciBlkCntReg then some { v with counted := true }
    else if a = sdhciCmdReg then
      (if v.counted && v.stored then some { v with issued := true } else none)
    else some v
  | .effect (.store _ _) => some { v with stored := true }
  | _ => some v

theorem transferStep_keeps {x : Access}
    (hx : x.Passive ∨ x.IsAck ∨ x = lineReset ∨ (∃ a n, x = .effect (.invalidate a n)) ∨
      ∃ p, x = .effect (.free p)) : Keeps transferStep x := fun _ ↦ by
  rcases hx with hx | (rfl | rfl) | rfl | ⟨_, _, rfl⟩ | ⟨_, rfl⟩
  · rcases x with _ | _ | ⟨_ | _⟩ <;> first | rfl | exact hx.elim
  all_goals rfl

theorem transferStep_some {v v₁ : TransferView} {x : Access} (h : transferStep v x = some v₁) :
    (v₁.counted = true → v.counted = true ∨ ∃ n u, x = .write n (.hc sdhciBlkCntReg) u) ∧
      (v₁.stored = true → v.stored = true ∨ ∃ sg tab, x = .effect (.store sg tab)) ∧
      (v₁.issued = true → v.issued = true ∨ ∃ n u, x = .write n (.hc sdhciCmdReg) u) := by
  rcases x with _ | ⟨n, _ | _ | _ | _, u⟩ | ⟨_ | _ | _ | _ | sg | _ | _ | _ | _ | _ | _ | _⟩
  case write.hc a =>
    simp only [transferStep] at h
    split_ifs at h with h1 h2 <;> cases h
    · exact ⟨fun _ ↦ .inr ⟨n, u, h1 ▸ rfl⟩, .inl, .inl⟩
    · exact ⟨.inl, .inl, fun _ ↦ .inr ⟨n, u, h2 ▸ rfl⟩⟩
    · exact ⟨.inl, .inl, .inl⟩
  case effect.store tab =>
    cases h
    exact ⟨.inl, fun _ ↦ .inr ⟨sg, tab, rfl⟩, .inl⟩
  all_goals cases h; exact ⟨.inl, .inl, .inl⟩

/-- Over a stretch of a run, a flag is raised only by an access in it that raises it. -/
theorem transferStep_foldlM {f : TransferView → Bool} {K : Access → Prop}
    (hK : ∀ {v v₁ x}, transferStep v x = some v₁ → f v₁ = true → f v = true ∨ K x)
    {t : List Access} {v v' : TransferView} (h : t.foldlM transferStep v = some v')
    (hv : f v' = true) : f v = true ∨ ∃ x ∈ t, K x := by
  induction t generalizing v with
  | nil =>
    cases Option.some.inj h
    exact .inl hv
  | cons x rest ih =>
    rw [List.foldlM_cons] at h
    obtain ⟨v₁, h₁, hrest⟩ := Option.bind_eq_some.1 h
    rcases ih hrest with h' | ⟨y, hy, hk⟩
    · exact (hK h₁ h').imp_right fun hk ↦ ⟨x, List.mem_cons_self _ _, hk⟩
    · exact .inr ⟨y, List.mem_cons_of_mem _ hy, hk⟩

theorem sdhciPrepDescTable_transferStep (data len : Nat) (v : TransferView) :
    (sdhciPrepDescTable data len).Watch transferStep v fun _ v' ↦
      v' = { v with stored := true } := by
  unfold sdhciPrepDescTable
  split
  all_goals
    refine fun p ↦ ⟨v, rfl, ?_⟩
    simp only [Prog.bind_ret_left, allocCheck_bind, emit_bind]
    by_cases hp : p = 0
    · rw [if_pos hp]
      exact ⟨v, rfl, trivial⟩
    rw [if_neg hp]
    exact ⟨_, rfl, _, rfl, by first | exact ⟨_, rfl, rfl⟩ | rfl⟩

theorem sdhciAdmaTransfer_transferStep (cfg : Config) (cmd : MmcCommand) (v : TransferView) :
    (sdhciAdmaTransfer cfg cmd).Watch transferStep v fun _ v' ↦
      v' = { v with counted := true, stored := true } := by
  refine watch_bind ((sdhciPrepDescTable_transferStep _ _ v).mono fun p v₁ h ↦ ?_)
  subst h
  simp only [writeReg_bind]
  refine ⟨_, rfl, watch_bind (Watch.mono (Q := fun _ v₂ ↦ v₂ = { v with stored := true }) ?_
    fun _ v₂ h ↦ ?_)⟩
  · split
    · exact ⟨_, rfl, rfl⟩
    · rfl
  · subst h
    exact ⟨_, rfl, _, rfl, _, rfl, rfl⟩

theorem sdhciIssueCommand_transferStep (cfg : Config) (cmd : MmcCommand) (respType : Nat)
    (hd : cmd.dataPresent ≠ 0) (v : TransferView) :
    (sdhciIssueCommand cfg cmd respType).Watch transferStep v fun _ v' ↦ v'.issued = true := by
  simp only [sdhciIssueCommand, writeReg_bind, if_pos hd]
  refine ⟨v, rfl, watch_bind ((sdhciAdmaTransfer_transferStep cfg cmd v).mono fun _ v₁ h ↦ ?_)⟩
  subst h
  exact ⟨_, rfl, _, rfl, rfl⟩

/-- For a data command, on every controller, sdhci_send_command writes the command register
only after BLK_CNT and a stored table, and a run that returns 0 has written it. -/
theorem sdhciSendCommand_transferStep (cfg : Config) (fuel : Nat) (cmd : MmcCommand)
    (hd : cmd.dataPresent ≠ 0) (v : TransferView) :
    (sdhciSendCommand cfg fuel cmd).Watch transferStep v fun r v' ↦ r.1 = 0 → v'.issued = true :=
  have hk : ∀ x, x.Passive ∨ x.IsAck ∨ x = lineReset → Keeps transferStep x :=
    fun _ h ↦ transferStep_keeps (h.imp_right fun h ↦ h.imp_right .inl)
  sdhciSendCommand_watch (F := fun _ ↦ True) (R := fun _ v' ↦ v'.issued = true)
    ((watch_of_keeps (pollLoop_only fun _ h ↦ hk _ (.inl h)) v).mono fun _ _ _ _ ↦ trivial)
    (fun _ s ↦ ⟨s, hk (.effect (.dprintf _)) (.inl trivial) s⟩) (fun _ h ↦ absurd h one_ne_zero)
    (fun _ respType _ ↦ sdhciIssueCommand_transferStep cfg cmd respType hd _)
    fun s _ hs ↦ sdhciFinishCommand_watch (R := (·.issued = true))
      ((watch_of_keeps (sdhciCmdComplete_only (fun _ h ↦ hk _ (.inl h))
        (fun _ h ↦ hk _ (.inr (.inl h))) (hk _ (.inr (.inr rfl))) cfg fuel cmd) s).mono
        fun _ _ h ↦ h ▸ hs)
      (fun s _ _ h ↦ ⟨s, rfl, h⟩) (fun s h _ ↦ ⟨s, rfl, h⟩) fun _ h _ ↦ h

end Sdhci
