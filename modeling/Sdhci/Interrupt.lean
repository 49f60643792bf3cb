import Sdhci.Session

namespace Sdhci

open Prog

/-- Two worlds of the ideal controller that differ at most in the acknowledgement
register (and in their traces). -/
def SameBut (w w' : World (Addr → Nat)) : Prop :=
  (∀ a, a ≠ .pwrctlCtl → w.dev a = w'.dev a) ∧ w.brk = w'.brk

def Access.NotAckRead : Access → Prop
  | .read _ a _ => a ≠ .pwrctlCtl
  | _ => True

namespace SameBut

variable {w w' w'' : World (Addr → Nat)}

theorem refl (w : World (Addr → Nat)) : SameBut w w := ⟨fun _ _ ↦ rfl, rfl⟩

theorem trans (h : SameBut w w') (h' : SameBut w' w'') : SameBut w w'' :=
  ⟨fun a ha ↦ (h.1 a ha).trans (h'.1 a ha), h.2.trans h'.2⟩

theorem record (h : SameBut w w') (x : Access) :
    SameBut (w.record registerFile x) (w'.record registerFile x) := by
  refine ⟨fun b hb ↦ ?_, h.2⟩
  rcases x with _ | ⟨n, a, v⟩ | _
  · exact h.1 b hb
  · by_cases hab : b = a
    · subst hab
      simp [World.record]
    · simp [World.record, Function.update_noteq hab, h.1 b hb]
  · exact h.1 b hb

theorem answer (h : SameBut w w') {a : Addr} (ha : a ≠ .pwrctlCtl) (n : Nat) :
    registerFile.answer w.dev n a = registerFile.answer w'.dev n a := by
  simp only [registerFile, h.1 a ha]

end SameBut

/-- The power interrupt on the ideal controller returns and changes only the
acknowledgement register. -/
theorem powerIrq_run_registerFile (ack : Nat) (w : World (Addr → Nat)) :
    ((powerIrq ack).run registerFile w).1 = .ok () ∧
      SameBut ((powerIrq ack).run registerFile w).2 w := by
  refine ⟨rfl, fun a ha ↦ ?_, rfl⟩
  simp [powerIrq, sdhciIntHandler, Prog.run, World.record, Function.update_noteq ha]

theorem run_irqAt_registerFile {α : Type} (p : Prog α) (o : Option Nat) (w : World (Addr → Nat)) :
    ∃ w₁, SameBut w₁ w ∧ (irqAt powerIrq p o).run registerFile w = p.run registerFile w₁ := by
  cases o with
  | none => exact ⟨w, SameBut.refl w, rfl⟩
  | some ack =>
    obtain ⟨hr, hs⟩ := powerIrq_run_registerFile ack w
    exact ⟨_, hs, run_bind_ok _ hr _⟩

/-- On a controller that keeps what is written, the power interrupt, wherever it comes,
changes neither what a program that never reads the acknowledgement register returns nor
any register but that one. -/
theorem run_preempt_registerFile {α : Type} {p : Prog α} (hp : p.Only Access.NotAckRead)
    (irqs : Nat → Option Nat) {w w' : World (Addr → Nat)} (h : SameBut w w') :
    ((p.preempt powerIrq irqs).run registerFile w).1 = (p.run registerFile w').1 ∧
      SameBut ((p.preempt powerIrq irqs).run registerFile w).2 (p.run registerFile w').2 := by
  induction p generalizing irqs w w' with
  | ret a => exact ⟨rfl, h⟩
  | halt e => exact ⟨rfl, h⟩
  | read n a k ih =>
    obtain ⟨w₁, h₁, hrun⟩ := run_irqAt_registerFile
      (read n a fun v ↦ (k v).preempt powerIrq fun i ↦ irqs (i + 1)) (irqs 0) w
    have hw := h₁.trans h
    rw [preempt, hrun, run, run, hw.answer (hp 0).1]
    exact ih _ (hp _).2 _ (hw.record _)
  | write n a v k ih =>
    obtain ⟨w₁, h₁, hrun⟩ := run_irqAt_registerFile
      (write n a v (k.preempt powerIrq fun i ↦ irqs (i + 1))) (irqs 0) w
    rw [preempt, hrun, run, run]
    exact ih hp.2 _ ((h₁.trans h).record _)
  | effect e k ih =>
    obtain ⟨w₁, h₁, hrun⟩ := run_irqAt_registerFile
      (effect e (k.preempt powerIrq fun i ↦ irqs (i + 1))) (irqs 0) w
    rw [preempt, hrun, run, run]
    exact ih hp.2 _ ((h₁.trans h).record _)
  | memalign n k ih =>
    obtain ⟨w₁, h₁, hrun⟩ := run_irqAt_registerFile
      (Prog.memalign n fun q ↦ (k q).preempt powerIrq fun i ↦ irqs (i + 1)) (irqs 0) w
    have hw := h₁.trans h
    rw [preempt, hrun, run, run, hw.2]
    exact ih _ (hp _).2 _ ⟨(hw.record (.effect (.memalign w'.brk n))).1, rfl⟩

end Sdhci
