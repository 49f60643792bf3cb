import Sdhci.Poll

namespace Sdhci

namespace Prog

variable {α β μ σ : Type} (m : μ → Access → Option μ)

/-- From monitor state `s`, the monitor `m` accepts every access `p` can make, whatever
the controller answers, and a return of `a` leaves it in a state satisfying `Q a`. -/
def Watch : Prog α → μ → (α → μ → Prop) → Prop
  | ret a, s, Q => Q a s
  | halt _, _, _ => True
  | read n a k, s, Q => ∀ v, ∃ s', m s (.read n a v) = some s' ∧ (k v).Watch s' Q
  | write n a v k, s, Q => ∃ s', m s (.write n a (v % 2 ^ n)) = some s' ∧ k.Watch s' Q
  | effect e k, s, Q => ∃ s', m s (.effect e) = some s' ∧ k.Watch s' Q
  | memalign n k, s, Q => ∀ p, ∃ s', m s (.effect (.memalign p n)) = some s' ∧ (k p).Watch s' Q

variable {m}

theorem watch_bind {p : Prog α} {f : α → Prog β} {s : μ} {Q : β → μ → Prop}
    (hp : p.Watch m s fun a s' ↦ (f a).Watch m s' Q) : (p >>= f).Watch m s Q := by
  induction p generalizing s with
  | ret a => exact hp
  | halt h => trivial
  | read n a k ih => exact fun v ↦ (hp v).imp fun _ h ↦ ⟨h.1, ih v h.2⟩
  | write n a v k ih => exact hp.imp fun _ h ↦ ⟨h.1, ih h.2⟩
  | effect e k ih => exact hp.imp fun _ h ↦ ⟨h.1, ih h.2⟩
  | memalign n k ih => exact fun q ↦ (hp q).imp fun _ h ↦ ⟨h.1, ih q h.2⟩

theorem Watch.mono {p : Prog α} {s : μ} {Q Q' : α → μ → Prop} (hp : p.Watch m s Q)
    (h : ∀ a s, Q a s → Q' a s) : p.Watch m s Q' := by
  induction p generalizing s with
  | ret a => exact h a s hp
  | halt e => trivial
  | read n a k ih => exact fun v ↦ (hp v).imp fun _ h ↦ ⟨h.1, ih v h.2⟩
  | write n a v k ih => exact hp.imp fun _ h ↦ ⟨h.1, ih h.2⟩
  | effect e k ih => exact hp.imp fun _ h ↦ ⟨h.1, ih h.2⟩
  | memalign n k ih => exact fun q ↦ (hp q).imp fun _ h ↦ ⟨h.1, ih q h.2⟩

theorem watch_of_only {P : Access → Prop} {I : μ → Prop} {p : Prog α} (hp : p.Only P)
    (hm : ∀ s x, P x → I s → ∃ s', m s x = some s' ∧ I s') {s : μ} (hs : I s) :
    p.Watch m s fun _ ↦ I := by
  induction p generalizing s with
  | ret a => exact hs
  | halt e => trivial
  | read n a k ih =>
    exact fun v ↦ (hm s _ (hp v).1 hs).imp fun _ h ↦ ⟨h.1, ih v (hp v).2 h.2⟩
  | write n a v k ih => exact (hm s _ hp.1 hs).imp fun _ h ↦ ⟨h.1, ih hp.2 h.2⟩
  | effect e k ih => exact (hm s _ hp.1 hs).imp fun _ h ↦ ⟨h.1, ih hp.2 h.2⟩
  | memalign n k ih =>
    exact fun q ↦ (hm s _ (hp q).1 hs).imp fun _ h ↦ ⟨h.1, ih q (hp q).2 h.2⟩

def Allows (m : μ → Access → Option μ) (x : Access) : Prop := ∀ s, ∃ s', m s x = some s'

def Keeps (m : μ → Access → Option μ) (x : Access) : Prop := ∀ s, m s x = some s

theorem watch_of_allows {p : Prog α} (hp : p.Only (Allows m)) (s : μ) :
    p.Watch m s fun _ _ ↦ True :=
  watch_of_only hp (fun s _ hx _ ↦ (hx s).imp fun _ h ↦ ⟨h, trivial⟩) trivial

theorem watch_of_keeps {p : Prog α} (hp : p.Only (Keeps m)) (s : μ) :
    p.Watch m s fun _ s' ↦ s' = s :=
  watch_of_only hp (fun s _ hx hs ↦ ⟨s, hx s, hs⟩) rfl

/-- Every run of a watched program adds to the trace accesses the monitor accepts in
turn, and a run that returns `a` leaves the monitor in a state satisfying `Q a`. -/
theorem run_watch (D : Device σ) {p : Prog α} {s : μ} {Q : α → μ → Prop} (hp : p.Watch m s Q)
    (w : World σ) : ∃ t s', (p.run D w).2.trace = w.trace ++ t ∧ t.foldlM m s = some s' ∧
      ∀ a, (p.run D w).1 = .ok a → Q a s' := by
  induction p generalizing s w with
  | ret a => exact ⟨[], s, by simp, rfl, fun _ h ↦ by cases h; exact hp⟩
  | halt h => exact ⟨[], s, by simp, rfl, fun _ h ↦ by cases h⟩
  | read n a k ih =>
    obtain ⟨s₁, h₁, hk⟩ := hp (D.answer w.dev n a % 2 ^ n)
    obtain ⟨t, s', ht, hf, hQ⟩ := ih _ hk (w.record D (.read n a _))
    exact ⟨_ :: t, s', by simpa [run] using ht, by rw [List.foldlM_cons, h₁]; exact hf, hQ⟩
  | write n a v k ih =>
    obtain ⟨s₁, h₁, hk⟩ := hp
    obtain ⟨t, s', ht, hf, hQ⟩ := ih hk (w.record D _)
    exact ⟨_ :: t, s', by simpa [run] using ht, by rw [List.foldlM_cons, h₁]; exact hf, hQ⟩
  | effect e k ih =>
    obtain ⟨s₁, h₁, hk⟩ := hp
    obtain ⟨t, s', ht, hf, hQ⟩ := ih hk (w.record D _)
    exact ⟨_ :: t, s', by simpa [run] using ht, by rw [List.foldlM_cons, h₁]; exact hf, hQ⟩
  | memalign n k ih =>
    obtain ⟨s₁, h₁, hk⟩ := hp w.brk
    obtain ⟨t, s', ht, hf, hQ⟩ := ih _ hk { w.record D (.effect (.memalign w.brk n)) with
      brk := w.brk + n + 1 }
    exact ⟨_ :: t, s', by simpa [run] using ht, by rw [List.foldlM_cons, h₁]; exact hf, hQ⟩

section Preempt

variable {ν : Type} {irq : ν → Prog Unit}

def irqAt (irq : ν → Prog Unit) (p : Prog α) : Option ν → Prog α
  | none => p
  | some x => irq x >>= fun _ ↦ p

/-- `p` under interrupts: before its `i`-th access the handler `irq x` runs when
`sched i = some x`. Handlers run with interrupts masked and are not preempted. -/
def preempt (irq : ν → Prog Unit) : (Nat → Option ν) → Prog α → Prog α
  | _, ret a => ret a
  | sched, read n a k => irqAt irq (read n a fun v ↦ preempt irq (fun i ↦ sched (i + 1)) (k v)) (sched 0)
  | sched, write n a v k => irqAt irq (write n a v (preempt irq (fun i ↦ sched (i + 1)) k)) (sched 0)
  | sched, effect e k => irqAt irq (effect e (preempt irq (fun i ↦ sched (i + 1)) k)) (sched 0)
  | sched, memalign n k =>
    irqAt irq (memalign n fun q ↦ preempt irq (fun i ↦ sched (i + 1)) (k q)) (sched 0)
  | _, halt h => halt h

theorem watch_irqAt (hirq : ∀ x, (irq x).Only (Keeps m)) {p : Prog α} {s : μ}
    {Q : α → μ → Prop} (hp : p.Watch m s Q) : ∀ o, (irqAt irq p o).Watch m s Q
  | none => hp
  | some x => watch_bind ((watch_of_keeps (hirq x) s).mono fun _ _ h ↦ h ▸ hp)

/-- A handler whose every access the monitor keeps changes nothing the monitor says of a
program, wherever the interrupts come. -/
theorem watch_preempt (hirq : ∀ x, (irq x).Only (Keeps m)) {p : Prog α} {s : μ}
    {Q : α → μ → Prop} (hp : p.Watch m s Q) (sched : Nat → Option ν) :
    (p.preempt irq sched).Watch m s Q := by
  induction p generalizing s sched with
  | ret a => exact hp
  | halt h => trivial
  | read n a k ih =>
    refine watch_irqAt hirq ?_ _
    exact fun v ↦ (hp v).imp fun _ h ↦ ⟨h.1, ih v h.2 _⟩
  | write n a v k ih =>
    refine watch_irqAt hirq ?_ _
    exact hp.imp fun _ h ↦ ⟨h.1, ih h.2 _⟩
  | effect e k ih =>
    refine watch_irqAt hirq ?_ _
    exact hp.imp fun _ h ↦ ⟨h.1, ih h.2 _⟩
  | memalign n k ih =>
    refine watch_irqAt hirq ?_ _
    exact fun q ↦ (hp q).imp fun _ h ↦ ⟨h.1, ih q h.2 _⟩

end Preempt

end Prog

open Prog

variable {μ : Type} {m : μ → Access → Option μ}

theorem pollLoop_watch {I F : μ → Prop} {w : Nat} {a : Addr} {done : Nat → Bool}
    {bits bound us : Nat}
    (hread : ∀ s v, I s → ∃ s', m s (.read w a v) = some s' ∧ I s' ∧ (done v = true → F s'))
    (hdelay : ∀ s, I s → ∃ s', m s (.effect (.udelay us)) = some s' ∧ I s') (fuel r : Nat)
    {s : μ} (hs : I s) :
    (pollLoop w a done bits bound us fuel r).Watch m s fun b s' ↦ I s' ∧ (b = true → F s') := by
  induction fuel generalizing r s with
  | zero => trivial
  | succ fuel ih =>
    rw [pollLoop_succ]
    intro v
    obtain ⟨s₁, h₁, hI₁, hF₁⟩ := hread s v hs
    refine ⟨s₁, h₁, ?_⟩
    dsimp only
    split
    case isTrue hd => exact ⟨hI₁, fun _ ↦ hF₁ hd⟩
    case isFalse =>
      obtain ⟨s₂, h₂, hI₂⟩ := hdelay s₁ hI₁
      refine ⟨s₂, h₂, ?_⟩
      split
      · exact ⟨hI₂, nofun⟩
      · exact ih _ hI₂

theorem spinUntil_watch {I F : μ → Prop} {w : Nat} {a : Addr} {done : Nat → Bool}
    (hread : ∀ s v, I s → ∃ s', m s (.read w a v) = some s' ∧ I s' ∧ (done v = true → F s'))
    (fuel : Nat) {s : μ} (hs : I s) : (spinUntil w a done fuel).Watch m s fun _ ↦ F := by
  induction fuel generalizing s with
  | zero => trivial
  | succ fuel ih =>
    rw [spinUntil, readReg_bind]
    intro v
    obtain ⟨s₁, h₁, hI₁, hF₁⟩ := hread s v hs
    refine ⟨s₁, h₁, ?_⟩
    dsimp only
    split
    case isTrue hd => exact hF₁ hd
    case isFalse => exact ih hI₁

end Sdhci
