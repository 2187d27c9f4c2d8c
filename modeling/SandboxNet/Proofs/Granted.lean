import SandboxNet.Proofs.Reclaim

/-! Programs of which no call is failed: no call to the host, no request for an image and no launch.
They do on the host what they do there without faults, so it can be told that they succeed. -/
namespace SandboxNet

variable {α β φ σ ι : Type} {b : Behaviour φ σ ι} {w : World φ σ ι} {P : Host → Prop}

/-- Whether a call is made in a world that lets it succeed: the host is not made to fail it, and
what is asked of the image store or for a launch is done. -/
def grants (b : Behaviour φ σ ι) (w : World φ σ ι) : LifecycleCall → Bool
  | .net c => (b.faults.strike c w.net.faults).1.isNone
  | .image name => (b.image name w.images).1.isOk
  | .supervisor (.launch spec) => (b.supervise (.launch spec) w.clock w.supervisor).1.isOk
  | .supervisor _ | .now | .deadline _ | .sleep _ => true

/-- No call that the program makes is failed. -/
def Granted (b : Behaviour φ σ ι) (p : LifecycleProgram α) (w : World φ σ ι) : Prop :=
  ∀ made ∈ p.trace (World.answer b) w, grants b made.1 made.2 = true

instance (b : Behaviour φ σ ι) (p : LifecycleProgram α) (w : World φ σ ι) :
    Decidable (Granted b p w) :=
  inferInstanceAs (Decidable (∀ made ∈ p.trace (World.answer b) w, grants b made.1 made.2 = true))

/-- From every world whose host is as `P` says, if nothing is failed, the program ends with a host
as `Q` says. -/
def Achieves (b : Behaviour φ σ ι) (P : Host → Prop) (p : LifecycleProgram α)
    (Q : α → Host → Prop) : Prop :=
  ∀ w, Granted b p w → P w.net.host → Q (World.run b p w).1 (World.run b p w).2.net.host

/-- If nothing is failed, the program itself does not fail either. -/
def Succeeds (b : Behaviour φ σ ι) (P : Host → Prop) (p : ExceptT SandboxError LifecycleProgram α)
    (Q : α → Host → Prop) : Prop :=
  Achieves b P p.run fun r h => ∃ a, r = .ok a ∧ Q a h

theorem granted_bind {p : LifecycleProgram α} {f : α → LifecycleProgram β} :
    Granted b (p >>= f) w ↔
      Granted b p w ∧ Granted b (f (World.run b p w).1) (World.run b p w).2 := by
  simp only [Granted, Program.trace_bind, List.forall_mem_append, World.run]

theorem granted_map {p : LifecycleProgram α} {f : α → β} :
    Granted b (f <$> p) w ↔ Granted b p w := by
  simp only [Granted, Program.trace_map]

theorem Granted.unstruck {p : NetProgram α} (hg : Granted b (LifecycleProgram.onHost p) w) :
    Unstruck b.faults p w.net := by
  induction p generalizing w with
  | done a => exact fun _ hm => (by cases hm)
  | ask c next ih =>
    obtain ⟨hc, hrest⟩ := List.forall_mem_cons.mp hg
    intro made hm
    rcases List.mem_cons.mp hm with rfl | hm
    · exact Option.isNone_iff_eq_none.mp hc
    · exact ih _ hrest made hm

theorem Achieves.narrow {p : LifecycleProgram α} {P' : Host → Prop} {Q : α → Host → Prop}
    (hp : Achieves b P p Q) (h : ∀ h, P' h → P h) : Achieves b P' p Q :=
  fun w hg hw => hp w hg (h _ hw)

theorem Achieves.bind {p : LifecycleProgram α} {f : α → LifecycleProgram β} {R : α → Host → Prop}
    {Q : β → Host → Prop} (hp : Achieves b P p R) (hf : ∀ a, Achieves b (R a) (f a) Q) :
    Achieves b P (p >>= f) Q := by
  intro w hg hw
  obtain ⟨hgp, hgf⟩ := granted_bind.mp hg
  rw [run_bind]
  exact hf _ _ hgf (hp w hgp hw)

theorem Achieves.lift {p : LifecycleProgram α} {Q : α → Host → Prop} (hp : Achieves b P p Q) :
    Succeeds b P (liftM p) Q := by
  have hlift : (liftM p : ExceptT SandboxError LifecycleProgram α).run = Except.ok <$> p := rfl
  intro w hg hw
  rw [hlift] at hg ⊢
  rw [World.run, Program.run_map]
  exact ⟨_, rfl, hp w (granted_map.mp hg) hw⟩

theorem Succeeds.bind {p : ExceptT SandboxError LifecycleProgram α}
    {f : α → ExceptT SandboxError LifecycleProgram β} {R : α → Host → Prop}
    {Q : β → Host → Prop} (hp : Succeeds b P p R) (hf : ∀ a, Succeeds b (R a) (f a) Q) :
    Succeeds b P (p >>= f) Q := by
  refine Achieves.bind hp fun r => ?_
  rintro w hg ⟨a, rfl, hw⟩
  exact hf a w hg hw

theorem achieves_onHost {p : NetProgram α} {Q : α → Host → Prop}
    (hp : ∀ h, P h → Q (Host.run p h).1 (Host.run p h).2) :
    Achieves b P (LifecycleProgram.onHost p) Q := by
  intro w hg hw
  obtain ⟨hreply, hhost⟩ := hg.unstruck.run_eq
  rw [run_onHost, hreply, hhost]
  exact hp _ hw

theorem succeeds_wiring {p : Net α} {Q : α → Host → Prop}
    (hp : ∀ h, P h → ∃ a h', Host.run p.run h = (.ok a, h') ∧ Q a h') :
    Succeeds b P (Manager.wiring p) Q := by
  intro w hg hw
  obtain ⟨a, h', hrun, hq⟩ := hp _ hw
  obtain ⟨hreply, hhost⟩ := (granted_map.mp hg).unstruck.run_eq
  rw [hrun] at hreply hhost
  rw [Manager.run_wiring, hreply, hhost]
  exact ⟨a, rfl, hq⟩

theorem succeeds_image (name : SandboxName) :
    Succeeds b P (ExceptT.mk (LifecycleProgram.ask (.image name))) fun _ => P := by
  intro w hg hw
  have hok : (b.image name w.images).1.isOk = true := hg (w, .image name) List.mem_cons_self
  cases hr : (b.image name w.images).1 with
  | error e =>
    rw [hr] at hok
    cases hok
  | ok root => exact ⟨root, hr, hw⟩

theorem succeeds_launch (spec : UnitSpec) : Succeeds b P (Manager.launch spec) fun _ => P := by
  intro w hg hw
  have hok : (b.supervise (.launch spec) w.clock w.supervisor).1.isOk = true :=
    hg (w, .supervisor (.launch spec)) List.mem_cons_self
  cases hr : (b.supervise (.launch spec) w.clock w.supervisor).1 with
  | error e =>
    rw [hr] at hok
    cases hok
  | ok u =>
    refine ⟨(), ?_, hw⟩
    exact congrArg (·.mapError Manager.launchError) hr

end SandboxNet
