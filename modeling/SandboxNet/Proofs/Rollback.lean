import SandboxNet.Proofs.QuietRun

/-! A failed attachment. Whatever calls fail, the error is that of the step that failed; and if none
of the calls that undo the attachment fail, the host is as it was, up to the bridge and an empty
namespace. -/
namespace SandboxNet

variable {α φ σ : Type} {h h₁ h' base base' : Host} {bridge sandbox : String}

/-- No call that the program makes is made to fail. -/
def Unstruck (source : FaultSource φ) (p : NetProgram α) (w : NetWorld φ) : Prop :=
  ∀ made ∈ p.trace (NetWorld.answer source) w, (source.strike made.2 made.1.faults).1 = none

/-- Such a program does what it does on the host itself. -/
theorem Unstruck.run_eq {source : FaultSource φ} {p : NetProgram α} {w : NetWorld φ}
    (hu : Unstruck source p w) : (NetWorld.run source p w).1 = (Host.run p w.host).1 ∧
      (NetWorld.run source p w).2.host = (Host.run p w.host).2 := by
  induction p generalizing w with
  | done a => exact ⟨rfl, rfl⟩
  | ask c next ih =>
    have hs : (source.strike c w.faults).1 = none := hu (w, c) List.mem_cons_self
    have hrest : Unstruck source (next (NetWorld.answer source c w).1)
        (NetWorld.answer source c w).2 := fun made hm => hu made (List.mem_cons_of_mem _ hm)
    have hi := ih _ hrest
    simp only [NetWorld.run, Host.run, Program.run_ask] at hi ⊢
    rw [answer_unstruck hs] at hi ⊢
    exact hi

theorem Unstruck.run_host {source : FaultSource φ} {p : NetProgram α} {w : NetWorld φ}
    (hu : Unstruck source p w) : (NetWorld.run source p w).2.host = (Host.run p w.host).2 :=
  hu.run_eq.2

namespace Program

variable {I : Interface} {ε : Type} {answer : (c : I.Call) → σ → I.Reply c × σ}

/-- A sequence of steps fails with the error of the first that does. -/
theorem run_forM_eq_firstError? (steps : List (ExceptT ε (Program I) Unit)) (s : σ) :
    ((forM steps id : ExceptT ε (Program I) Unit).run.run answer s).1 =
      (firstError? answer steps s).elim (.ok ()) .error := by
  induction steps generalizing s with
  | nil => rfl
  | cons step rest ih =>
    rw [List.forM_cons, run_except_bind, firstError?, id]
    obtain ⟨r, s'⟩ := step.run.run answer s
    cases r with
    | ok u => exact ih s'
    | error e => rfl

end Program

namespace Attachment

/-- What an attachment does one after the other. -/
def steps (bridge sandbox : String) : List (Net Unit) :=
  [Net.ofExcept (NameRule.sandbox.check sandbox),
    Bridge.create bridge none,
    (fun _ => ()) <$> Namespace.ensure ("corral-" ++ sandbox),
    Veth.create ("vh-" ++ sandbox) "host0",
    Veth.attachTo ("vh-" ++ sandbox) (.bridge bridge),
    Bridge.setUp bridge true,
    Veth.attachTo "host0" (.netns ("corral-" ++ sandbox))]

theorem forM_steps (bridge sandbox : String) :
    forM (steps bridge sandbox) id = prepare bridge sandbox >>= connect bridge := by
  have hn : ∀ f : WireNames → Net Unit, Net.ofExcept (WireNames.forSandbox sandbox) >>= f =
      Net.ofExcept (NameRule.sandbox.check sandbox) >>= fun _ => f (.of sandbox) := by
    intro f
    cases hv : NameRule.sandbox.check sandbox with
    | ok u =>
      rw [forSandbox_eq_ok.mpr ⟨hv, rfl⟩]
      rfl
    | error e =>
      rw [forSandbox_eq_error.mpr hv]
      rfl
  simp only [prepare, bind_assoc, pure_bind, hn]
  simp only [steps, connect, List.forM_cons, List.forM_nil, bind_map_left, bind_pure_unit, id]
  rfl

/-- Undoing an attachment does not change what it replies. -/
theorem run_connectOrRollback (answer : (c : NetCall) → σ → Except NetError c.Answer × σ)
    (bridge : String) (names : WireNames) (s : σ) :
    (connectOrRollback bridge names).run.run answer s =
      match (connect bridge names).run.run answer s with
      | (.ok (), s') => (.ok (), s')
      | (.error e, s') => (.error e, ((rollback names).run answer s').2) := by
  have ha : (Net.attempt (connect bridge names)).run.run answer s =
      (.ok ((connect bridge names).run.run answer s).1,
        ((connect bridge names).run.run answer s).2) :=
    Program.run_map _ _ _
  rw [connectOrRollback, Program.run_except_bind, ha]
  generalize (connect bridge names).run.run answer s = connected
  obtain ⟨r, s'⟩ := connected
  cases r with
  | ok u => rfl
  | error e =>
    have hl : (liftM (rollback names) : Net Unit).run.run answer s' =
        (.ok (), ((rollback names).run answer s').2) :=
      Program.run_map _ _ _
    exact (Program.run_except_bind _ _ _).trans (by rw [hl]; rfl)

theorem attach_reply (answer : (c : NetCall) → σ → Except NetError c.Answer × σ)
    (bridge sandbox : String) (s : σ) :
    ((attach bridge sandbox).run.run answer s).1 =
      (Program.firstError? answer (steps bridge sandbox) s).elim (.ok ()) .error := by
  rw [← Program.run_forM_eq_firstError?, forM_steps, attach_eq, Program.run_except_bind,
    Program.run_except_bind]
  generalize (prepare bridge sandbox).run.run answer s = prepared
  obtain ⟨r, s'⟩ := prepared
  cases r with
  | ok names =>
    simp only [run_connectOrRollback]
    generalize (connect bridge names).run.run answer s' = connected
    obtain ⟨r, s''⟩ := connected
    cases r <;> rfl
  | error e => rfl

/-- Where undoing an attachment starts, if it comes to that. -/
def rollbackStart? (source : FaultSource φ) (bridge sandbox : String) (w : NetWorld φ) :
    Option (NetWorld φ) :=
  match NetWorld.run source (prepare bridge sandbox).run w with
  | (.error _, _) => none
  | (.ok names, w₁) =>
    match NetWorld.run source (connect bridge names).run w₁ with
    | (.ok (), _) => none
    | (.error _, w₂) => some w₂

/-- The host has all it had, but the bridge may have come up; besides, it may have a new bridge and
a new namespace with nothing but its loopback. -/
structure RolledBack (bridge sandbox : String) (h h' : Host) : Prop where
  kept : ∀ (id : LinkId) (l : Link), h.links[id]? = some l → h'.links[id]? = some l ∨
    (id = ⟨none, bridge⟩ ∧ l.device = .bridge ∧ h'.links[id]? = some (raised l))
  added : ∀ (id : LinkId) (l : Link), h'.links[id]? = some l → h.links[id]? = none →
    (id = ⟨none, bridge⟩ ∧ l.device = .bridge ∧ l.master = none ∧ l.addresses = []) ∨
    (id = innerLoopback sandbox ∧ l = .fresh .loopback ∧ "corral-" ++ sandbox ∉ h.netns ∧
      "corral-" ++ sandbox ∈ h'.netns)
  netns : h'.netns = h.netns ∨ h'.netns = h.netns.insert ("corral-" ++ sandbox)

namespace RolledBack

theorem refl (bridge sandbox : String) (h : Host) : RolledBack bridge sandbox h h := by
  refine ⟨fun _ _ hl => Or.inl hl, fun id l hl hnone => ?_, Or.inl rfl⟩
  rw [hnone] at hl
  cases hl

theorem of_addBridge (sandbox : String) (ok : h.addBridge bridge = .ok h₁) :
    RolledBack bridge sandbox h h₁ := by
  obtain ⟨hfree, rfl⟩ := Host.addBridge_eq_ok.mp ok
  refine ⟨fun id l hl => Or.inl ?_, fun id l hl hnone => ?_, Or.inl rfl⟩
  · have hid : id ≠ ⟨none, bridge⟩ := by
      rintro rfl
      rw [hfree] at hl
      cases hl
    rw [Host.links_insert, if_neg hid, hl]
  · rw [Host.links_insert] at hl
    split at hl
    · rename_i hid
      cases hl
      exact Or.inl ⟨hid, rfl, rfl, rfl⟩
    · rw [hnone] at hl
      cases hl

theorem addNamespace (hb : RolledBack bridge sandbox h h₁) (hc : h.Contained)
    (ok : h₁.addNamespace ("corral-" ++ sandbox) = .ok base) :
    RolledBack bridge sandbox h base := by
  obtain ⟨hnew, rfl⟩ := Host.addNamespace_eq_ok.mp ok
  have hnetns : h₁.netns = h.netns := by
    rcases hb.netns with he | he
    · exact he
    · simp [he] at hnew
  have hnone : "corral-" ++ sandbox ∉ h.netns := hnetns ▸ hnew
  refine ⟨fun id l hl => ?_, fun id l hl hfree => ?_, Or.inr (by rw [hnetns])⟩
  · have hid : id ≠ innerLoopback sandbox := by
      rintro rfl
      rw [hc.absent hnone] at hl
      cases hl
    rw [Host.links_insert, if_neg hid]
    exact hb.kept id l hl
  · rw [Host.links_insert] at hl
    split at hl
    · rename_i hid
      cases hl
      exact Or.inr ⟨hid, rfl, hnone, by simp⟩
    · obtain hbridge | ⟨_, _, _, hin⟩ := hb.added id l hl hfree
      · exact Or.inl hbridge
      · exact absurd hin hnew

theorem of_readied (hc : h.Contained) (hr : Readied bridge ("corral-" ++ sandbox) h base) :
    RolledBack bridge sandbox h base := by
  obtain ⟨h₁, hb, hn⟩ := hr
  have h₁b : RolledBack bridge sandbox h h₁ := by
    rcases hb with rfl | ok
    · exact refl bridge sandbox h₁
    · exact of_addBridge sandbox ok
  rcases hn with rfl | ok
  · exact h₁b
  · exact h₁b.addNamespace hc ok

theorem raise (hb : RolledBack bridge sandbox h base) (hr : Raised bridge base base') :
    RolledBack bridge sandbox h base' := by
  obtain rfl | ⟨hd, rfl⟩ := hr
  · exact hb
  obtain ⟨lb, hlb, hbd⟩ := Option.map_eq_some_iff.mp hd
  refine ⟨fun id l hl => ?_, fun id l hl hnone => ?_, hb.netns⟩
  · rw [Host.update_links]
    by_cases hid : id = ⟨none, bridge⟩
    · subst hid
      rw [if_pos rfl]
      obtain he | ⟨_, hd, he⟩ := hb.kept _ l hl
      · have : l = lb := Option.some.inj (he.symm.trans hlb)
        subst this
        exact Or.inr ⟨rfl, hbd, by rw [he]; rfl⟩
      · exact Or.inr ⟨rfl, hd, by rw [he]; rfl⟩
    · rw [if_neg hid]
      exact hb.kept id l hl
  · rw [Host.update_links] at hl
    by_cases hid : id = ⟨none, bridge⟩
    · subst hid
      rw [if_pos rfl, hlb] at hl
      cases hl
      obtain ⟨_, _, hm, ha⟩ | ⟨he, _⟩ := hb.added _ lb hlb hnone
      · exact Or.inl ⟨rfl, hbd, hm, ha⟩
      · simp at he
    · rw [if_neg hid] at hl
      exact hb.added id l hl hnone

end RolledBack

theorem rolledBack_of_unstruck {source : FaultSource φ} {w : NetWorld φ} {e : NetError}
    (hr : w.host.Reachable)
    (he : (NetWorld.run source (attach bridge sandbox).run w).1 = .error e)
    (hu : ∀ w' ∈ rollbackStart? source bridge sandbox w,
      Unstruck source (rollback (.of sandbox)) w') :
    RolledBack bridge sandbox w.host
      (NetWorld.run source (attach bridge sandbox).run w).2.host := by
  have hc := hr.sound.2
  have hprepare := yields_run source (prepare bridge sandbox).run w
  simp only [NetWorld.run, attach_eq, Program.run_except_bind, rollbackStart?] at hprepare he hu ⊢
  generalize (prepare bridge sandbox).run.run (NetWorld.answer source) w = prepared at *
  obtain ⟨r, w₁⟩ := prepared
  cases r with
  | error e' =>
    obtain ⟨_, _, hready⟩ | ⟨hok, _⟩ := prepare_outcome hprepare
    · exact RolledBack.of_readied hc hready
    · cases hok
  | ok names =>
    obtain ⟨_, he', _⟩ | ⟨hnames, base, hready, _, hv⟩ := prepare_outcome hprepare
    · cases he'
    cases hnames
    have hconnect := yields_run source (connect bridge (.of sandbox)).run w₁
    simp only [NetWorld.run, run_connectOrRollback] at hconnect he hu ⊢
    generalize (connect bridge (.of sandbox)).run.run (NetWorld.answer source) w₁ = connected at *
    obtain ⟨r, w₂⟩ := connected
    cases r with
    | ok u => cases he
    | error e' =>
      obtain ⟨_, _, base', place, near, far, hraised, _, hs⟩ | ⟨hok, _⟩ :=
        connect_outcome (.of_addVeth hv) hconnect
      · have hback := (hu w₂ rfl).run_host
        rw [run_rollback hs] at hback
        exact hback ▸ (RolledBack.of_readied hc hready).raise hraised
      · cases hok

/-- An attachment fails with the error of its first step to fail, whatever becomes of undoing it. If
no call fails that undoes it, the host is rolled back. -/
theorem failed_attach_rolls_back (source : FaultSource φ) (bridge sandbox : String)
    (w : NetWorld φ) (hr : w.host.Reachable) :
    (NetWorld.run source (attach bridge sandbox).run w).1 =
      (Program.firstError? (NetWorld.answer source) (steps bridge sandbox) w).elim (.ok ())
        .error ∧
    ∀ e, (NetWorld.run source (attach bridge sandbox).run w).1 = .error e →
      (∀ w' ∈ rollbackStart? source bridge sandbox w,
        Unstruck source (rollback (.of sandbox)) w') →
      RolledBack bridge sandbox w.host
        (NetWorld.run source (attach bridge sandbox).run w).2.host :=
  ⟨attach_reply _ bridge sandbox w, fun _ => rolledBack_of_unstruck hr⟩

/-- The end that could not be put into the bridge is gone with its peer. -/
theorem failed_attach_rolls_back_unenslaved : Host.initial.Reachable ∧
    (NetWorld.run Fault.script (attach "br0" "web").run
      ⟨.initial, [⟨"set_master", 0, none⟩], []⟩).1 =
        .error (.command "ip" ["set_master"] "injected") ∧
    RolledBack "br0" "web" .initial (NetWorld.run Fault.script (attach "br0" "web").run
      ⟨.initial, [⟨"set_master", 0, none⟩], []⟩).2.host := by
  have hback := failed_attach_rolls_back Fault.script "br0" "web"
    ⟨.initial, [⟨"set_master", 0, none⟩], []⟩ .initial
  refine ⟨.initial, rfl, hback.2 _ rfl ?_⟩
  intro w hw made hm
  have hall : (rollbackStart? Fault.script "br0" "web"
      ⟨.initial, [⟨"set_master", 0, none⟩], []⟩).all (fun w =>
        ((rollback (.of "web")).trace (NetWorld.answer Fault.script) w).all fun made =>
          (Fault.script.strike made.2 made.1.faults).1.isNone) = true := rfl
  rw [hw] at hall
  exact Option.isNone_iff_eq_none.mp (List.all_eq_true.mp hall made hm)

end Attachment

end SandboxNet
