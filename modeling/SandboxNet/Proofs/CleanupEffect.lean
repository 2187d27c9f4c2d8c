import SandboxNet.Proofs.QuietRun

/-! What a clean-up takes off a host whose calls do not fail of themselves, and when it answers that
nothing is left. A second clean-up finds nothing more to take. -/
namespace SandboxNet

variable {bridge sandbox ns : String} {h h₁ h' h'' : Host} {id : LinkId} {l : Link}

/-- The host end of a sandbox is not there, or can be taken away through the bridge or along with
the namespace of the sandbox. -/
def WayOut (bridge sandbox : String) (h : Host) : Prop :=
  h.deviceAt ⟨none, bridge⟩ = some .bridge ∨
  (∀ p, h.deviceAt (hostEnd sandbox) ≠ some (.veth p)) ∨
  ∃ p, h.deviceAt (hostEnd sandbox) = some (.veth p) ∧ p.netns = some ("corral-" ++ sandbox)

/-- The links that go with a namespace: those inside, and the other ends of those, wherever they
are. -/
def GoesWith (h : Host) (ns : String) (id : LinkId) : Prop :=
  id.netns = some ns ∨ ∃ k : LinkId, k.netns = some ns ∧ h.deviceAt k = some (.veth id)

/-- The two ends that a detachment takes away, if there is the bridge. -/
def Unplugged (h : Host) (bridge sandbox : String) (id : LinkId) : Prop :=
  h.deviceAt ⟨none, bridge⟩ = some .bridge ∧
    ∃ p, h.deviceAt (hostEnd sandbox) = some (.veth p) ∧ (id = hostEnd sandbox ∨ id = p)

/-- The links that a clean-up takes away. -/
def Swept (h : Host) (bridge sandbox : String) (id : LinkId) : Prop :=
  GoesWith h ("corral-" ++ sandbox) id ∨ Unplugged h bridge sandbox id

/-- One host is the other without what a clean-up takes away. -/
structure Cleaned (bridge sandbox : String) (h h' : Host) : Prop where
  netns : h'.netns = h.netns.erase ("corral-" ++ sandbox)
  row : ∀ (id : LinkId) (l : Link),
    h'.links[id]? = some l ↔ h.links[id]? = some l ∧ ¬ Swept h bridge sandbox id

theorem not_goesWith_iff (hp : h.Paired) (hl : h.links[id]? = some l) :
    ¬ GoesWith h ns id ↔ id.netns ≠ some ns ∧ ∀ p, l.device = .veth p → p.netns ≠ some ns := by
  have hd := Host.deviceAt_of_some hl
  rw [GoesWith, not_or]
  refine and_congr_right fun _ => ⟨fun hnone p hdev hn => hnone ⟨p, hn, ?_⟩, ?_⟩
  · rw [hdev] at hd
    exact (hp id p hd).2
  · rintro hpeer ⟨k, hn, hk⟩
    exact hpeer k (Option.some.inj (hd.symm.trans (hp k id hk).2)) hn

theorem Cleaned.unregistered (hcleaned : Cleaned bridge sandbox h h') :
    "corral-" ++ sandbox ∉ h'.netns := by
  simp [hcleaned.netns]

namespace Attachment

/-- The part of a clean-up that takes away what a sandbox has. -/
def dismantle (sandbox bridge : String) : NetProgram Unit := do
  Net.discard (detach bridge sandbox)
  dropNamespace (WireNames.of sandbox).netns

/-- The part of a clean-up that looks whether anything is left. -/
def survey (names : WireNames) : NetProgram Bool := do
  let vethLeft ← Veth.present names.hostVeth
  let netnsLeft ← Namespace.present names.netns
  return !(vethLeft || netnsLeft)

theorem cleanup_eq (hv : NameRule.sandbox.check sandbox = .ok ()) (bridge : String) :
    cleanup sandbox bridge = dismantle sandbox bridge >>= fun _ => survey (.of sandbox) := by
  simp only [cleanup, forSandbox_eq_ok.mpr ⟨hv, rfl⟩, dismantle, survey, bind_assoc]

theorem run_detach_rows (hv : NameRule.sandbox.check sandbox = .ok ()) (hp : h.Paired)
    (hc : h.Contained) (bridge : String) :
    ∃ r h₁, Host.run (detach bridge sandbox).run h = (r, h₁) ∧ h₁.Paired ∧ h₁.Contained ∧
      h₁.netns = h.netns ∧ ∀ (id : LinkId) (l : Link),
        h₁.links[id]? = some l ↔ h.links[id]? = some l ∧ ¬ Unplugged h bridge sandbox id := by
  by_cases hb : h.deviceAt ⟨none, bridge⟩ = some .bridge
  · by_cases hd : ∃ p, h.deviceAt (hostEnd sandbox) = some (.veth p)
    · obtain ⟨p, hd⟩ := hd
      refine ⟨_, _, run_detach_wired hv hb hd, Host.paired_remove hp _, Host.contained_remove hp hc,
        Host.remove_netns _ _, fun id l => ?_⟩
      obtain ⟨near, hnear, hdev⟩ := Option.map_eq_some_iff.mp hd
      have hiff : Unplugged h bridge sandbox id ↔ id = hostEnd sandbox ∨ id = p := by
        simp [Unplugged, hb, hd]
      rw [hiff, Host.remove_veth hnear hdev]
      by_cases he : id = hostEnd sandbox ∨ id = p
      · simp [he]
      · simp only [he, if_false, not_false_eq_true, and_true]
    · have hkept : ∀ id, ¬ Unplugged h bridge sandbox id := fun id hu =>
        hd (hu.2.imp fun _ hp => hp.1)
      refine ⟨_, h, run_detach_unwired hv hb (not_exists.mp hd), hp, hc, rfl, fun id l => ?_⟩
      exact (and_iff_left (hkept id)).symm
  · refine ⟨_, h, run_detach_missing hv hb, hp, hc, rfl, fun id l => ?_⟩
    exact (and_iff_left fun hu => hb hu.1).symm

/-- A namespace that is not registered has nothing to take along. -/
theorem run_dropNamespace_rows (ns : String) (hp : h.Paired) (hc : h.Contained) :
    ∃ h', Host.run (dropNamespace ns) h = ((), h') ∧ h'.Paired ∧ h'.Contained ∧
      h'.netns = h.netns.erase ns ∧ ∀ (id : LinkId) (l : Link),
        h'.links[id]? = some l ↔ h.links[id]? = some l ∧ id.netns ≠ some ns ∧
          ∀ p, l.device = .veth p → p.netns ≠ some ns := by
  by_cases hn : ns ∈ h.netns
  · have ok := Host.deleteNamespace_eq_ok.mpr ⟨hn, rfl⟩
    have hchange := Host.Change.deleteNamespace ok
    exact ⟨_, run_dropNamespace_mem ok, Host.paired_change hp hc hchange,
      Host.contained_change hp hc hchange, Host.deleteNamespace_netns ok,
      fun _ _ => Host.deleteNamespace_links hp (hc.unenslaved ns) ok⟩
  · have hempty : ∀ (id : LinkId) (l : Link), h.links[id]? = some l → id.netns ≠ some ns := by
      rintro ⟨_, name⟩ l hl rfl
      exact hn (hc.registered ns name l hl)
    refine ⟨h, run_dropNamespace_not_mem hn, hp, hc, ?_, fun id l => ?_⟩
    · apply Std.ExtTreeSet.ext_mem
      intro other
      simp only [Std.ExtTreeSet.mem_erase, ne_eq, Std.LawfulEqCmp.compare_eq_iff_eq, iff_and_self]
      rintro hother rfl
      exact hn hother
    · refine ⟨fun hl => ⟨hl, hempty id l hl, fun p hd => ?_⟩, And.left⟩
      obtain ⟨_, far, hfar, _⟩ := hp.peer hl hd
      exact hempty p far hfar

theorem run_dismantle (hv : NameRule.sandbox.check sandbox = .ok ()) (hp : h.Paired)
    (hc : h.Contained) (bridge : String) :
    ∃ h', Host.run (dismantle sandbox bridge) h = ((), h') ∧ h'.Paired ∧ h'.Contained ∧
      Cleaned bridge sandbox h h' := by
  obtain ⟨r, h₁, hdetach, hp₁, hc₁, hnetns₁, hrow₁⟩ := run_detach_rows hv hp hc bridge
  obtain ⟨h', hdrop, hp', hc', hnetns', hrow'⟩ :=
    run_dropNamespace_rows ("corral-" ++ sandbox) hp₁ hc₁
  refine ⟨h', (Host.run_bind (Host.run_discard hdetach)).trans hdrop, hp', hc', ?_, ?_⟩
  · rw [hnetns', hnetns₁]
  · intro id l
    rw [hrow', hrow₁, Swept, not_or, and_assoc]
    refine and_congr_right fun hl => ?_
    rw [not_goesWith_iff hp hl, and_comm]

/-- With the namespace gone, a survey answers by the host end alone. -/
theorem run_survey_unregistered (hn : "corral-" ++ sandbox ∉ h.netns) :
    ∃ clean, Host.run (survey (.of sandbox)) h = (clean, h) ∧
      (clean = true ↔ ∀ p, h.deviceAt (hostEnd sandbox) ≠ some (.veth p)) := by
  have hnetns : Host.run (Namespace.present (WireNames.of sandbox).netns) h = (false, h) :=
    Namespace.run_present_not_mem hn
  by_cases hd : ∃ p, h.deviceAt (hostEnd sandbox) = some (.veth p)
  · obtain ⟨p, hd⟩ := hd
    refine ⟨false, ?_, by simp [hd]⟩
    exact (Host.run_bind (Veth.run_present_true hd)).trans (Host.run_bind hnetns)
  · have hnone := not_exists.mp hd
    refine ⟨true, ?_, by simpa using hnone⟩
    exact (Host.run_bind (Veth.run_present_false hnone)).trans (Host.run_bind hnetns)

theorem run_cleanup (hv : NameRule.sandbox.check sandbox = .ok ()) (hp : h.Paired)
    (hc : h.Contained) (bridge : String) :
    ∃ clean h', Host.run (cleanup sandbox bridge) h = (clean, h') ∧ h'.Paired ∧ h'.Contained ∧
      Cleaned bridge sandbox h h' ∧
      (clean = true ↔ ∀ p, h'.deviceAt (hostEnd sandbox) ≠ some (.veth p)) := by
  obtain ⟨h', hdismantle, hp', hc', hcleaned⟩ := run_dismantle hv hp hc bridge
  obtain ⟨clean, hsurvey, hclean⟩ := run_survey_unregistered hcleaned.unregistered
  refine ⟨clean, h', ?_, hp', hc', hcleaned, hclean⟩
  rw [cleanup_eq hv]
  exact (Host.run_bind hdismantle).trans hsurvey

end Attachment

namespace Cleaned

theorem device_before {d : Device} (hcleaned : Cleaned bridge sandbox h h')
    (hd : h'.deviceAt id = some d) : h.deviceAt id = some d ∧ ¬ Swept h bridge sandbox id := by
  obtain ⟨l, hl, hd⟩ := Option.map_eq_some_iff.mp hd
  obtain ⟨hl, hkept⟩ := (hcleaned.row id l).mp hl
  rw [Host.deviceAt_of_some hl, hd]
  exact ⟨rfl, hkept⟩

theorem device_after {d : Device} (hcleaned : Cleaned bridge sandbox h h')
    (hd : h.deviceAt id = some d) (hkept : ¬ Swept h bridge sandbox id) :
    h'.deviceAt id = some d := by
  obtain ⟨l, hl, hd⟩ := Option.map_eq_some_iff.mp hd
  rw [Host.deviceAt_of_some ((hcleaned.row id l).mpr ⟨hl, hkept⟩), hd]

/-- The host end is gone exactly if there was a way to take it away. -/
theorem near_gone_iff (hcleaned : Cleaned bridge sandbox h h') (hp : h.Paired) :
    (∀ p, h'.deviceAt (hostEnd sandbox) ≠ some (.veth p)) ↔ WayOut bridge sandbox h := by
  constructor
  · intro hgone
    by_cases hd : ∃ p, h.deviceAt (hostEnd sandbox) = some (.veth p)
    · obtain ⟨p, hd⟩ := hd
      have hswept : Swept h bridge sandbox (hostEnd sandbox) :=
        Classical.byContradiction fun hkept => hgone p (hcleaned.device_after hd hkept)
      rcases hswept with (hn | ⟨k, hn, hk⟩) | hu
      · cases hn
      · -- the end inside is the other end of the host end
        have hback := hd.symm.trans (hp k _ hk).2
        cases hback
        exact Or.inr (Or.inr ⟨p, hd, hn⟩)
      · exact Or.inl hu.1
    · exact Or.inr (Or.inl (not_exists.mp hd))
  · intro hout p hd'
    obtain ⟨hd, hkept⟩ := hcleaned.device_before hd'
    rcases hout with hb | hnone | ⟨q, hq, hn⟩
    · exact hkept (Or.inr ⟨hb, p, hd, Or.inl rfl⟩)
    · exact hnone p hd
    · exact hkept (Or.inl (Or.inr ⟨q, hn, (hp _ q hq).2⟩))

/-- Nothing that is left would be taken away by another clean-up. -/
theorem not_swept (hcleaned : Cleaned bridge sandbox h h') (hl : h'.links[id]? = some l) :
    ¬ Swept h' bridge sandbox id := by
  rintro ((hn | ⟨k, hn, hk⟩) | ⟨hb, p, hd, -⟩)
  · exact ((hcleaned.row id l).mp hl).2 (Or.inl (Or.inl hn))
  · exact (hcleaned.device_before hk).2 (Or.inl (Or.inl hn))
  · obtain ⟨hd, hkept⟩ := hcleaned.device_before hd
    exact hkept (Or.inr ⟨(hcleaned.device_before hb).1, p, hd, Or.inl rfl⟩)

theorem again (hcleaned : Cleaned bridge sandbox h h') (hagain : Cleaned bridge sandbox h' h'') :
    h'' = h' := by
  apply Host.ext_rows
  · intro id
    apply Option.ext
    intro l
    rw [hagain.row, and_iff_left_iff_imp]
    exact hcleaned.not_swept
  · rw [hagain.netns, hcleaned.netns]
    apply Std.ExtTreeSet.ext_mem
    simp

end Cleaned

namespace Attachment

/-- A clean-up answers that nothing is left exactly if there was a way to take the host end away. It
takes the namespace and the links that it is to take, and nothing else, and a second one changes
nothing and answers the same. -/
theorem cleanup_sweeps (hp : h.Paired) (hc : h.Contained)
    (hv : NameRule.sandbox.check sandbox = .ok ()) (bridge : String) :
    let cleaned := Host.run (cleanup sandbox bridge) h
    (cleaned.1 = true ↔ WayOut bridge sandbox h) ∧
      cleaned.2.netns = h.netns.erase ("corral-" ++ sandbox) ∧
      (∀ (id : LinkId) (l : Link), cleaned.2.links[id]? = some l ↔
        h.links[id]? = some l ∧ ¬ Swept h bridge sandbox id) ∧
      Host.run (cleanup sandbox bridge) cleaned.2 = cleaned := by
  intro cleaned
  obtain ⟨clean, h', hrun, hp', hc', hcleaned, hclean⟩ := run_cleanup hv hp hc bridge
  obtain ⟨clean₂, h'', hrun₂, _, _, hcleaned₂, hclean₂⟩ := run_cleanup hv hp' hc' bridge
  have hend : cleaned = (clean, h') := hrun
  have hsame : h'' = h' := hcleaned.again hcleaned₂
  rw [hend]
  refine ⟨hclean.trans (hcleaned.near_gone_iff hp), hcleaned.netns, hcleaned.row, ?_⟩
  rw [hrun₂, hsame, Bool.eq_iff_iff.mpr (hclean₂.trans (hsame ▸ hclean.symm))]

/-- Without the bridge a host end whose other end is elsewhere stays, and the clean-up says so, but
a foreign pair with one end in the namespace goes. -/
theorem cleanup_sweeps_foreign :
    let h := ((((Host.initial.answer (.addNamespace "corral-web")).2.answer
      (.addVeth "vh-web" "host0")).2.answer (.addVeth "tap0" "tap1")).2.answer
        (.setNetns "tap1" "corral-web")).2
    let cleaned := Host.run (cleanup "web" "br0") h
    (h.Paired ∧ h.Contained) ∧ cleaned.1 = false ∧
      cleaned.2.links.keys = [⟨none, "host0"⟩, ⟨none, "lo"⟩, ⟨none, "vh-web"⟩] ∧
      Host.run (cleanup "web" "br0") cleaned.2 = cleaned := by
  intro h cleaned
  have hr : h.Reachable := .call _ (.call _ (.call _ (.call _ .initial)))
  obtain ⟨hp, hc⟩ := hr.sound
  have hv : NameRule.sandbox.check "web" = .ok () := rfl
  obtain ⟨-, -, -, hagain⟩ := cleanup_sweeps hp hc hv "br0"
  exact ⟨⟨hp, hc⟩, by decide +kernel, by decide +kernel, hagain⟩

end Attachment

end SandboxNet
