import SandboxNet.Proofs.ManagerOutcomes
import SandboxNet.Proofs.Splice

/-! What wiring a sandbox and taking it away can end in under faults. An attachment is followed
through its two parts: up to the pair, and from the pair to the rollback. -/
namespace SandboxNet.Attachment

variable {base h h' : Host} {bridge sandbox ns : String} {place : LinkId} {near far : Link}
  {r : Except NetError Unit}

/-- The part of an attachment before anything is wired: bridge, namespace and pair. -/
def prepare (bridge sandbox : String) : Net WireNames := do
  let names ← Net.ofExcept (WireNames.forSandbox sandbox)
  Bridge.create bridge none
  let _ ← Namespace.ensure names.netns
  Veth.create names.hostVeth names.sandboxVeth
  return names

/-- The other part: the pair is wired, or deleted again. -/
def connectOrRollback (bridge : String) (names : WireNames) : Net Unit := do
  match ← Net.attempt (connect bridge names) with
  | .ok () => return
  | .error e =>
    rollback names
    throw e

theorem attach_eq (bridge sandbox : String) :
    attach bridge sandbox = prepare bridge sandbox >>= connectOrRollback bridge := by
  rw [attach, prepare]
  simp only [bind_assoc, pure_bind]
  rfl

/-- The bridge and the namespace may have been made, and nothing else. -/
def Readied (bridge ns : String) (h h' : Host) : Prop :=
  ∃ h₁, (h₁ = h ∨ h.addBridge bridge = .ok h₁) ∧ (h' = h₁ ∨ h₁.addNamespace ns = .ok h')

/-- The bridge may have been turned up. -/
def Raised (bridge : String) (base base' : Host) : Prop :=
  base' = base ∨
    (base.deviceAt ⟨none, bridge⟩ = some .bridge ∧ base' = base.update ⟨none, bridge⟩ raised)

theorem Readied.refl (bridge ns : String) (h : Host) : Readied bridge ns h h :=
  ⟨h, Or.inl rfl, Or.inl rfl⟩

theorem prepare_outcome {x : Except NetError WireNames}
    (out : Yields (prepare bridge sandbox).run h x h') :
    (∃ e, x = .error e ∧ Readied bridge ("corral-" ++ sandbox) h h') ∨
      (x = .ok (.of sandbox) ∧ ∃ base, Readied bridge ("corral-" ++ sandbox) h base ∧
        "corral-" ++ sandbox ∈ base.netns ∧
        base.addVeth ("vh-" ++ sandbox) "host0" = .ok h') := by
  obtain ⟨e, _, rfl, rfl⟩ | ⟨names, hn, afterNames⟩ := yields_check_bind.mp out
  · exact Or.inl ⟨e, rfl, .refl _ _ _⟩
  obtain ⟨_, rfl⟩ := forSandbox_eq_ok.mp hn
  obtain ⟨e, rfl, hb⟩ | ⟨_, h₁, hb, afterBridge⟩ := yields_net_bind.mp afterNames
  · obtain ⟨_, _, rfl⟩ | ⟨he, _⟩ := Bridge.create_outcome hb
    · exact Or.inl ⟨e, rfl, .refl _ _ _⟩
    · cases he
  have hb : h₁ = h ∨ h.addBridge bridge = .ok h₁ := by
    obtain ⟨_, he, _⟩ | ⟨_, ⟨rfl, _⟩ | ok⟩ := Bridge.create_outcome hb
    · cases he
    · exact Or.inl rfl
    · exact Or.inr ok
  obtain ⟨e, rfl, hs⟩ | ⟨_, h₂, hs, afterNetns⟩ := yields_net_bind.mp afterBridge
  · obtain ⟨_, _, rfl⟩ | ⟨_, he, _⟩ := Namespace.ensure_outcome hs
    · exact Or.inl ⟨e, rfl, _, hb, Or.inl rfl⟩
    · cases he
  have ⟨hs, hns⟩ : (h₂ = h₁ ∨ h₁.addNamespace ("corral-" ++ sandbox) = .ok h₂) ∧
      "corral-" ++ sandbox ∈ h₂.netns := by
    obtain ⟨_, he, _⟩ | ⟨_, _, ⟨rfl, hns⟩ | ok⟩ := Namespace.ensure_outcome hs
    · cases he
    · exact ⟨Or.inl rfl, hns⟩
    · refine ⟨Or.inr ok, ?_⟩
      obtain ⟨_, rfl⟩ := Host.addNamespace_eq_ok.mp ok
      exact Std.ExtTreeSet.mem_insert_self
  obtain ⟨e, rfl, hv⟩ | ⟨_, h₃, hv, rfl, rfl⟩ := yields_net_bind.mp afterNetns
  · obtain ⟨_, _, rfl⟩ | ⟨he, _⟩ := Veth.create_outcome hv
    · exact Or.inl ⟨e, rfl, h₁, hb, hs⟩
    · cases he
  · obtain ⟨_, he, _⟩ | ⟨_, ok⟩ := Veth.create_outcome hv
    · cases he
    · exact Or.inr ⟨rfl, h₂, ⟨h₁, hb, hs⟩, hns, ok⟩

theorem spliced_bridge (hs : Spliced base sandbox place near far h)
    (hb : h.deviceAt ⟨none, bridge⟩ = some .bridge) :
    base.deviceAt ⟨none, bridge⟩ = some .bridge := by
  rw [hs.deviceAt_eq] at hb
  split at hb
  · simp at hb
  · split at hb
    · simp at hb
    · exact hb

/-- Putting the host end of the pair into a bridge. -/
theorem enslave_outcome (hs : Spliced base sandbox place near far h)
    (out : Yields (Veth.attachTo ("vh-" ++ sandbox) (.bridge bridge)).run h r h') :
    (∃ e, r = .error e ∧ ∃ near', Spliced base sandbox place near' far h') ∨
      (r = .ok () ∧ Spliced base sandbox place { near with master := some bridge, adminUp := true }
        far h') := by
  obtain ⟨e, rfl, rfl | ok⟩ | ⟨rfl, h₁, okm, oka⟩ := Veth.attachTo_bridge_outcome out
  · exact Or.inl ⟨e, rfl, near, hs⟩
  · obtain ⟨_, _, rfl⟩ := Host.setMaster_eq_ok.mp ok
    exact Or.inl ⟨e, rfl, _, hs.update_near rfl⟩
  · obtain ⟨_, _, rfl⟩ := Host.setMaster_eq_ok.mp okm
    obtain ⟨_, rfl⟩ := Host.setAdmin_eq_ok.mp oka
    have hs₁ := hs.update_near (f := ({ · with master := some bridge })) rfl
    exact Or.inr ⟨rfl, hs₁.update_near (f := ({ · with adminUp := true })) rfl⟩

/-- Moving the other end inside; the loopback there comes up or not. -/
theorem moveIn_outcome (hs : Spliced base sandbox looseEnd near far h)
    (out : Yields (Veth.attachTo "host0" (.netns ("corral-" ++ sandbox))).run h r h') :
    (∃ e, r = .error e ∧ ∃ place near' far', Spliced base sandbox place near' far' h' ∧
      near'.master = near.master) ∨
      (r = .ok () ∧ "corral-" ++ sandbox ∈ base.netns ∧ ∃ base',
        (base' = base ∨ base' = base.update (innerLoopback sandbox) raised) ∧
        Spliced base' sandbox (innerEnd sandbox) { near with device := .veth (innerEnd sandbox) }
          { far with master := none, adminUp := true } h') := by
  obtain ⟨e, rfl, rfl | ok⟩ | ⟨rfl, h₁, h₂, okn, oki, last⟩ := Veth.attachTo_netns_outcome out
  · exact Or.inl ⟨e, rfl, _, _, _, hs, rfl⟩
  · exact Or.inl ⟨e, rfl, _, _, _, hs.move ok, rfl⟩
  obtain ⟨_, rfl⟩ := Host.setAdmin_eq_ok.mp oki
  have hs₂ := (hs.move okn).update_far (f := ({ · with adminUp := true })) rfl
  refine Or.inr ⟨rfl, hs.netns ▸ (Host.setNetns_eq_ok.mp okn).1, ?_⟩
  rcases last with rfl | okl
  · exact ⟨base, Or.inl rfl, hs₂⟩
  · obtain ⟨⟨l, hl⟩, rfl⟩ := Host.setAdmin_eq_ok.mp okl
    have hlo : base.links[innerLoopback sandbox]? = some l := by
      rw [← hs₂.other_row (k := innerLoopback sandbox) (by simp) (by simp)]
      exact hl
    exact ⟨_, Or.inr rfl, hs₂.update_base hlo⟩

/-- The pair is in the bridge before it is moved, so one that is left moved is in the bridge. -/
theorem connect_outcome (hs : Spliced base sandbox looseEnd (.fresh (.veth looseEnd))
      (.fresh (.veth (hostEnd sandbox))) h)
    (out : Yields (connect bridge (.of sandbox)).run h r h') :
    (∃ e, r = .error e ∧ ∃ base' place near far, Raised bridge base base' ∧
      (place = innerEnd sandbox → near.master = some bridge) ∧
      Spliced base' sandbox place near far h') ∨
    (r = .ok () ∧ base.deviceAt ⟨none, bridge⟩ = some .bridge ∧
      "corral-" ++ sandbox ∈ base.netns ∧ ∃ base',
        (base' = base.update ⟨none, bridge⟩ raised ∨
          base' = (base.update ⟨none, bridge⟩ raised).update (innerLoopback sandbox) raised) ∧
        Spliced base' sandbox (innerEnd sandbox)
          ⟨.veth (innerEnd sandbox), true, some bridge, []⟩
          ⟨.veth (hostEnd sandbox), true, none, []⟩ h') := by
  obtain ⟨e, rfl, hm⟩ | ⟨_, h₂, hm, afterMaster⟩ := yields_net_bind.mp out
  · obtain ⟨_, _, near, hs⟩ | ⟨he, _⟩ := enslave_outcome hs hm
    · exact Or.inl ⟨e, rfl, base, _, near, _, Or.inl rfl, by simp, hs⟩
    · cases he
  obtain ⟨_, he, _⟩ | ⟨_, hs₂⟩ := enslave_outcome hs hm
  · cases he
  obtain ⟨e, rfl, hu⟩ | ⟨_, h₃, hu, afterUp⟩ := yields_net_bind.mp afterMaster
  · obtain ⟨_, _, rfl⟩ | ⟨he, _⟩ := Bridge.setUp_outcome hu
    · exact Or.inl ⟨e, rfl, base, _, _, _, Or.inl rfl, by simp, hs₂⟩
    · cases he
  obtain ⟨_, he, _⟩ | ⟨_, hb, rfl⟩ := Bridge.setUp_outcome hu
  · cases he
  have hb := spliced_bridge hs₂ hb
  obtain ⟨lb, hlb, _⟩ := Option.map_eq_some_iff.mp hb
  have hs₃ := hs₂.update_base (f := raised) hlb
  obtain ⟨e, rfl, place, near, far, hs₄, hmaster⟩ | ⟨rfl, hns, base', hbase', hs₄⟩ :=
    moveIn_outcome hs₃ afterUp
  · exact Or.inl ⟨e, rfl, _, place, near, far, Or.inr ⟨hb, rfl⟩, fun _ => hmaster, hs₄⟩
  · exact Or.inr ⟨rfl, hb, hns, base', hbase', hs₄⟩

theorem rollback_outcome {u : Unit} (hs : Spliced base sandbox place near far h)
    (out : Yields (rollback (.of sandbox)) h u h') : h' = h ∨ h' = base := by
  obtain ⟨r, hd⟩ := yields_discard.mp out
  obtain ⟨_, _, rfl⟩ | ⟨_, n, rfl | rfl, ⟨p, hp⟩, rfl⟩ := Veth.deletePair_outcome hd
  · exact Or.inl rfl
  · exact Or.inr (hs.remove_end (Or.inl rfl))
  · -- a veth end at the shared place is the other end of this pair, not yet moved
    have hplace : place = looseEnd := by
      rcases hs.placed with hp' | rfl
      · exact hp'
      · rw [hs.deviceAt_eq] at hp
        simp [WireNames.of, Host.deviceAt, hs.looseFree] at hp
    exact Or.inr (hs.remove_end (Or.inr hplace.symm))

theorem attach_outcome (out : Yields (attach bridge sandbox).run h r h') :
    ∃ base, Readied bridge ("corral-" ++ sandbox) h base ∧
      ((∃ e, r = .error e ∧ h' = base) ∨
      (∃ e, r = .error e ∧ ∃ base' place near far, Raised bridge base base' ∧
        (place = innerEnd sandbox → near.master = some bridge) ∧
        ∃ h₁, Spliced base' sandbox place near far h₁ ∧ (h' = h₁ ∨ h' = base')) ∨
      (r = .ok () ∧ base.deviceAt ⟨none, bridge⟩ = some .bridge ∧
        "corral-" ++ sandbox ∈ base.netns ∧ ∃ base',
          (base' = base.update ⟨none, bridge⟩ raised ∨
            base' = (base.update ⟨none, bridge⟩ raised).update (innerLoopback sandbox) raised) ∧
          Spliced base' sandbox (innerEnd sandbox)
            ⟨.veth (innerEnd sandbox), true, some bridge, []⟩
            ⟨.veth (hostEnd sandbox), true, none, []⟩ h')) := by
  rw [attach_eq] at out
  obtain ⟨e, rfl, hp⟩ | ⟨names, h₁, hp, wired⟩ := yields_net_bind.mp out
  · obtain ⟨_, _, hr⟩ | ⟨he, _⟩ := prepare_outcome hp
    · exact ⟨h', hr, Or.inl ⟨e, rfl, rfl⟩⟩
    · cases he
  obtain ⟨_, he, _⟩ | ⟨hn, base, hr, _, okv⟩ := prepare_outcome hp
  · cases he
  cases hn
  have hs := Spliced.of_addVeth okv
  refine ⟨base, hr, Or.inr ?_⟩
  obtain ⟨e, rfl, hc⟩ | ⟨x, h₂, hc, rest⟩ := yields_net_bind.mp wired
  · obtain ⟨_, he, _⟩ := yields_attempt.mp hc
    cases he
  obtain ⟨_, hx, hc⟩ := yields_attempt.mp hc
  cases hx
  cases x with
  | ok u =>
    obtain ⟨rfl, rfl⟩ := rest
    obtain ⟨_, he, _⟩ | ⟨_, hok⟩ := connect_outcome hs hc
    · cases he
    · exact Or.inr ⟨rfl, hok⟩
  | error e =>
    obtain ⟨_, _, base', place, near, far, hb, hm, hs'⟩ | ⟨he, _⟩ := connect_outcome hs hc
    · obtain ⟨_, h₃, hrb, rfl, rfl⟩ := yields_lift_bind.mp rest
      exact Or.inl ⟨e, rfl, base', place, near, far, hb, hm, h₂, hs', rollback_outcome hs' hrb⟩
    · cases he

theorem Readied.keeps_bridge {ns : String} (hready : Readied bridge ns h base)
    (hb : h.deviceAt ⟨none, bridge⟩ = some .bridge) :
    base.deviceAt ⟨none, bridge⟩ = some .bridge := by
  obtain ⟨h₁, hbridge, hns⟩ := hready
  have hb₁ : h₁.deviceAt ⟨none, bridge⟩ = some .bridge := by
    rcases hbridge with rfl | ok
    · exact hb
    · obtain ⟨_, rfl⟩ := Host.addBridge_eq_ok.mp ok
      simp [Host.deviceAt, Link.fresh]
  rcases hns with rfl | ok
  · exact hb₁
  · obtain ⟨_, rfl⟩ := Host.addNamespace_eq_ok.mp ok
    rw [Host.deviceAt, Host.links_insert, if_neg (by simp)]
    exact hb₁

/-- However an attachment ends, a bridge that was there still is. -/
theorem attach_keeps_bridge (out : Yields (attach bridge sandbox).run h r h')
    (hb : h.deviceAt ⟨none, bridge⟩ = some .bridge) :
    h'.deviceAt ⟨none, bridge⟩ = some .bridge := by
  obtain ⟨base, hready, hcases⟩ := attach_outcome out
  have hbase := hready.keeps_bridge hb
  rcases hcases with ⟨_, _, rfl⟩ | ⟨_, _, base', _, _, _, hraised, _, h₁, hs, hend⟩ |
    ⟨_, _, _, base', hraised, hs⟩
  · exact hbase
  · have hbase' : base'.deviceAt ⟨none, bridge⟩ = some .bridge := by
      rcases hraised with rfl | ⟨_, rfl⟩
      · exact hbase
      · rw [deviceAt_raised, hbase]
    rcases hend with rfl | rfl
    · exact hs.base_device hbase'
    · exact hbase'
  · refine hs.base_device ?_
    rcases hraised with rfl | rfl
    · rw [deviceAt_raised, hbase]
    · rw [deviceAt_raised, deviceAt_raised, hbase]

theorem detach_outcome (out : Yields (detach bridge sandbox).run h r h') :
    h' = h ∨ ((∃ p, h.deviceAt (hostEnd sandbox) = some (.veth p)) ∧
      h' = h.remove (hostEnd sandbox)) := by
  obtain ⟨e, _, rfl, rfl⟩ | ⟨names, hn, afterNames⟩ := yields_check_bind.mp out
  · exact Or.inl rfl
  obtain ⟨_, rfl⟩ := forSandbox_eq_ok.mp hn
  obtain ⟨there, h₁, hp, afterBridge⟩ := yields_lift_bind.mp afterNames
  obtain ⟨rfl, _⟩ := Bridge.present_outcome hp
  cases there with
  | false =>
    obtain ⟨rfl, rfl⟩ := yields_throw_bind.mp afterBridge
    exact Or.inl rfl
  | true =>
    obtain ⟨there, h₂, hv, last⟩ := yields_lift_bind.mp afterBridge
    obtain ⟨rfl, _⟩ := Veth.present_outcome hv
    cases there with
    | false =>
      obtain ⟨rfl, rfl⟩ := last
      exact Or.inl rfl
    | true =>
      obtain ⟨_, _, rfl⟩ | ⟨_, hv, rfl⟩ := Veth.delete_outcome last
      · exact Or.inl rfl
      · exact Or.inr ⟨hv, rfl⟩

theorem dropNamespace_outcome {u : Unit} (out : Yields (dropNamespace ns) h u h') :
    h' = h ∨ h.deleteNamespace ns = .ok h' := by
  obtain ⟨there, h₁, hp, rest⟩ := yields_bind.mp out
  obtain ⟨rfl, _⟩ := Namespace.present_outcome hp
  cases there with
  | false => exact Or.inl rest.2
  | true =>
    obtain ⟨_, hd⟩ := yields_discard.mp rest
    obtain ⟨_, _, rfl⟩ | ⟨_, ok⟩ := Namespace.delete_outcome hd
    · exact Or.inl rfl
    · exact Or.inr ok

theorem cleanup_outcome {clean : Bool} (out : Yields (cleanup sandbox bridge) h clean h') :
    ∃ h₁, (h₁ = h ∨ ((∃ p, h.deviceAt (hostEnd sandbox) = some (.veth p)) ∧
        h₁ = h.remove (hostEnd sandbox))) ∧
      (h' = h₁ ∨ h₁.deleteNamespace ("corral-" ++ sandbox) = .ok h') := by
  simp only [cleanup] at out
  split at out
  · exact ⟨h, Or.inl rfl, Or.inl out.2⟩
  · rename_i names hn
    obtain ⟨_, rfl⟩ := forSandbox_eq_ok.mp hn
    obtain ⟨_, h₁, hd, afterDetach⟩ := yields_bind.mp out
    obtain ⟨_, hd⟩ := yields_discard.mp hd
    obtain ⟨_, h₂, hn, afterDrop⟩ := yields_bind.mp afterDetach
    obtain ⟨_, h₃, hv, afterVeth⟩ := yields_bind.mp afterDrop
    obtain ⟨rfl, _⟩ := Veth.present_outcome hv
    obtain ⟨_, h₄, hp, _, rfl⟩ := yields_bind.mp afterVeth
    obtain ⟨rfl, _⟩ := Namespace.present_outcome hp
    exact ⟨h₁, detach_outcome hd, dropNamespace_outcome hn⟩

/-- The host between the two steps of a clean-up is as sound as before. -/
theorem cleanup_steps {clean : Bool} (hp : h.Paired) (hc : h.Contained)
    (out : Yields (cleanup sandbox bridge) h clean h') :
    ∃ h₁, h₁.Paired ∧ h₁.Contained ∧
      (h₁ = h ∨ ((∃ p, h.deviceAt (hostEnd sandbox) = some (.veth p)) ∧
        h₁ = h.remove (hostEnd sandbox))) ∧
      (h' = h₁ ∨ h₁.deleteNamespace ("corral-" ++ sandbox) = .ok h') := by
  obtain ⟨h₁, hdetach, hns⟩ := cleanup_outcome out
  refine ⟨h₁, ?_, ?_, hdetach, hns⟩
  · obtain rfl | ⟨_, rfl⟩ := hdetach
    · exact hp
    · exact Host.paired_remove hp _
  · obtain rfl | ⟨_, rfl⟩ := hdetach
    · exact hc
    · exact Host.contained_remove hp hc

end SandboxNet.Attachment

namespace SandboxNet

/-- A request about the wire of one sandbox. -/
inductive WireRequest where
  | attach (bridge sandbox : String)
  | detach (bridge sandbox : String)
  | cleanup (sandbox bridge : String)

inductive WireReply where
  | outcome (r : Except NetError Unit)
  | clean (nothingLeft : Bool)

namespace WireRequest

def bridge : WireRequest → String
  | attach bridge _ | detach bridge _ | cleanup _ bridge => bridge

def sandbox : WireRequest → String
  | attach _ sandbox | detach _ sandbox | cleanup sandbox _ => sandbox

def program : WireRequest → NetProgram WireReply
  | attach bridge sandbox => .outcome <$> (Attachment.attach bridge sandbox).run
  | detach bridge sandbox => .outcome <$> (Attachment.detach bridge sandbox).run
  | cleanup sandbox bridge => .clean <$> Attachment.cleanup sandbox bridge

end WireRequest

end SandboxNet
