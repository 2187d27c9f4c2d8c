import SandboxNet.Proofs.Reclaim

/-! What the answer of a clean-up is worth. It rests on two look-ups made at the end, and a look-up
that fails counts as nothing found. -/
namespace SandboxNet

variable {α φ : Type} {source : FaultSource φ} {ns name sandbox bridge : String} {w : NetWorld φ}

theorem run_mapped_call (c : NetCall) (f : Except NetError c.Answer → α) (w : NetWorld φ) :
    NetWorld.run source (f <$> Program.call (I := netInterface) c) w =
      (f (NetWorld.answer source c w).1, (NetWorld.answer source c w).2) :=
  Program.run_map f _ w

namespace Veth

/-- An end is looked for by a single call. -/
theorem present_eq (name : String) : present name =
    (fun reply => (reply.toOption.join.filter (·.kind = .veth)).isSome) <$>
      Program.call (I := netInterface) (.link none name) := by
  refine congrArg (Program.ask _) (funext fun reply => ?_)
  cases reply <;> rfl

theorem trace_present (name : String) (w : NetWorld φ) :
    (present name).trace (NetWorld.answer source) w = [(w, .link none name)] := by
  rw [present_eq, Program.trace_map]
  rfl

/-- An end is not seen if it is not there or the look-up fails. -/
theorem run_present_eq_false : (NetWorld.run source (present name) w).1 = false ↔
    (source.strike (.link none name) w.faults).1 ≠ none ∨
      ∀ p, w.host.deviceAt ⟨none, name⟩ ≠ some (.veth p) := by
  rw [present_eq, run_mapped_call]
  cases hs : (source.strike (.link none name) w.faults).1 with
  | some e =>
    rw [answer_struck hs]
    simp [Except.toOption]
  | none =>
    rw [answer_unstruck hs]
    cases hl : w.host.links[(⟨none, name⟩ : LinkId)]? with
    | none => simp [Host.answer, Host.link, Host.deviceAt, hl, Except.toOption]
    | some l =>
      simp [Host.answer, Host.link, Host.deviceAt, Host.record, hl, Except.toOption, kind_eq_veth]

end Veth

namespace Namespace

theorem present_eq (ns : String) : present ns =
    (fun reply => reply.toOption.any (·.contains ns)) <$>
      Program.call (I := netInterface) .namespaces := by
  refine congrArg (Program.ask _) (funext fun reply => ?_)
  cases reply <;> rfl

theorem trace_present (ns : String) (w : NetWorld φ) :
    (present ns).trace (NetWorld.answer source) w = [(w, .namespaces)] := by
  rw [present_eq, Program.trace_map]
  rfl

theorem run_present_eq_false : (NetWorld.run source (present ns) w).1 = false ↔
    (source.strike .namespaces w.faults).1 ≠ none ∨ ns ∉ w.host.netns := by
  rw [present_eq, run_mapped_call]
  cases hs : (source.strike .namespaces w.faults).1 with
  | some e =>
    rw [answer_struck hs]
    simp [Except.toOption]
  | none =>
    rw [answer_unstruck hs]
    simp [Host.answer, Except.toOption]

end Namespace

namespace Attachment

theorem run_survey (source : FaultSource φ) (names : WireNames) (w : NetWorld φ) :
    ((NetWorld.run source (survey names) w).1 = true ↔
      (NetWorld.run source (Veth.present names.hostVeth) w).1 = false ∧
      (NetWorld.run source (Namespace.present names.netns)
        (NetWorld.run source (Veth.present names.hostVeth) w).2).1 = false) ∧
    (NetWorld.run source (survey names) w).2.host = w.host := by
  constructor
  · simp only [NetWorld.run, survey, Program.run_bind, Program.pure_eq_done, Program.run_done,
      Bool.not_eq_true', Bool.or_eq_false_iff]
  · obtain ⟨_, h₁, hv, rest⟩ := yields_bind.mp (yields_run source (survey names) w)
    obtain ⟨_, h₂, hn, _, hend⟩ := yields_bind.mp rest
    rw [hend, (Namespace.present_outcome hn).1, (Veth.present_outcome hv).1]

/-- The look-ups of a survey, each with the world in which it is made. -/
theorem trace_survey (source : FaultSource φ) (names : WireNames) (w : NetWorld φ) :
    (survey names).trace (NetWorld.answer source) w =
      [(w, .link none names.hostVeth),
        ((NetWorld.run source (Veth.present names.hostVeth) w).2, .namespaces)] := by
  rw [survey, Program.trace_bind, Program.trace_bind, Veth.trace_present, Namespace.trace_present]
  rfl

theorem run_cleanup_refused {e : NetError} (hv : NameRule.sandbox.check sandbox = .error e)
    (w : NetWorld φ) : NetWorld.run source (cleanup sandbox bridge) w = (false, w) := by
  simp only [cleanup, forSandbox_eq_error.mpr hv]
  rfl

theorem run_cleanup_survey (hv : NameRule.sandbox.check sandbox = .ok ()) (w : NetWorld φ) :
    NetWorld.run source (cleanup sandbox bridge) w = NetWorld.run source (survey (.of sandbox))
      (NetWorld.run source (dismantle sandbox bridge) w).2 := by
  rw [cleanup_eq hv]
  exact Program.run_bind _ _ _ _

theorem cleanup_true_iff (source : FaultSource φ) (sandbox bridge : String) (w : NetWorld φ) :
    let dismantled := (NetWorld.run source (dismantle sandbox bridge) w).2
    let looked := (NetWorld.run source (Veth.present ("vh-" ++ sandbox)) dismantled).2
    let cleaned := NetWorld.run source (cleanup sandbox bridge) w
    cleaned.1 = true ↔ NameRule.sandbox.check sandbox = .ok () ∧
      ((source.strike (.link none ("vh-" ++ sandbox)) dismantled.faults).1 ≠ none ∨
        ∀ p, cleaned.2.host.deviceAt (hostEnd sandbox) ≠ some (.veth p)) ∧
      ((source.strike .namespaces looked.faults).1 ≠ none ∨
        "corral-" ++ sandbox ∉ cleaned.2.host.netns) := by
  intro dismantled looked cleaned
  cases hv : NameRule.sandbox.check sandbox with
  | error e =>
    have hrun : cleaned = (false, w) := run_cleanup_refused hv w
    simp [hrun]
  | ok u =>
    have hrun : cleaned = NetWorld.run source (survey (.of sandbox)) dismantled :=
      run_cleanup_survey hv w
    obtain ⟨hanswer, hhost⟩ := run_survey source (.of sandbox) dismantled
    have hlooked : looked.host = dismantled.host :=
      (Veth.present_outcome (yields_run source (Veth.present ("vh-" ++ sandbox)) dismantled)).1
    have hnear : (NetWorld.run source (Veth.present ("vh-" ++ sandbox)) dismantled).1 = false ↔ _ :=
      Veth.run_present_eq_false
    have hnetns : (NetWorld.run source (Namespace.present ("corral-" ++ sandbox)) looked).1 = false
        ↔ _ := Namespace.run_present_eq_false
    rw [hlooked] at hnetns
    rw [hrun, hhost]
    exact hanswer.trans ((and_congr hnear hnetns).trans (and_iff_right rfl).symm)

/-- What a clean-up answers is decided by its two last look-ups. It says that nothing is left just
if each of them finds nothing or fails; so if neither fails, it says so just if nothing is left. -/
theorem cleanup_answers (source : FaultSource φ) (sandbox bridge : String) (w : NetWorld φ) :
    let dismantled := (NetWorld.run source (dismantle sandbox bridge) w).2
    let looked := (NetWorld.run source (Veth.present ("vh-" ++ sandbox)) dismantled).2
    let cleaned := NetWorld.run source (cleanup sandbox bridge) w
    (Unstruck source (survey (.of sandbox)) dismantled →
      (cleaned.1 = true ↔
        NameRule.sandbox.check sandbox = .ok () ∧ Gone sandbox cleaned.2.host)) ∧
    (cleaned.1 = true ↔ NameRule.sandbox.check sandbox = .ok () ∧
      ((source.strike (.link none ("vh-" ++ sandbox)) dismantled.faults).1 ≠ none ∨
        ∀ p, cleaned.2.host.deviceAt (hostEnd sandbox) ≠ some (.veth p)) ∧
      ((source.strike .namespaces looked.faults).1 ≠ none ∨
        "corral-" ++ sandbox ∉ cleaned.2.host.netns)) := by
  intro dismantled looked cleaned
  have hexact := cleanup_true_iff source sandbox bridge w
  refine ⟨fun hu => ?_, hexact⟩
  have hsees := trace_survey source (.of sandbox) dismantled
  have hlink : (source.strike (.link none ("vh-" ++ sandbox)) dismantled.faults).1 = none := by
    apply hu (dismantled, _)
    rw [hsees]
    exact List.mem_cons_self
  have hlist : (source.strike .namespaces looked.faults).1 = none := by
    apply hu (looked, _)
    rw [hsees]
    exact List.mem_cons_of_mem _ List.mem_cons_self
  refine hexact.trans (and_congr_right fun _ => ⟨?_, ?_⟩)
  · rintro ⟨hnear | hnear, hnetns | hnetns⟩
    · exact absurd hlink hnear
    · exact absurd hlink hnear
    · exact absurd hlist hnetns
    · exact ⟨hnear, hnetns⟩
  · rintro ⟨hnear, hnetns⟩
    exact ⟨Or.inr hnear, Or.inr hnetns⟩

/-- A pair that cannot be deleted goes with its namespace, and the answer is right. -/
theorem cleanup_answers_undeletable :
    let wired := (NetWorld.run Fault.script (attach "br0" "web").run ⟨.initial, [], []⟩).2
    let w : NetWorld (List Fault) := { wired with faults := [⟨"delete_link", 0, none⟩] }
    let cleaned := NetWorld.run Fault.script (cleanup "web" "br0") w
    ¬ Gone "web" w.host ∧ cleaned.1 = true ∧ Gone "web" cleaned.2.host := by
  intro wired w cleaned
  have hthere : w.host.deviceAt (hostEnd "web") = some (.veth (innerEnd "web")) := by
    decide +kernel
  have hyes : cleaned.1 = true := by decide +kernel
  have hsees : Unstruck Fault.script (survey (.of "web"))
      (NetWorld.run Fault.script (dismantle "web" "br0") w).2 := by
    have hall : ((survey (.of "web")).trace (NetWorld.answer Fault.script)
        (NetWorld.run Fault.script (dismantle "web" "br0") w).2).all (fun made =>
          (Fault.script.strike made.2 made.1.faults).1.isNone) = true := by decide +kernel
    intro made hm
    exact Option.isNone_iff_eq_none.mp (List.all_eq_true.mp hall made hm)
  exact ⟨fun hg => hg.near _ hthere, hyes,
    (((cleanup_answers Fault.script "web" "br0" w).1 hsees).mp hyes).2⟩

/-- A clean-up whose look-ups all fail says that nothing is left, and has taken nothing away. -/
theorem cleanup_blind :
    let wired := (NetWorld.run Fault.script (attach "br0" "web").run ⟨.initial, [], []⟩).2
    let w : NetWorld (List Fault) :=
      { wired with faults := [⟨"link", 0, none⟩, ⟨"namespaces", 0, none⟩] }
    let cleaned := NetWorld.run Fault.script (cleanup "web" "br0") w
    w.host.Reachable ∧ cleaned.1 = true ∧
      cleaned.2.host.deviceAt (hostEnd "web") = some (.veth (innerEnd "web")) ∧
      "corral-web" ∈ cleaned.2.host.netns := by
  intro wired w cleaned
  have hr : w.host.Reachable := (yields_run Fault.script _ _).reachable .initial
  exact ⟨hr, by decide +kernel, by decide +kernel, by decide +kernel⟩

end Attachment

end SandboxNet
