import LitearmDriver.Bench
import LitearmDriver.TransitionCode

/-!
# When a parameter takes effect

`allow_motion`, `allow_dfu` and `zero_g_keepalive_period_s` are looked up in each call. Every
other parameter is read by `on_configure` and then kept: until the next `configure`, setting
it shows nowhere.
-/

namespace LitearmDriver

open Interaction Program

variable {σ : Type} {env : Environment σ} {g g' : World σ}

/-! ### Parameters that differ -/

/-- The same callback, and no `configure`; or updates that agree in what is looked up at call
time. -/
inductive Callback.Similar : Callback → Callback → Prop where
  | same {cb : Callback} (h : cb ≠ .changeState .configure) : Similar cb cb
  | update {p p' : Parameters} (h : p.callTime = p'.callTime) :
    Similar (.setParameters p) (.setParameters p')

/-- The reply to a service call. -/
def Callback.reply : (cb : Callback) → Except Abort cb.Result →
    Option (Σ s : Service, Except Abort s.Response)
  | .service s _, r => some ⟨s, r⟩
  | _, _            => none

/-! ### One callback -/

lemma Served.configured {s : Service} {α : Type} {p : Code α} (h : Served s p) :
    p.Blind Node.configured (fun _ => True) Plain := by
  cases h with
  | plain hs h => exact h.any.seesPlain.refine fun _ => rfl
  | @consulting f hf h hlocked =>
    refine sees_self (fun node => ?_) fun node => (h node).any.seesPlain.refine fun _ => rfl
    rw [hf node, hf node.configured]
    rfl

/-- No callback but `configure` looks at the other parameters. -/
lemma configured_code {cb : Callback} (hcb : cb ≠ .changeState .configure)
    (hset : ∀ p, cb ≠ .setParameters p) : cb.code.Blind Node.configured (fun _ => True) Plain := by
  cases cb with
  | changeState t =>
    apply configured_changeState
    rintro rfl
    exact hcb rfl
  | service s request =>
    by_cases hs : s = .reconnect
    · subst hs
      exact (seesPlain_of_working (seesWorking_handleReconnect _)).refine fun _ => rfl
    · exact (served_handle s hs request default).configured
  | statusTimer => exact Serving.publishStatus.seesPlain.refine fun _ => rfl
  | diagnosticsTimer => exact Serving.publishDiagnostics.seesPlain.refine fun _ => rfl
  | setParameters p => exact absurd rfl (hset p)

/-- An update leaves its call-time values in that view. -/
lemma configured_update (p : Parameters) (node : Node) :
    Node.configured { node with parameters := p } =
      { node.configured with parameters := p.callTime } := rfl

/-- Similar callbacks are answered alike and leave nodes that differ in no other way. -/
lemma Callback.Similar.alike {cb cb' : Callback} (h : cb.Similar cb')
    (hg : Alike Node.configured g g') :
    cb.reply (cb.code.run env g).1 = cb'.reply (cb'.code.run env g').1 ∧
      Alike Node.configured (cb.code.run env g).2 (cb'.code.run env g').2 := by
  have hupdate {p p' : Parameters} (hp : p.callTime = p'.callTime) :
      Alike Node.configured ((Callback.setParameters p).code.run env g).2
        ((Callback.setParameters p').code.run env g').2 := by
    have hshared := congrArg (fun node : Node => { node with parameters := p.callTime }) hg.shared
    refine ⟨(configured_update p _).trans (hshared.trans ?_), hg.outside, hg.history⟩
    rw [hp]
    exact (configured_update p' _).symm
  cases h with
  | update hp => exact ⟨rfl, hupdate hp⟩
  | same hcb =>
    by_cases hset : ∃ p, cb = .setParameters p
    · obtain ⟨p, rfl⟩ := hset
      exact ⟨rfl, hupdate rfl⟩
    · have hblind := configured_code hcb fun p hp => hset ⟨p, hp⟩
      obtain ⟨hresult, hend⟩ := (hblind.alike (fun f hf => hf.configured) env).eq hg
      exact ⟨congrArg cb.reply hresult, hend⟩

/-- Take two runs without a `configure`, from the same node or from nodes that differ only in
parameters read by `configure`, whose parameter updates agree in the three parameters that
are looked up at call time. Every call to the outside, every reply and every other member of
the node is the same. -/
theorem parameters_wait_for_configure {cbs cbs' : List Callback}
    (hcbs : List.Forall₂ Callback.Similar cbs cbs') (hg : Alike Node.configured g g') :
    observations env Callback.code (fun _ => true) Callback.reply cbs g =
        observations env Callback.code (fun _ => true) Callback.reply cbs' g' ∧
      Alike Node.configured (runAll env Callback.code cbs g)
        (runAll env Callback.code cbs' g') :=
  lockstep (fun _ _ hcb _ _ hg => hcb.alike hg) hcbs hg

/-- A new port and a new rate, set while the node is in service, and motion allowed. -/
theorem parameters_wait_for_configure_port :
    observations bench Callback.code (fun _ => true) Callback.reply
        [.setParameters { allowMotion := true, port := "/dev/ttyACM1", statusRateHz := 50 },
          .statusTimer, .service .home ()] configuredBench =
      observations bench Callback.code (fun _ => true) Callback.reply
        [.setParameters { allowMotion := true }, .statusTimer, .service .home ()]
        configuredBench := by
  refine (parameters_wait_for_configure ?_ ⟨rfl, rfl, rfl⟩).1
  exact .cons (.update rfl) (.cons (.same nofun) (.cons (.same nofun) .nil))

end LitearmDriver
