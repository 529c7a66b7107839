import LitearmDriver.CachedFrame

/-!
# Where the cached frame comes from

The cache holds one whole frame together with its stamp, as the SDK handed them out in one
answer. No two frames are ever mixed in it.
-/

namespace LitearmDriver

open Interaction Program

variable {σ : Type} {env : Environment σ} {g : World σ}

/-! ### Frames handed out -/

/-- The frame was handed out among these events. -/
def Given (events : List (Event Call.Answer)) (f : StampedFrame) : Prop :=
  ∃ e ∈ events, frameOf e = some f

lemma Given.mono {events events' : List (Event Call.Answer)} {f : StampedFrame}
    (h : Given events f) (hsub : ∀ e ∈ events, e ∈ events') : Given events' f := by
  obtain ⟨e, he, hframe⟩ := h
  exact ⟨e, hsub e he, hframe⟩

/-- The frame in the cache was handed out in the run. -/
def Remembers (g : World σ) : Prop := ∀ f, g.shared.stamped = some f → Given g.history f

/-- The events leave the cache empty, or as it was, or with a frame handed out among them. -/
def KeepsFrame (node : Node) (new : List (Event Call.Answer)) (node' : Node) : Prop :=
  node'.stamped = none ∨ node'.stamped = node.stamped ∨ ∃ f, node'.stamped = some f ∧ Given new f

lemma KeepsFrame.remembers {new : List (Event Call.Answer)} {g' : World σ}
    (h : KeepsFrame g.shared new g'.shared) (hnew : g'.history = new ++ g.history)
    (hg : Remembers g) : Remembers g' := by
  intro f hf
  rw [hnew]
  rcases h with hnone | hsame | ⟨f', hf', hgiven⟩
  · cases hnone.symm.trans hf
  · apply (hg f (hsame.symm.trans hf)).mono
    intro e he
    exact List.mem_append_right _ he
  · cases hf'.symm.trans hf
    apply hgiven.mono
    intro e he
    exact List.mem_append_left _ he

/-! ### One callback -/

lemma stamped_of_sessionData {node node' : Node} (h : node'.sessionData = node.sessionData) :
    node'.stamped = node.stamped := by
  obtain ⟨-, -, hhave, hstate, hstamp⟩ := (SessionData.mk.injEq _ _ _ _ _ _ _ _ _ _).mp h
  rw [Node.stamped, Node.stamped, Node.cached, Node.cached, hhave, hstate, hstamp]

lemma stamped_of_empty {node : Node} (h : node.haveState = false) : node.stamped = none := by
  simp [Node.stamped, Node.cached, h]

/-- A transition hands the node no frame. -/
lemma keepsFrame_change {t : Transition} {r : Except Abort Unit} {g' : World σ}
    {new : List (Event Call.Answer)} (hstep : TransitionStep env g t r g') :
    KeepsFrame g.shared new g'.shared := by
  have hopened {home : Option String} {axes : Nat} {x : Except String LicenseInfo} {node : Node}
      (h : node.sessionData = ((g.shared.prepare home).openSession axes x).sessionData) :
      node.stamped = none := by
    apply stamped_of_empty
    apply (congrArg SessionData.haveState h).trans
    cases x <;> rfl
  by_cases ht : t = .configure
  · subst ht
    cases hstep with
    | unavailable => exact .inr (.inl rfl)
    | unopened home hstate harm hshared =>
      left
      apply stamped_of_empty
      rw [hshared]
      rfl
    | unpublished home axes hstate hframe =>
      exact .inl (hopened (sessionData_withoutEntities hframe))
    | @configured home axes x _ _ hstate hshared =>
      have hkept := sessionData_withoutEntities
        (touchesEntities_addPublishers ((g.shared.prepare home).openSession axes x))
      left
      rw [hshared]
      exact hopened hkept
  · rcases hstep.keepsSession ht with hdata | hended
    · exact .inr (.inl (stamped_of_sessionData hdata))
    · exact .inl (stamped_of_empty (congrArg Node.haveState hended))

lemma keepsFrame_service {s : Service} {r : Except Abort s.Response} {g' : World σ}
    {new : List (Event Call.Answer)} (hexit : ServiceExit env g s r g')
    (hnew : g'.history = new ++ g.history) : KeepsFrame g.shared new g'.shared := by
  cases hexit with
  | declined hlog hshared =>
    rw [hshared]
    exact .inr (.inl rfl)
  | @issued _ _ c x _ _ howner hlog hshared =>
    have hcommands := hlog.commandsOf_new hnew
    rw [hshared]
    rcases c.effect_frame x g.shared with ⟨state, stamp, hframe, heffect⟩ | ⟨hstate, hhave, hstamp⟩
    · have hmem : ⟨.command c, x⟩ ∈ new := mem_commandsOf.mp (by simp [hcommands])
      rw [heffect]
      exact .inr (.inr ⟨(state, stamp), rfl, ⟨_, hmem, hframe⟩⟩)
    · right
      left
      rw [Node.stamped, Node.stamped, Node.cached, Node.cached, hhave, hstate, hstamp]
  | reconnected _ hexit =>
    cases hexit with
    | unconfigured => exact .inr (.inl rfl)
    | unreachable => exact .inr (.inl rfl)
    | unlicensed => exact .inr (.inl rfl)
    | rebuilt => exact .inr (.inl rfl)

lemma Remembers.refreshed {g₁ : World σ} (h : Remembers g) (hrefreshed : Refreshed env g g₁) :
    Remembers g₁ := by
  cases hrefreshed with
  | unasked => exact h
  | missed =>
    have hkeeps : KeepsFrame g.shared [⟨.query .getState, g.answer env (.query .getState)⟩]
        (g.after env (.query .getState)).shared := .inr (.inl rfl)
    exact hkeeps.remembers rfl h
  | @held harm state stamp hframe =>
    have hkeeps : KeepsFrame g.shared [⟨.query .getState, g.answer env (.query .getState)⟩]
        (g.shared.holdFrame state stamp) := by
      refine .inr (.inr ⟨(state, stamp), rfl, _, List.mem_singleton_self _, ?_⟩)
      rw [hframe]
      rfl
    exact KeepsFrame.remembers hkeeps rfl h

lemma Remembers.delivers {g' : World σ} (h : Remembers g) (hdelivers : Delivers g g') :
    Remembers g' := by
  obtain ⟨hshared, new, hnew, -⟩ := hdelivers
  refine KeepsFrame.remembers (.inr (.inl ?_)) hnew h
  rw [hshared]

/-- One callback. -/
theorem remembers_step (cb : Callback) (h : Remembers g) : Remembers (step env cb g) := by
  obtain ⟨new, hnew⟩ := run_history cb.code env g
  cases cb with
  | changeState t =>
    have hstep : (changeState t).wp env (TransitionStep env g t) g := change_step t
    exact (keepsFrame_change hstep).remembers hnew h
  | service s request =>
    have hexit : (s.handle request default).wp env (ServiceExit env g s) g :=
      handle_exit s request default
    exact (keepsFrame_service hexit hnew).remembers hnew h
  | statusTimer =>
    obtain ⟨-, g₁, hrefreshed, hdelivers⟩ : publishStatus.wp env _ g := publishStatus_delivers
    exact (h.refreshed hrefreshed).delivers hdelivers
  | diagnosticsTimer =>
    obtain ⟨-, hdelivers⟩ : publishDiagnostics.wp env _ g := publishDiagnostics_delivers
    exact h.delivers hdelivers
  | setParameters p => exact h

theorem remembers_reachable (h : Reachable env g) : Remembers g := by
  apply h.invariant (I := Remembers)
  · intro name p w f hf
    cases hf
  · intro cb g _ hg
    exact remembers_step cb hg

/-! ### The frame of a status tick -/

lemma Refreshed.jointNames {g₁ : World σ} (h : Refreshed env g g₁) :
    g₁.shared.jointNames = g.shared.jointNames := by
  cases h with
  | unasked => rfl
  | missed => rfl
  | held => rfl

/-- The frame a status tick shows: the one the SDK holds, or else the one in the cache. -/
def frameSeen (env : Environment σ) (g : World σ) : Option RobotState :=
  if g.shared.arm.isNone then g.shared.cached
  else match g.answer env (.query .getState) with
    | .ok ⟨some state, _⟩ => some state
    | _                   => g.shared.cached

/-- The frame a status tick shows, with its stamp. -/
def stampedSeen (env : Environment σ) (g : World σ) : Option StampedFrame :=
  if g.shared.arm.isNone then g.shared.stamped
  else match g.answer env (.query .getState) with
    | .ok ⟨some state, stamp⟩ => some (state, stamp)
    | _                       => g.shared.stamped

lemma Node.stamped_fst (node : Node) : node.stamped.map Prod.fst = node.cached := by
  rw [Node.stamped, Option.map_map]
  exact Option.map_id'

lemma stampedSeen_fst : (stampedSeen env g).map Prod.fst = frameSeen env g := by
  rw [stampedSeen, frameSeen]
  split
  · exact g.shared.stamped_fst
  · split
    · rfl
    · exact g.shared.stamped_fst

/-- A frame that the SDK holds is the frame of the tick. -/
lemma stampedSeen_of_held {state : RobotState} {stamp : Double}
    (harm : g.shared.arm.isSome = true)
    (hframe : g.answer env (.query .getState) = .ok ⟨some state, stamp⟩) :
    stampedSeen env g = some (state, stamp) := by
  rw [stampedSeen, if_neg (by simpa [Option.isSome_iff_ne_none] using harm), hframe]

lemma frameSeen_of_held {state : RobotState} {stamp : Double}
    (harm : g.shared.arm.isSome = true)
    (hframe : g.answer env (.query .getState) = .ok ⟨some state, stamp⟩) :
    frameSeen env g = some state := by
  rw [← stampedSeen_fst, stampedSeen_of_held harm hframe]
  rfl

/-- After looking at the SDK's frame the cache holds the frame of the tick. -/
lemma Refreshed.stamped {g₁ : World σ} (h : Refreshed env g g₁) :
    g₁.shared.stamped = stampedSeen env g := by
  cases h with
  | unasked harm => rw [stampedSeen, harm, Option.isNone_none, if_pos rfl]
  | missed hmissing =>
    rw [stampedSeen]
    split
    · rfl
    · split
      case h_1 state stamp hanswer => exact absurd hanswer (hmissing state stamp)
      case h_2 => rfl
  | held harm hframe => exact (stampedSeen_of_held harm hframe).symm

lemma Refreshed.cached {g₁ : World σ} (h : Refreshed env g g₁) :
    g₁.shared.cached = frameSeen env g := by
  rw [← Node.stamped_fst, h.stamped, stampedSeen_fst]

end LitearmDriver
