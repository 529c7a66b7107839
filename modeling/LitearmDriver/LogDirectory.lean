import LitearmDriver.ServiceCalls
import LitearmDriver.Text

/-!
# Log dumps inside the log directory

A log is written under a name the caller chooses. The name is one component of a path and
nothing else, so that the file lies in the log directory itself.
-/

namespace LitearmDriver

open Interaction Program

variable {σ : Type} {env : Environment σ} {g : World σ}

/-! ### Paths -/

/-- The components of a path, between slashes. -/
def pathComponents (path : String) : List String :=
  (Text.components '/' path.toList).map String.ofList

/-- The path starts at the root. -/
def IsAbsolute (path : String) : Prop := path.toList.head? = some '/'

/-- A name of a file, which leads nowhere else: not empty, without separators, not a dot
component. -/
structure PlainName (name : String) : Prop where
  nonempty : name ≠ ""
  slash : '/' ∉ name.toList
  backslash : '\\' ∉ name.toList
  dot : name ≠ "."
  dots : name ≠ ".."

/-- The path of a file of this name inside the directory. -/
structure Inside (dir name path : String) : Prop where
  components : pathComponents path = pathComponents dir ++ [name]
  absolute : IsAbsolute path ↔ IsAbsolute dir

lemma PlainName.toList_ne_nil {name : String} (h : PlainName name) : name.toList ≠ [] := by
  simpa using h.nonempty

/-- In one directory different names have different paths. -/
lemma Inside.name_unique {dir name name' path : String} (h : Inside dir name path)
    (h' : Inside dir name' path) : name = name' := by
  have hsame := List.append_cancel_left (h.components.symm.trans h'.components)
  exact (List.cons.inj hsame).1

/-- The gate lets through the plain names, and no others. -/
lemma checkLogFilename_ok_iff (name : String) :
    (checkLogFilename name).ok = true ↔ PlainName name := by
  rw [checkLogFilename]
  split
  case isTrue hempty =>
    simp only [fail_ok, Bool.false_eq_true, false_iff]
    exact fun h => h.nonempty hempty
  case isFalse hne =>
    split
    case isTrue hother =>
      simp only [fail_ok, Bool.false_eq_true, false_iff]
      intro h
      rcases hother with hslash | hbackslash | hdot | hdots
      · exact h.slash (by simpa using hslash)
      · exact h.backslash (by simpa using hbackslash)
      · exact h.dot hdot
      · exact h.dots hdots
    case isFalse hother =>
      simp only [GateResult.pass_ok, true_iff]
      simp only [not_or] at hother
      obtain ⟨hslash, hbackslash, hdot, hdots⟩ := hother
      exact ⟨hne, by simpa using hslash, by simpa using hbackslash, hdot, hdots⟩

/-- A path that ends in a slash and a plain name lies in the directory before them. -/
lemma inside_of_append {name dir path : String} {front : List Char} (h : PlainName name)
    (hpath : path.toList = front ++ '/' :: name.toList)
    (hdir : Text.components '/' dir.toList = Text.components '/' front)
    (hroot : path.toList.head? = dir.toList.head?) : Inside dir name path := by
  constructor
  · rw [pathComponents, hpath, Text.components_append,
      Text.components_singleton h.toList_ne_nil h.slash, pathComponents, hdir]
    simp
  · rw [IsAbsolute, hroot, IsAbsolute]

/-- A plain name is appended to the directory as one more component. -/
lemma inside_joinPath {name : String} (h : PlainName name) (dir : String) :
    Inside dir name (joinPath dir name) := by
  have hrelative : ¬ name.startsWith "/" = true := by
    rw [String.startsWith_string_iff]
    intro hstart
    exact h.slash (hstart.subset List.mem_cons_self)
  rw [joinPath, if_neg hrelative]
  by_cases hempty : dir = ""
  · rw [if_pos (.inl hempty), hempty, String.empty_append]
    constructor
    · rw [pathComponents, Text.components_singleton h.toList_ne_nil h.slash]
      simp [pathComponents]
    · apply iff_of_false
      · intro habsolute
        exact h.slash (List.mem_of_head? habsolute)
      · simp [IsAbsolute]
  by_cases htrailing : dir.endsWith "/" = true
  · rw [if_pos (.inr htrailing)]
    rw [String.endsWith, String.Slice.endsWith_string_iff, String.copy_toSlice] at htrailing
    obtain ⟨front, hfront⟩ := htrailing
    have hpath : (dir ++ name).toList = front ++ '/' :: name.toList := by
      rw [String.toList_append, ← hfront, List.append_assoc]
      rfl
    apply inside_of_append h hpath
    · rw [← hfront]
      exact (Text.components_append front []).trans (List.append_nil _)
    · rw [hpath, ← hfront]
      cases front <;> rfl
  · rw [if_neg (not_or.mpr ⟨hempty, htrailing⟩)]
    have hpath : (dir ++ "/" ++ name).toList = dir.toList ++ '/' :: name.toList := by
      rw [String.toList_append, String.toList_append, List.append_assoc]
      rfl
    apply inside_of_append h hpath rfl
    rw [hpath]
    cases hdir : dir.toList with
    | nil => exact absurd (by simpa using hdir) hempty
    | cons c rest => rfl

/-! ### The service -/

/-- A name that is not plain is refused before anything is called. -/
lemma logDump_refused {request : LogDump.Request} (h : ¬ PlainName request.filename) :
    step env (.service .logDump request) g = g := by
  have hgate : ¬ (checkLogFilename request.filename).ok = true :=
    fun hok => h ((checkLogFilename_ok_iff _).mp hok)
  have hrun : (handleLogDump request default).run env g =
      (.ok (Reply.fillFailure default (checkLogFilename request.filename)), g) := by
    rw [handleLogDump, refuseUnless, if_neg hgate]
    rfl
  exact congrArg Prod.snd hrun

/-- The call has the SDK dump the log to this path. -/
def DumpsTo (env : Environment σ) (g : World σ) (request : LogDump.Request) (path : String) :
    Prop :=
  ∃ wait timeout retries waitS,
    SendsOnly env g .logDump request (.logDump path wait timeout retries waitS)

/-- The path of a dump is that of a file in the log directory. -/
lemma DumpsTo.inside {request : LogDump.Request} {path : String}
    (h : DumpsTo env g request path) : Inside g.shared.logDir request.filename path := by
  obtain ⟨wait, timeout, retries, waitS, hsends⟩ := h
  have hdecides : Decides env g _ _ (Service.handle .logDump request default) :=
    decides_handleLogDump request default
  obtain ⟨⟨hname, -⟩, hc⟩ := (sendsOnly_iff_of_decides hdecides _).mp hsends
  rw [(Command.logDump.inj hc).1]
  exact inside_joinPath ((checkLogFilename_ok_iff _).mp hname) _

/-- Log dumps go into the log directory, each under its own name. -/
structure DumpsInside (env : Environment σ) (g : World σ) : Prop where
  /-- Whatever is sent is a dump under the name of the request, which is plain. -/
  inside : ∀ request new, sent (step env (.service .logDump request) g) = new ++ sent g →
    ∀ e ∈ new, ∃ path wait timeout retries waitS,
      e.1 = .logDump path wait timeout retries waitS ∧
        Inside g.shared.logDir request.filename path ∧ PlainName request.filename
  /-- Into one directory, calls with different names dump to different paths. -/
  distinct : ∀ g' : World σ, g'.shared.logDir = g.shared.logDir → ∀ request request' path,
    DumpsTo env g request path → DumpsTo env g' request' path →
      request.filename = request'.filename
  /-- Any other name is refused without a call. -/
  refused : ∀ request : LogDump.Request, ¬ PlainName request.filename →
    Refuses env g .logDump request ∧
      (step env (.service .logDump request) g).history = g.history
  /-- Every plain name passes the gate. -/
  passes : ∀ name, PlainName name → (checkLogFilename name).ok = true

/-- Every log dump goes to a file inside the log directory. -/
theorem dumps_inside : ∀ g : World σ, DumpsInside env g := by
  intro g
  have hdecides (request : LogDump.Request) : Decides env g _ _
      (Service.handle .logDump request default) := decides_handleLogDump request default
  constructor
  · intro request new hnew e he
    obtain ⟨⟨hname, -⟩, hc⟩ := sent_of_decides (hdecides request) hnew e he
    have hplain := (checkLogFilename_ok_iff _).mp hname
    exact ⟨_, _, _, _, _, hc, inside_joinPath hplain _, hplain⟩
  · intro g' hdir request request' path h h'
    have hinside := h'.inside
    rw [hdir] at hinside
    exact h.inside.name_unique hinside
  · intro request hnot
    refine ⟨?_, by rw [logDump_refused hnot]⟩
    apply refuses_of_decides (hdecides request)
    rintro ⟨hname, -⟩
    exact hnot ((checkLogFilename_ok_iff _).mp hname)
  · intro name hplain
    exact (checkLogFilename_ok_iff name).mpr hplain

end LitearmDriver
