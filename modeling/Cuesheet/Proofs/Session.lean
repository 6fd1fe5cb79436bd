import Cuesheet.Proofs.Review
import Cuesheet.Proofs.Script.Assembly
import Cuesheet.Session

/-!
What a session comes to, step by step.

A step records an action or changes the last one, sets something, replaces the review or applies it
(`Step`). What is typed at a place of the settings is what the last step that sets it puts there
(`typed_run`), so of two runs that end alike at every place the settings are the same, whatever was set
in between (`settings_run_eq`). Recording goes on behind what has been reviewed: the lines of a preview
stay the first lines of the next (`body_preview_record`). And a review that names no place beyond the
recording does not come to name one, as long as no action is dropped (`placesBeyond_run`).
-/

namespace Cuesheet.Session

/-! ### Steps -/

/-- A place of the settings at which something can be typed. -/
inductive Place where
  | framework
  | locator (selector : Text)
  | template (slot : TemplateSlot)
  deriving DecidableEq

inductive Step where
  | record (a : Action)
  | revise (change : Action → Action)
  | set (p : Place) (text : Option Text)
  | review (r : Review)
  | apply

/-- What is typed at the place can be taken away again, not only replaced. -/
def Place.clears : Place → Bool
  | .framework | .template .click | .template .input => true
  | .locator _ | .template (.assertion _) => false

def set (s : Session) : Place → Option Text → Session
  | .framework, name => s.setFramework name
  | .locator selector, some expression => s.setLocator selector expression
  | .locator _, none => s
  | .template slot, template => s.setTemplate slot template

/-- The session after a step. Where there is no action none is changed. -/
def step (s : Session) : Step → Session
  | .record a => s.record a
  | .revise change => ((s.reviseLast change).map (·.1)).getD s
  | .set p text => s.set p text
  | .review r => { s with review := r }
  | .apply => s.applyReview

def run (s : Session) (steps : List Step) : Session := steps.foldl step s

variable {s : Session} {steps steps' : List Step} {p p' : Place} {text : Option Text}

/-! ### Settings -/

def typed (s : Session) (p : Place) : Option Text :=
  let u := s.settings.getD {}
  match p with
  | .framework => u.framework
  | .locator selector => u.locators.get? selector
  | .template .click => u.templates.click
  | .template .input => u.templates.input
  | .template (.assertion key) => u.templates.assertions.get? key

theorem typed_set_self (s : Session) (h : text.isSome = true ∨ p.clears = true) :
    (s.set p text).typed p = text := by
  cases p with
  | framework => rfl
  | locator selector =>
    cases text with
    | none => simp [Place.clears] at h
    | some expression => exact Dictionary.get?_insert_self ..
  | template slot =>
    cases slot with
    | click => rfl
    | input => rfl
    | assertion key =>
      cases text with
      | none => simp [Place.clears] at h
      | some template => exact Dictionary.get?_insert_self ..

theorem typed_set_of_ne (s : Session) (text : Option Text) (h : p' ≠ p) :
    (s.set p text).typed p' = s.typed p' := by
  cases p with
  | framework =>
    cases p' with
    | framework => exact absurd rfl h
    | locator selector => rfl
    | template slot => cases slot <;> rfl
  | locator selector =>
    cases text with
    | none => rfl
    | some expression =>
      cases p' with
      | framework => rfl
      | locator selector' =>
        exact Dictionary.get?_insert_of_ne _ (fun he => h (congrArg Place.locator he)) _
      | template slot => cases slot <;> rfl
  | template slot =>
    cases p' with
    | framework => cases slot <;> rfl
    | locator selector => cases slot <;> cases text <;> rfl
    | template slot' =>
      cases slot with
      | click => cases slot' <;> first | rfl | exact absurd rfl h
      | input => cases slot' <;> first | rfl | exact absurd rfl h
      | assertion key =>
        cases text with
        | none => cases slot' <;> rfl
        | some template =>
          cases slot' with
          | click => rfl
          | input => rfl
          | assertion key' =>
            refine Dictionary.get?_insert_of_ne _ (fun he => h ?_) _
            rw [he]

theorem typed_set_none (s : Session) (h : p.clears = false) (p' : Place) :
    (s.set p none).typed p' = s.typed p' := by
  cases p with
  | framework => cases h
  | locator selector => rfl
  | template slot =>
    cases slot with
    | click => cases h
    | input => cases h
    | assertion key =>
      cases p' with
      | framework => rfl
      | locator selector => rfl
      | template slot => cases slot <;> rfl

/-- What a step puts at a place, if it sets it. -/
def Step.puts (p' : Place) : Step → Option (Option Text)
  | .set p text => if p' = p ∧ (text.isSome = true ∨ p.clears = true) then some text else none
  | _ => none

theorem typed_congr {s' : Session} (h : s.settings = s'.settings) (p : Place) :
    s.typed p = s'.typed p := by
  unfold typed
  rw [h]

theorem step_revise (s : Session) (change : Action → Action) :
    (s.step (.revise change)).settings = s.settings ∧ (s.step (.revise change)).review = s.review := by
  show (((s.reviseLast change).map (·.1)).getD s).settings = _ ∧
    (((s.reviseLast change).map (·.1)).getD s).review = _
  rw [reviseLast]
  cases s.actions.getLast? <;> exact ⟨rfl, rfl⟩

/-- Setting something is about the settings only. -/
theorem set_frame (s : Session) (p : Place) (text : Option Text) :
    (s.set p text).actions = s.actions ∧ (s.set p text).review = s.review := by
  cases p with
  | locator selector => cases text <;> exact ⟨rfl, rfl⟩
  | _ => exact ⟨rfl, rfl⟩

/-- A step keeps what is typed at a place, unless it sets it. -/
theorem typed_step (s : Session) (x : Step) (p : Place) :
    (s.step x).typed p = (x.puts p).getD (s.typed p) := by
  cases x with
  | record a => rfl
  | revise change =>
    exact typed_congr (step_revise s change).1 p
  | review r => rfl
  | apply => rfl
  | set p' text =>
    show (s.set p' text).typed p = _
    by_cases hp : p = p'
    · subst hp
      by_cases hset : text.isSome = true ∨ p.clears = true
      · rw [typed_set_self s hset, Step.puts, if_pos ⟨rfl, hset⟩, Option.getD_some]
      · obtain ⟨htext, hclears⟩ := not_or.mp hset
        obtain rfl := Option.not_isSome_iff_eq_none.mp htext
        rw [typed_set_none s (Bool.eq_false_iff.mpr hclears), Step.puts, if_neg fun h => hset h.2,
          Option.getD_none]
    · rw [typed_set_of_ne s text hp, Step.puts, if_neg fun h => hp h.1, Option.getD_none]

/-- **What is typed at a place is what the last step that sets it puts there.** -/
theorem typed_run (s : Session) (steps : List Step) (p : Place) :
    (s.run steps).typed p = ((steps.filterMap (·.puts p)).getLast?).getD (s.typed p) := by
  induction steps generalizing s with
  | nil => rfl
  | cons x steps ih =>
    show ((s.step x).run steps).typed p = _
    rw [ih, typed_step, List.filterMap_cons]
    cases x.puts p with
    | none => rfl
    | some text =>
      rw [List.getLast?_cons, Option.getD_some]
      rfl

/-- Settings are the same if what is typed is the same at every place. -/
theorem settings_eq_of_typed {s' : Session} (hsome : s.settings.isSome = s'.settings.isSome)
    (h : ∀ p, s.typed p = s'.typed p) : s.settings = s'.settings := by
  cases hs : s.settings with
  | none =>
    rw [hs] at hsome
    exact (Option.not_isSome_iff_eq_none.mp (by simp [← hsome])).symm
  | some u =>
    rw [hs] at hsome
    obtain ⟨u', hs'⟩ := Option.isSome_iff_exists.mp hsome.symm
    have hplace : ∀ p, s.typed p = s'.typed p := h
    simp only [typed, hs, hs', Option.getD_some] at hplace
    have hlocators : u.locators = u'.locators := Dictionary.ext_get? fun k => hplace (.locator k)
    have hassertions : u.templates.assertions = u'.templates.assertions :=
      Dictionary.ext_get? fun k => hplace (.template (.assertion k))
    rw [hs']
    obtain ⟨framework, locators, click, input, assertions⟩ := u
    obtain ⟨framework', locators', click', input', assertions'⟩ := u'
    obtain rfl := hplace .framework
    obtain rfl := hplace (.template .click)
    obtain rfl := hplace (.template .input)
    obtain rfl := hlocators
    obtain rfl := hassertions
    rfl

/-- Whether a step makes settings, if there are none. -/
def Step.configures : Step → Bool
  | .set (.locator _) none => false
  | .set _ _ => true
  | _ => false

theorem isSome_settings_run (s : Session) (steps : List Step) :
    (s.run steps).settings.isSome = (s.settings.isSome || steps.any (·.configures)) := by
  induction steps generalizing s with
  | nil => exact (Bool.or_false _).symm
  | cons x steps ih =>
    have hstep : (s.step x).settings.isSome = (s.settings.isSome || x.configures) := by
      cases x with
      | revise change => rw [(step_revise s change).1]; exact (Bool.or_false _).symm
      | set p text =>
        cases p with
        | framework => exact (Bool.or_true _).symm
        | template slot => exact (Bool.or_true _).symm
        | locator selector => cases text <;> simp [step, set, setLocator, configure, Step.configures]
      | record a => exact (Bool.or_false _).symm
      | review r => exact (Bool.or_false _).symm
      | apply => exact (Bool.or_false _).symm
    show ((s.step x).run steps).settings.isSome = _
    rw [ih, hstep, List.any_cons, Bool.or_assoc]

/-- **Only what is set last counts.** Two runs that end alike at every place leave the same settings,
whatever else they set, and in whatever order. -/
theorem settings_run_eq (hany : steps.any (·.configures) = steps'.any (·.configures))
    (h : ∀ p, (steps.filterMap (·.puts p)).getLast? = (steps'.filterMap (·.puts p)).getLast?) :
    (s.run steps).settings = (s.run steps').settings := by
  refine settings_eq_of_typed ?_ fun p => ?_
  · rw [isSome_settings_run, isSome_settings_run, hany]
  · rw [typed_run, typed_run, h]

/-! ### Recording under a review -/

theorem applyFrom_append (r : Review) (start : Nat) (as bs : List Action) :
    r.applyFrom start (as ++ bs) = r.applyFrom start as ++ r.applyFrom (start + as.length) bs := by
  rw [Review.applyFrom_eq, Review.applyFrom_eq, Review.applyFrom_eq, List.zipIdx_append,
    List.filter_append, List.map_append]

theorem run_record (s : Session) (as : List Action) :
    s.run (as.map .record) = { s with actions := s.actions ++ as } := by
  induction as generalizing s with
  | nil =>
    rw [List.append_nil]
    rfl
  | cons a as ih =>
    show (s.record a).run (as.map .record) = _
    rw [ih, record, List.append_assoc, List.singleton_append]

/-- What a review makes of the actions recorded so far stays when more are recorded. -/
theorem applyReview_run_record (s : Session) (as : List Action) :
    (s.run (as.map .record)).applyReview.actions =
      s.applyReview.actions ++ s.review.applyFrom s.actions.length as := by
  rw [run_record]
  show s.review.applyFrom 0 (s.actions ++ as) = _
  rw [applyFrom_append, Nat.zero_add]
  rfl

/-- **The lines of a preview stay the first lines of the next**, and what is recorded adds those of its
own actions, as the review edits them. -/
theorem body_preview_record {u : UserSettings} (hu : s.settings = some u)
    (hne : s.applyReview.actions ≠ []) (as : List Action) :
    Script.body u.resolve.framework (s.run (as.map .record)).preview =
      Script.body u.resolve.framework s.preview ++
        (s.review.applyFrom s.actions.length as).flatMap (Script.stepLines u.resolve) := by
  have hpreview : ∀ s' : Session, s'.settings = some u → s'.applyReview.actions ≠ [] →
      Script.body u.resolve.framework s'.preview =
        s'.applyReview.actions.flatMap (Script.stepLines u.resolve) := by
    intro s' hu' hne'
    have hscript : s'.preview = Script.configured u.resolve s'.applyReview.actions := by
      show Script.generate s'.settings s'.applyReview.actions = _
      rw [hu']
      rfl
    rw [hscript]
    exact Script.body_configured hne'
  have hrun := applyReview_run_record s as
  rw [hpreview _ (by rw [run_record]; exact hu) (by rw [hrun]; simp [hne]), hpreview s hu hne, hrun,
    List.flatMap_append]

/-! ### Places of the review -/

/-- Every place that the review names is one of the recording. -/
def UpToDate (s : Session) : Prop := ∀ i ∈ s.review.mentions, i < s.actions.length

theorem UpToDate.placesBeyond_eq_nil (h : s.UpToDate) : s.placesBeyond = [] := by
  have hnone : s.review.mentions.filter (s.actions.length ≤ ·) = [] := by
    refine List.filter_eq_nil_iff.mpr fun i hi => ?_
    have := h i hi
    simpa using this
  rw [placesBeyond, Review.placesBeyond, hnone]
  rfl

/-- The step drops no action, nor does it bring a review that names a place beyond the recording. -/
def Step.Careful (s : Session) : Step → Prop
  | .review r => ∀ i ∈ r.mentions, i < s.actions.length
  | .apply => ∀ i < s.actions.length, s.review.keeps i = true
  | _ => True

/-- Every step of a run is careful where it is made. -/
def Careful (s : Session) : List Step → Prop
  | [] => True
  | x :: steps => x.Careful s ∧ (s.step x).Careful steps

theorem length_apply_of_keeps {r : Review} {actions : List Action}
    (h : ∀ i < actions.length, r.keeps i = true) : (r.apply actions).length = actions.length := by
  have hall : actions.zipIdx.filter (r.keeps ·.2) = actions.zipIdx := by
    refine List.filter_eq_self.mpr fun x hx => h _ ?_
    exact (List.getElem?_eq_some_iff.mp (List.mem_zipIdx_iff_getElem?.mp hx)).1
  rw [Review.apply, Review.applyFrom_eq, hall, List.length_map, List.length_zipIdx]

/-- A careful step drops no action. -/
theorem Step.Careful.length_le {x : Step} (hx : x.Careful s) :
    s.actions.length ≤ (s.step x).actions.length := by
  cases x with
  | record a => exact Nat.le.intro (List.length_append ..).symm
  | revise change =>
    show _ ≤ (((s.reviseLast change).map (·.1)).getD s).actions.length
    rw [reviseLast]
    cases hlast : s.actions.getLast? with
    | none => exact Nat.le_refl _
    | some a =>
      have hpos : 0 < s.actions.length := by
        cases hs : s.actions with
        | nil => rw [hs] at hlast; cases hlast
        | cons b bs => exact Nat.succ_pos _
      simp only [Option.map_some, Option.getD_some, List.length_append, List.length_dropLast,
        List.length_singleton]
      omega
  | set p text => exact Nat.le_of_eq (congrArg List.length (set_frame s p text).1).symm
  | review r => exact Nat.le_refl _
  | apply => exact Nat.le_of_eq (length_apply_of_keeps hx).symm

theorem UpToDate.step {x : Step} (h : s.UpToDate) (hx : x.Careful s) : (s.step x).UpToDate := by
  have hle := hx.length_le
  have hreview : (∃ r, x = .review r) ∨ (s.step x).review = s.review := by
    cases x with
    | review r => exact .inl ⟨r, rfl⟩
    | revise change => exact .inr (step_revise s change).2
    | set p text => exact .inr (set_frame s p text).2
    | record a => exact .inr rfl
    | apply => exact .inr rfl
  rcases hreview with ⟨r, rfl⟩ | hreview
  · exact hx
  · intro i hi
    rw [hreview] at hi
    exact Nat.lt_of_lt_of_le (h i hi) hle

/-- A careful run brings no place beyond the recording into the review, and drops no action. -/
theorem UpToDate.run (h : s.UpToDate) (hsteps : s.Careful steps) :
    (s.run steps).UpToDate ∧ s.actions.length ≤ (s.run steps).actions.length := by
  induction steps generalizing s with
  | nil => exact ⟨h, Nat.le_refl _⟩
  | cons x steps ih =>
    obtain ⟨hx, hsteps⟩ := hsteps
    obtain ⟨hdate, hle⟩ := ih (h.step hx) hsteps
    exact ⟨hdate, Nat.le_trans hx.length_le hle⟩

/-- A review that names no place beyond the recording names none after a careful run. -/
theorem placesBeyond_run (h : s.UpToDate) (hsteps : s.Careful steps) :
    (s.run steps).placesBeyond = [] := (h.run hsteps).1.placesBeyond_eq_nil

end Cuesheet.Session
