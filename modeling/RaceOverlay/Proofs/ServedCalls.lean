import RaceOverlay.Proofs.ScriptCalls
import RaceOverlay.Theme.Basic
import RaceOverlay.Tick.Render

/-!
# Every listed call is served

Scripts are only ever added to a registry or replaced by others of their name, so a script that was
there when a theme was compiled is there in every tick. To tell which calls a tick makes, it is
rendered with scripts that keep a log of their work; apart from the log, it is rendered as always.
-/
namespace RaceOverlay

/-- A call as a script gets it. -/
structure Invocation where
  script : String
  method : String
  occasion : Occasion

def Event.missing? : Event → Option String
  | .scriptMissing name => some name
  | _ => none

namespace Registry

variable (r : Registry)

theorem names_register (script : Script) :
    (r.register script).names = r.names.filter (· != script.name) ++ [script.name] := by
  simp only [register, names, List.map_append, List.map_cons, List.map_nil, List.filter_map]
  rfl

/-- A name is never lost, also when another script takes it. -/
theorem mem_names_register {name : String} (script : Script) :
    name ∈ (r.register script).names ↔ name = script.name ∨ name ∈ r.names := by
  rw [names_register, List.mem_append, List.mem_filter, List.mem_singleton, bne_iff_ne]
  by_cases hname : name = script.name
  · simp [hname]
  · simp [hname]

theorem mem_names_after {name : String} (h : name ∈ r.names) (later : List Script) :
    name ∈ (later.foldl register r).names := by
  induction later generalizing r with
  | nil => exact h
  | cons script later ih =>
    apply ih
    exact (r.mem_names_register script).2 (.inr h)

variable {r}

theorem invoke_of_mem {name : String} (h : name ∈ r.names) :
    ∃ s ∈ r.scripts, s.name = name ∧
      ∀ method occasion, r.invoke name method occasion = (s.answer method occasion, []) := by
  cases hs : r.script? name with
  | none =>
    obtain ⟨s, hmem, hname⟩ := List.mem_map.1 h
    have hne := List.find?_eq_none.1 hs s hmem
    rw [beq_iff_eq] at hne
    exact absurd hname hne
  | some s =>
    have hname := List.find?_some hs
    refine ⟨s, List.mem_of_find?_eq_some hs, eq_of_beq hname, fun method occasion => ?_⟩
    rw [invoke, hs]

theorem invoke_of_not_mem {name : String} (h : name ∉ r.names) (method : String)
    (occasion : Occasion) : r.invoke name method occasion = ("", [.scriptMissing name]) := by
  have hs : r.script? name = none := by
    apply List.find?_eq_none.2
    intro s hmem hname
    exact h (List.mem_map.2 ⟨s, hmem, eq_of_beq hname⟩)
  rw [invoke, hs]

/-- Answers a call and logs it. -/
def logged (r : Registry) (name method : String) (occasion : Occasion) :
    StateM (List Invocation) (String × List Event) := do
  modify (· ++ [⟨name, method, occasion⟩])
  return r.invoke name method occasion

end Registry

namespace Scene

section Effects

variable {m : Type → Type} [Monad m]
variable (invoke : String → String → Occasion → m (String × List Event)) (scene : Scene)

/-- The answers to the calls of a label, where scripts answer with effects. -/
def answersM (label : Label) (occasion : Occasion) : m (List (String × List Event)) :=
  label.calls.mapM fun c => invoke c.script c.method occasion

def renderStandingM (label : Label) (session : Session) (standing : Standing) (cache : Caches) :
    m Rendered := do
  let (fields, standings) :=
    cache.standings.fetch (.ofStanding session.id standing.driver.car) label.rounding fun _ =>
      StandingView.fields ⟨scene, session, standing, label.rounding⟩
  let answers ←
    answersM invoke label (scene.occasion (.standing standing) session label.rounding)
  return {
    text := label.render fields (answers.map (·.1))
    cache := { cache with standings }
    events := answers.flatMap (·.2) }

def renderSessionM (label : Label) (session : Session) (cache : Caches) : m Rendered := do
  let (fields, sessions) :=
    cache.sessions.fetch (.ofSession session.id) label.rounding fun _ =>
      SessionView.fields ⟨scene, session, label.rounding⟩
  let answers ← answersM invoke label (scene.occasion .session session label.rounding)
  return {
    text := label.render fields (answers.map (·.1))
    cache := { cache with sessions }
    events := answers.flatMap (·.2) }

def renderLabelM (l : Theme.Entry) (cache : Caches) : m Rendered :=
  match l.spec.subject scene.weekend scene.external with
  | .noSession => return ⟨"", cache, [.sessionMissing l.spec.name]⟩
  | .noStanding => return ⟨"", cache, []⟩
  | .standing session standing => scene.renderStandingM invoke l.label session standing cache
  | .session session => scene.renderSessionM invoke l.label session cache

def renderLabelsM (cache : Caches) :
    List Theme.Entry → m (List Report.Entry × Caches × List Event)
  | [] => return ([], cache, [])
  | l :: ls => do
    let first ← scene.renderLabelM invoke l cache
    let (labels, cache, events) ← renderLabelsM first.cache ls
    return (⟨l.spec.name, first.text⟩ :: labels, cache, first.events ++ events)

/-- A tick where scripts answer with effects. -/
def renderM (cache : Caches) (tick : Nat) : m (Report × Caches × List Event) := do
  let (labels, cache, events) ← scene.renderLabelsM invoke cache.cleared scene.theme.labels
  let report : Report := {
    tick
    session := match scene.weekend.current? with
      | some s => s.id
      | none => -1
    labels
    cache := cache.counts }
  return (report, cache,
    events ++ [.tickRendered tick labels.length report.cache.hits report.cache.misses])

end Effects

variable (scene : Scene)

/-- What a label is rendered for, if it has a subject. -/
def occasion? (l : Theme.Entry) : Option Occasion :=
  match l.spec.subject scene.weekend scene.external with
  | .noSession | .noStanding => none
  | .standing session standing =>
    some (scene.occasion (.standing standing) session l.label.rounding)
  | .session session => some (scene.occasion .session session l.label.rounding)

/-- Each call of a label that has a subject, once. -/
def invocations (l : Theme.Entry) : List Invocation :=
  match scene.occasion? l with
  | some occasion => l.label.calls.map fun c => ⟨c.script, c.method, occasion⟩
  | none => []

private theorem run_bind_of_run {σ α β : Type} {x : StateM σ α} {f : α → StateM σ β}
    {s t : σ} {a : α} (h : x.run s = (a, t)) : (x >>= f).run s = (f a).run t := by
  rw [StateT.run_bind, h]
  rfl

theorem run_answersM (label : Label) (occasion : Occasion) (log : List Invocation) :
    (answersM scene.scripts.logged label occasion).run log =
      (scene.answers label occasion,
        log ++ label.calls.map fun c => ⟨c.script, c.method, occasion⟩) := by
  unfold answersM answers
  induction label.calls generalizing log with
  | nil =>
    rw [List.mapM_nil, List.map_nil, List.map_nil, List.append_nil]
    rfl
  | cons c calls ih =>
    have hcall : (scene.scripts.logged c.script c.method occasion).run log =
        (scene.scripts.invoke c.script c.method occasion,
          log ++ [⟨c.script, c.method, occasion⟩]) := rfl
    rw [List.mapM_cons, run_bind_of_run hcall, run_bind_of_run (ih _), List.append_assoc]
    rfl

theorem run_renderLabelM (l : Theme.Entry) (cache : Caches) (log : List Invocation) :
    (scene.renderLabelM scene.scripts.logged l cache).run log =
      (scene.renderLabel l cache, log ++ scene.invocations l) := by
  unfold renderLabelM renderLabel invocations occasion?
  cases l.spec.subject scene.weekend scene.external with
  | noSession | noStanding =>
    dsimp only
    rw [List.append_nil]
    rfl
  | standing session standing =>
    dsimp only
    rw [renderStandingM, run_bind_of_run (scene.run_answersM _ _ log)]
    rfl
  | session session =>
    dsimp only
    rw [renderSessionM, run_bind_of_run (scene.run_answersM _ _ log)]
    rfl

theorem run_renderLabelsM (cache : Caches) (ls : List Theme.Entry) (log : List Invocation) :
    (scene.renderLabelsM scene.scripts.logged cache ls).run log =
      (scene.renderLabels cache ls, log ++ ls.flatMap scene.invocations) := by
  induction ls generalizing cache log with
  | nil =>
    rw [List.flatMap_nil, List.append_nil]
    rfl
  | cons l ls ih =>
    rw [renderLabelsM, run_bind_of_run (scene.run_renderLabelM l cache log),
      run_bind_of_run (ih _ _), List.append_assoc]
    rfl

/-- Apart from the log, nothing is different. -/
theorem run_renderM (cache : Caches) (tick : Nat) (log : List Invocation) :
    (scene.renderM scene.scripts.logged cache tick).run log =
      (scene.render cache tick, log ++ scene.theme.labels.flatMap scene.invocations) := by
  rw [renderM, run_bind_of_run (scene.run_renderLabelsM _ _ log)]
  rfl

/-- The scripts that a label calls in vain. -/
def missingScripts (l : Theme.Entry) : List String :=
  ((scene.invocations l).map (·.script)).filter (· ∉ scene.scripts.names)

theorem missing_answers (label : Label) (occasion : Occasion) :
    ((scene.answers label occasion).flatMap (·.2)).filterMap Event.missing? =
      (label.calls.map (·.script)).filter (· ∉ scene.scripts.names) := by
  unfold answers
  induction label.calls with
  | nil => rfl
  | cons c calls ih =>
    rw [List.map_cons, List.flatMap_cons, List.filterMap_append, ih, List.map_cons]
    by_cases hname : c.script ∈ scene.scripts.names
    · obtain ⟨s, -, -, hs⟩ := Registry.invoke_of_mem hname
      rw [hs, List.filter_cons_of_neg (by simpa using hname)]
      rfl
    · rw [Registry.invoke_of_not_mem hname, List.filter_cons_of_pos (by simpa using hname)]
      rfl

theorem missing_renderLabel (l : Theme.Entry) (cache : Caches) :
    (scene.renderLabel l cache).events.filterMap Event.missing? = scene.missingScripts l := by
  have hcalls : ∀ occasion : Occasion,
      (l.label.calls.map fun c => (⟨c.script, c.method, occasion⟩ : Invocation)).map (·.script) =
        l.label.calls.map (·.script) := fun _ => List.map_map
  unfold renderLabel missingScripts invocations occasion?
  cases l.spec.subject scene.weekend scene.external with
  | noSession | noStanding => rfl
  | standing session standing =>
    dsimp only
    rw [hcalls]
    exact scene.missing_answers _ _
  | session session =>
    dsimp only
    rw [hcalls]
    exact scene.missing_answers _ _

theorem missing_renderLabels (cache : Caches) (ls : List Theme.Entry) :
    (scene.renderLabels cache ls).2.2.filterMap Event.missing? =
      ls.flatMap scene.missingScripts := by
  induction ls generalizing cache with
  | nil => rfl
  | cons l ls ih =>
    show ((scene.renderLabel l cache).events ++ _).filterMap Event.missing? = _
    rw [List.filterMap_append, missing_renderLabel, ih, List.flatMap_cons]

/-- In a tick, exactly the calls in vain are reported as such. -/
theorem missing_render (cache : Caches) (tick : Nat) :
    (scene.render cache tick).2.2.filterMap Event.missing? =
      scene.theme.labels.flatMap scene.missingScripts := by
  show ((scene.renderLabels cache.cleared scene.theme.labels).2.2 ++
    [Event.tickRendered ..]).filterMap Event.missing? = _
  rw [List.filterMap_append, missing_renderLabels]
  exact List.append_nil _

/-- Each call that a label lists is answered by a script of its name, once for each time that the
label is rendered. -/
structure ServesCalls (scene : Scene) : Prop where
  /-- There is a script of the name, whatever the call is made for. -/
  loaded : ∀ l ∈ scene.theme.labels, ∀ c ∈ l.label.calls, ∃ s ∈ scene.scripts.scripts,
    s.name = c.script ∧ ∀ method occasion,
      scene.scripts.invoke c.script method occasion = (s.answer method occasion, [])
  /-- With a log, a tick is the same, and the log holds the calls of the labels with a subject. -/
  once : ∀ cache tick, (scene.renderM scene.scripts.logged cache tick).run [] =
    (scene.render cache tick, scene.theme.labels.flatMap scene.invocations)
  /-- No script is reported as missing. -/
  unreported : ∀ cache tick name, .scriptMissing name ∉ (scene.render cache tick).2.2

theorem servesCalls_of_names
    (h : ∀ l ∈ scene.theme.labels, ∀ c ∈ l.label.calls, c.script ∈ scene.scripts.names) :
    ServesCalls scene := by
  constructor
  case loaded => exact fun l hl c hc => Registry.invoke_of_mem (h l hl c hc)
  case once => exact fun cache tick => scene.run_renderM cache tick []
  case unreported =>
    intro cache tick name hmem
    have hname : name ∈ scene.theme.labels.flatMap scene.missingScripts := by
      rw [← scene.missing_render cache tick]
      exact List.mem_filterMap.2 ⟨_, hmem, rfl⟩
    obtain ⟨l, hl, hmissing⟩ := List.mem_flatMap.1 hname
    obtain ⟨hcalled, hunknown⟩ := List.mem_filter.1 hmissing
    obtain ⟨i, hi, rfl⟩ := List.mem_map.1 hcalled
    unfold invocations at hi
    split at hi
    · obtain ⟨c, hc, rfl⟩ := List.mem_map.1 hi
      exact of_decide_eq_true hunknown (h l hl c hc)
    · cases hi

end Scene

namespace Theme

theorem script_mem_of_compile {spec : ThemeSpec} {scripts : List String} {l : Entry}
    (hl : l ∈ (compile spec scripts).1.labels) {c : Call} (hc : c ∈ l.label.calls) :
    c.script ∈ scripts := by
  have hlabel : ∀ (F : Type) [DecidableEq F] [TokenDomain F] (source : String) (r : Rounding)
      (u : Bool), c ∈ (Label.compile F scripts source r u).1.calls → c.script ∈ scripts := by
    intro F _ _ source r u hc
    exact (Template.findCall?_eq_some (Label.of_mem_calls hc).2).2
  obtain ⟨spec, -, rfl⟩ := List.mem_map.1 hl
  dsimp only at hc
  unfold LabelSpec.compile at hc
  cases hdataset : spec.dataset with
  | sessionState =>
    rw [hdataset] at hc
    exact hlabel SessionField _ _ _ hc
  | standing | followed =>
    rw [hdataset] at hc
    exact hlabel StandingField _ _ _ hc

/-- Compiling lists the script fragments with a known name, each once and in the order in which they
first appear, and warns of all others. A theme that is compiled for the scripts of a registry is
then shown without meeting a missing script, whatever is registered later: each rendered label makes
each of its calls once. -/
theorem calls_extracted_and_served :
    (∀ (F : Type) [DecidableEq F] [TokenDomain F] (scripts : List String) (source : String)
      (r : Rounding) (u : Bool),
      let compiled := Label.compile F scripts source r u
      Label.ExtractsCalls F scripts source compiled.1 compiled.2) ∧
    ∀ (spec : ThemeSpec) (registry : Registry) (later : List Script) (weekend : Weekend)
      (external : External) (timer : Timer),
      let theme := (compile spec registry.names).1
      let scripts := later.foldl Registry.register registry
      Scene.ServesCalls ⟨weekend, theme, external, scripts, timer⟩ := by
  constructor
  · exact Label.extractsCalls_compile
  · intro spec registry later weekend external timer theme scripts
    apply Scene.servesCalls_of_names
    intro l hl c hc
    exact registry.mem_names_after (script_mem_of_compile hl hc) later

end Theme

end RaceOverlay
