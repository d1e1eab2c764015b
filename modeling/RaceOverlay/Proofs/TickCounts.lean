import RaceOverlay.Proofs.CacheRuns
import RaceOverlay.Tick.Render

/-!
# The counts of a tick

Each label with a subject asks one of the two caches once. So the report counts the labels that
found their subject, and the misses among them are the different subjects: cars and sessions are
told apart by ids and roundings, and cars without identity are all different. Where labels stand in
the theme does not matter.
-/
namespace RaceOverlay

namespace LabelSpec

/-- The label's session exists, and if the label is for a rank, so does a standing at that rank. -/
def finds (spec : LabelSpec) (w : Weekend) (external : External) : Bool :=
  match spec.session? w with
  | none => false
  | some s =>
    match spec.dataset with
    | .standing => (s.atRank? spec.rank spec.order spec.className external).isSome
    | .followed | .sessionState => true

theorem finds_eq (spec : LabelSpec) (w : Weekend) (external : External) :
    spec.finds w external =
      match spec.subject w external with
      | .standing _ _ | .session _ => true
      | .noSession | .noStanding => false := by
  unfold finds subject
  cases spec.session? w with
  | none => rfl
  | some s =>
    dsimp only
    unfold subjectIn
    cases spec.dataset with
    | followed | sessionState => rfl
    | standing => cases s.atRank? spec.rank spec.order spec.className external <;> rfl

end LabelSpec

namespace Cache

private theorem Counts.eq_of_sum_eq {a b : Counts} (hsum : a.hits + a.misses = b.hits + b.misses)
    (hmisses : a.misses = b.misses) : a = b := by
  obtain ⟨hits, misses⟩ := a
  obtain ⟨hits', misses'⟩ := b
  dsimp only at hsum hmisses
  rw [Counts.mk.injEq]
  omega

variable {α : Type} [DecidableEq α] {request : α → Request}

/-- What is asked for in different ways is different. -/
private theorem card_lasting_map (h : Function.Injective request) (xs : List α) :
    (lasting (xs.map request)).card =
      (xs.filter fun x => !(request x).1.isTransient).toFinset.card := by
  have himage : lasting (xs.map request) =
      (xs.filter fun x => !(request x).1.isTransient).toFinset.image request := by
    ext r
    simp only [mem_lasting, Finset.mem_image, List.mem_toFinset, List.mem_filter, List.mem_map]
    constructor
    · rintro ⟨⟨x, hx, rfl⟩, hr⟩
      exact ⟨x, ⟨hx, by simp [hr]⟩, rfl⟩
    · rintro ⟨x, ⟨hx, hr⟩, rfl⟩
      exact ⟨⟨x, hx, rfl⟩, by simpa using hr⟩
  rw [himage, Finset.card_image_of_injective _ h]

end Cache

/-- A car is known by the id of a session and its index; it is shown at a rounding. -/
structure ShownCar where
  session : Int
  car : Int
  rounding : Rounding
  deriving DecidableEq

structure ShownSession where
  session : Int
  rounding : Rounding
  deriving DecidableEq

def ShownCar.request (shown : ShownCar) : Cache.Request :=
  (.ofStanding shown.session shown.car, shown.rounding)

def ShownSession.request (shown : ShownSession) : Cache.Request :=
  (.ofSession shown.session, shown.rounding)

theorem ShownCar.request_injective : Function.Injective ShownCar.request := by
  rintro ⟨s, c, r⟩ ⟨s', c', r'⟩ h
  obtain ⟨hkey, rfl⟩ := Prod.mk.inj h
  obtain ⟨rfl, rfl⟩ := Cache.Key.mk.inj hkey
  rfl

theorem ShownSession.request_injective : Function.Injective ShownSession.request := by
  rintro ⟨s, r⟩ ⟨s', r'⟩ h
  obtain ⟨hkey, rfl⟩ := Prod.mk.inj h
  obtain ⟨rfl, -⟩ := Cache.Key.mk.inj hkey
  rfl

/-- There is one lasting request for each different car with identity. -/
theorem ShownCar.card_lasting (cars : List ShownCar) :
    (Cache.lasting (cars.map request)).card =
      (cars.filter fun shown => 0 ≤ shown.car).toFinset.card := by
  have hkept (shown : ShownCar) : (!shown.request.1.isTransient) = decide (0 ≤ shown.car) := by
    have hkey : shown.request.1.isTransient = decide (shown.car < 0) := rfl
    rw [hkey, ← decide_not, decide_eq_decide]
    exact Int.not_lt
  rw [Cache.card_lasting_map request_injective]
  simp only [hkept]

theorem ShownCar.transients_eq (cars : List ShownCar) :
    Cache.transients (cars.map request) = cars.countP fun shown => shown.car < 0 :=
  List.countP_map ..

/-- A session always has an identity. -/
theorem ShownSession.card_lasting (sessions : List ShownSession) :
    (Cache.lasting (sessions.map request)).card = sessions.toFinset.card := by
  have hkept : (sessions.filter fun shown => !shown.request.1.isTransient) = sessions :=
    List.filter_eq_self.2 fun _ _ => rfl
  rw [Cache.card_lasting_map request_injective, hkept]

theorem ShownSession.transients_eq (sessions : List ShownSession) :
    Cache.transients (sessions.map request) = 0 := by
  rw [Cache.transients, List.countP_map]
  exact List.countP_eq_zero.2 fun _ _ => Bool.false_ne_true

namespace Scene

variable (scene : Scene)

/-- The cars that labels of standings and of the followed car show. -/
def carsShown (ls : List Theme.Entry) : List ShownCar :=
  ls.filterMap fun l =>
    match l.spec.subject scene.weekend scene.external with
    | .standing s x => some ⟨s.id, x.driver.car, l.label.rounding⟩
    | _ => none

/-- The sessions that labels of sessions show. -/
def sessionsShown (ls : List Theme.Entry) : List ShownSession :=
  ls.filterMap fun l =>
    match l.spec.subject scene.weekend scene.external with
    | .session s => some ⟨s.id, l.label.rounding⟩
    | _ => none

/-- The number of field sets behind the labels: one for each different car and each different
session at a rounding, and one for each showing of a car without identity. -/
def fieldSets (ls : List Theme.Entry) : Nat :=
  ((scene.carsShown ls).filter fun shown => 0 ≤ shown.car).toFinset.card +
    (scene.sessionsShown ls).toFinset.card +
    (scene.carsShown ls).countP fun shown => shown.car < 0

/-- Both caches after showing cars and sessions. -/
structure CachesCounted (cache : Caches) (cars : List ShownCar) (sessions : List ShownSession) :
    Prop where
  standings : cache.standings.Counted (cars.map ShownCar.request)
  sessions : cache.sessions.Counted (sessions.map ShownSession.request)

variable {scene} {cache : Caches} {cars : List ShownCar} {sessions : List ShownSession}

/-- A label asks the cache of its subject's kind, if it has a subject, and leaves the other one. -/
theorem CachesCounted.renderLabel (h : CachesCounted cache cars sessions) (l : Theme.Entry) :
    CachesCounted (scene.renderLabel l cache).cache (cars ++ scene.carsShown [l])
      (sessions ++ scene.sessionsShown [l]) := by
  unfold Scene.renderLabel carsShown sessionsShown
  cases hs : l.spec.subject scene.weekend scene.external with
  | noSession | noStanding => simpa [hs] using h
  | standing s x =>
    simp only [List.filterMap_cons, List.filterMap_nil, hs, List.append_nil]
    refine ⟨?_, h.sessions⟩
    rw [List.map_append, List.map_singleton]
    exact h.standings.fetch (.ofStanding s.id x.driver.car) l.label.rounding
      fun _ => StandingView.fields ⟨scene, s, x, l.label.rounding⟩
  | session s =>
    simp only [List.filterMap_cons, List.filterMap_nil, hs, List.append_nil]
    refine ⟨h.standings, ?_⟩
    rw [List.map_append, List.map_singleton]
    exact h.sessions.fetch (.ofSession s.id) l.label.rounding
      fun _ => SessionView.fields ⟨scene, s, l.label.rounding⟩

theorem CachesCounted.renderLabels (h : CachesCounted cache cars sessions)
    (ls : List Theme.Entry) :
    CachesCounted (scene.renderLabels cache ls).2.1 (cars ++ scene.carsShown ls)
      (sessions ++ scene.sessionsShown ls) := by
  induction ls generalizing cache cars sessions with
  | nil => simpa [Scene.renderLabels, carsShown, sessionsShown] using h
  | cons l ls ih =>
    have hcars : scene.carsShown (l :: ls) = scene.carsShown [l] ++ scene.carsShown ls :=
      List.filterMap_append (l := [l])
    have hsessions : scene.sessionsShown (l :: ls) =
        scene.sessionsShown [l] ++ scene.sessionsShown ls := List.filterMap_append (l := [l])
    rw [hcars, hsessions, ← List.append_assoc, ← List.append_assoc]
    exact ih (h.renderLabel l)

theorem length_shown (scene : Scene) (ls : List Theme.Entry) :
    (scene.carsShown ls).length + (scene.sessionsShown ls).length =
      ls.countP fun l => l.spec.finds scene.weekend scene.external := by
  unfold carsShown sessionsShown
  induction ls with
  | nil => rfl
  | cons l ls ih =>
    rw [List.filterMap_cons, List.filterMap_cons, List.countP_cons, ← ih, LabelSpec.finds_eq]
    cases l.spec.subject scene.weekend scene.external with
    | noSession | noStanding => rfl
    | standing s x | session s => simp only [List.length_cons, if_true]; omega

theorem CachesCounted.fetched {ls : List Theme.Entry}
    (h : CachesCounted cache (scene.carsShown ls) (scene.sessionsShown ls)) :
    cache.counts.hits + cache.counts.misses =
      ls.countP fun l => l.spec.finds scene.weekend scene.external := by
  have hcars := h.standings.fetched
  have hsessions := h.sessions.fetched
  rw [List.length_map] at hcars hsessions
  rw [← length_shown, ← hcars, ← hsessions]
  show cache.standings.counts.hits + cache.sessions.counts.hits +
    (cache.standings.counts.misses + cache.sessions.counts.misses) = _
  omega

/-- The misses of both caches are the field sets. -/
theorem CachesCounted.misses {ls : List Theme.Entry}
    (h : CachesCounted cache (scene.carsShown ls) (scene.sessionsShown ls)) :
    cache.counts.misses = scene.fieldSets ls := by
  have hcars := h.standings.missed
  have hsessions := h.sessions.missed
  rw [h.standings.size, ShownCar.card_lasting, ShownCar.transients_eq] at hcars
  rw [h.sessions.size, ShownSession.card_lasting, ShownSession.transients_eq] at hsessions
  show cache.standings.counts.misses + cache.sessions.counts.misses = _
  rw [hcars, hsessions, fieldSets]
  omega

/-- The scene with other labels. -/
def labelled (scene : Scene) (labels : List Theme.Entry) : Scene :=
  { scene with theme := { scene.theme with labels } }

theorem cachesCounted_render (scene : Scene) (cache : Caches) :
    CachesCounted (scene.renderLabels cache.cleared scene.theme.labels).2.1
      (scene.carsShown scene.theme.labels) (scene.sessionsShown scene.theme.labels) := by
  have hcleared : CachesCounted cache.cleared [] [] := ⟨Cache.counted_empty, Cache.counted_empty⟩
  exact hcleared.renderLabels scene.theme.labels

theorem fieldSets_perm (scene : Scene) {ls labels : List Theme.Entry} (h : ls.Perm labels) :
    scene.fieldSets ls = scene.fieldSets labels := by
  have hcars : (scene.carsShown ls).Perm (scene.carsShown labels) := h.filterMap _
  have hsessions : (scene.sessionsShown ls).Perm (scene.sessionsShown labels) := h.filterMap _
  rw [fieldSets, fieldSets, List.toFinset_eq_of_perm _ _ (hcars.filter _),
    List.toFinset_eq_of_perm _ _ hsessions, hcars.countP_eq]

/-- The hits and misses of a tick are the labels that find their subject, and the misses are the
field sets behind them. A theme with its labels in another order has the same hits and misses. -/
theorem counts_render (scene : Scene) (cache cache' : Caches) (tick tick' : Nat)
    (labels : List Theme.Entry) (h : scene.theme.labels.Perm labels) :
    let counts := (scene.render cache tick).1.cache
    counts.hits + counts.misses =
        scene.theme.labels.countP (fun l => l.spec.finds scene.weekend scene.external) ∧
      counts.misses = scene.fieldSets scene.theme.labels ∧
      ((scene.labelled labels).render cache' tick').1.cache = counts := by
  have hcounted := scene.cachesCounted_render cache
  have hothers := (scene.labelled labels).cachesCounted_render cache'
  have hfetched := hcounted.fetched
  have hmisses := hcounted.misses
  refine ⟨hfetched, hmisses, ?_⟩
  have hfetched' := hothers.fetched
  have hmisses' := hothers.misses
  have hfound : labels.countP (fun l => l.spec.finds scene.weekend scene.external) =
      scene.theme.labels.countP fun l => l.spec.finds scene.weekend scene.external :=
    (h.countP_eq _).symm
  have hsets : (scene.labelled labels).fieldSets labels = scene.fieldSets scene.theme.labels :=
    (scene.fieldSets_perm h).symm
  exact Cache.Counts.eq_of_sum_eq (hfetched'.trans (hfound.trans hfetched.symm))
    (hmisses'.trans (hsets.trans hmisses.symm))

/-- The label of a rank from the first one on, or of what another dataset shows. -/
def countedEntry (dataset : Dataset) (offset : Nat) : Theme.Entry :=
  let spec : LabelSpec := { name := "label", template := "\x7b0\x7d", dataset, offset }
  ⟨spec, (spec.compile []).1⟩

/-- Two labels show the first car, one a rank that nobody has, and the camera follows no car. The
session has the number of the first car. -/
def countedScene : Scene where
  weekend := {
    sessions := [{ id := 0, standings := [{ driver := { car := 0 }, position := 1 }] }]
    followed := 7 }
  theme := {
    labels := [countedEntry .standing 0, countedEntry .followed 0, countedEntry .sessionState 0,
      countedEntry .standing 0, countedEntry .followed 0, countedEntry .standing 8] }
  external := .empty
  scripts := .standard
  timer := clockText

theorem counts_render_sample :
    countedScene.theme.labels.Perm countedScene.theme.labels.reverse ∧
      (countedScene.render .empty 1).1.cache = ⟨1, 4⟩ ∧
      ((countedScene.labelled countedScene.theme.labels.reverse).render .empty 1).1.cache =
        (countedScene.render .empty 1).1.cache := by
  have hperm : countedScene.theme.labels.Perm countedScene.theme.labels.reverse :=
    (List.reverse_perm _).symm
  obtain ⟨hfound, hmisses, hreversed⟩ :=
    counts_render countedScene .empty .empty 1 1 countedScene.theme.labels.reverse hperm
  exact ⟨hperm, Cache.Counts.eq_of_sum_eq hfound hmisses, hreversed⟩

end Scene

end RaceOverlay
