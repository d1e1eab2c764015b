import RaceOverlay.Tick.Render

/-!
# The caches change no text

Every kept value is the one that its entity would get now, for every entity that its key can stand
for. Labels keep this so, and so each label shows what it would show alone.
-/
namespace RaceOverlay

namespace Cache

variable {V : Type}

/-- Every kept value is right for its key. -/
def Holds (c : Cache V) (right : Key → Rounding → V → Prop) : Prop :=
  ∀ key rounding value, c.stored? key rounding = some value → right key rounding value

variable {c : Cache V} {right : Key → Rounding → V → Prop}

theorem holds_empty : (empty : Cache V).Holds right := by
  intro key rounding value h
  unfold stored? empty at h
  split at h <;> cases h

/-- The value of the caller is kept from then on, and all others as they were. -/
theorem stored?_store {k key : Key} {r rounding : Rounding} {v value : V}
    (h : (c.store k r v).stored? key rounding = some value) :
    c.stored? key rounding = some value ∨
      (k.isTransient = false ∧ key = k ∧ rounding = r ∧ value = v) := by
  cases ht : k.isTransient with
  | true =>
    rw [store_of_transient ht] at h
    exact .inl h
  | false =>
    rw [stored?_store_eq ht] at h
    split at h
    · rename_i he
      obtain ⟨rfl, rfl⟩ := Prod.mk.inj he
      exact .inr ⟨rfl, rfl, rfl, (Option.some.inj h).symm⟩
    · exact .inl h

theorem Holds.fetch (h : c.Holds right) (k : Key) (r : Rounding) (compute : Unit → V)
    (hc : k.isTransient = false → right k r (compute ())) :
    (c.fetch k r compute).2.Holds right := by
  unfold Cache.fetch
  split
  · exact h
  · intro key rounding value hs
    rcases stored?_store hs with ho | ⟨ht, rfl, rfl, rfl⟩
    · exact h key rounding value ho
    · exact hc ht

/-- A fetch gives the computed value, be it kept or not. -/
theorem Holds.fetch_eq (h : c.Holds right) (k : Key) (r : Rounding) (compute : Unit → V)
    (hc : k.isTransient = false → ∀ value, right k r value → value = compute ()) :
    (c.fetch k r compute).1 = compute () := by
  unfold Cache.fetch
  split
  · rename_i value hs
    cases ht : k.isTransient with
    | true =>
      rw [stored?, ht] at hs
      cases hs
    | false => exact hc ht value (h k r value hs)
  · rfl

end Cache

/-- Sessions are told apart by their ids, and the cars of a session by their indices, as far as
these are not negative. -/
structure Weekend.HasIdentities (w : Weekend) : Prop where
  sessions : (w.sessions.map (·.id)).Nodup
  cars : ∀ s ∈ w.sessions,
    ((s.standings.filter fun x => decide (0 ≤ x.driver.car)).map (·.driver.car)).Nodup

namespace Weekend.HasIdentities

variable {w : Weekend}

theorem session_eq (h : w.HasIdentities) {s t : Session} (hs : s ∈ w.sessions)
    (ht : t ∈ w.sessions) (he : s.id = t.id) : s = t :=
  TokenDomain.eq_of_nodup_map h.sessions hs ht he

theorem standing_eq (h : w.HasIdentities) {s : Session} (hs : s ∈ w.sessions) {a b : Standing}
    (ha : a ∈ s.standings) (hb : b ∈ s.standings) (hpos : 0 ≤ a.driver.car)
    (he : a.driver.car = b.driver.car) : a = b := by
  have hposb : 0 ≤ b.driver.car := he ▸ hpos
  exact TokenDomain.eq_of_nodup_map (h.cars s hs)
    (List.mem_filter.2 ⟨ha, by simpa using hpos⟩) (List.mem_filter.2 ⟨hb, by simpa using hposb⟩) he

end Weekend.HasIdentities

/-- A standing of the session, or one of no car. -/
def Session.Shows (s : Session) (standing : Standing) : Prop :=
  standing ∈ s.standings ∨ standing.driver.car < 0

theorem Session.mem_of_atRank? {s : Session} {rank : Int} {order : StandingOrder}
    {className : Option String} {external : External} {standing : Standing}
    (h : s.atRank? rank order className external = some standing) : standing ∈ s.standings := by
  unfold Session.atRank? at h
  split at h
  · cases h
  · have hm := List.mem_of_getElem? h
    exact (s.ordered_perm order external).mem_iff.1 (List.mem_filter.1 hm).1

theorem Weekend.shows_followed (w : Weekend) (s : Session) : s.Shows (w.standingOfFollowed s) := by
  unfold Weekend.standingOfFollowed
  cases h : s.standing? w.followed with
  | none => exact .inr (by decide)
  | some standing => exact .inl (List.mem_of_find?_eq_some h)

theorem LabelSpec.mem_of_session? {spec : LabelSpec} {w : Weekend} {s : Session}
    (h : spec.session? w = some s) : s ∈ w.sessions := by
  unfold LabelSpec.session? at h
  split at h
  · exact List.mem_of_getElem? h
  · exact List.mem_of_find?_eq_some h

/-- A subject belongs to the weekend. -/
def Subject.IsOf (w : Weekend) : Subject → Prop
  | .noSession | .noStanding => True
  | .standing s x => s ∈ w.sessions ∧ s.Shows x
  | .session s => s ∈ w.sessions

theorem LabelSpec.subject_isOf (spec : LabelSpec) (w : Weekend) (external : External) :
    (spec.subject w external).IsOf w := by
  unfold LabelSpec.subject
  cases hs : spec.session? w with
  | none => trivial
  | some s =>
    have hmem := LabelSpec.mem_of_session? hs
    dsimp only
    unfold LabelSpec.subjectIn
    cases spec.dataset with
    | sessionState => exact hmem
    | followed => exact ⟨hmem, w.shows_followed s⟩
    | standing =>
      cases hr : s.atRank? spec.rank spec.order spec.className external with
      | none => trivial
      | some standing => exact ⟨hmem, .inl (Session.mem_of_atRank? hr)⟩

namespace Scene

/-- The text of a label with fields that are computed for it. -/
def freshText (scene : Scene) (l : Theme.Entry) : String :=
  match l.spec.subject scene.weekend scene.external with
  | .noSession | .noStanding => ""
  | .standing session standing =>
    l.label.render (StandingView.fields ⟨scene, session, standing, l.label.rounding⟩)
      ((scene.answers l.label
        (scene.occasion (.standing standing) session l.label.rounding)).map (·.1))
  | .session session =>
    l.label.render (SessionView.fields ⟨scene, session, l.label.rounding⟩)
      ((scene.answers l.label (scene.occasion .session session l.label.rounding)).map (·.1))

/-- The scene with a theme of only one label. -/
def only (scene : Scene) (l : Theme.Entry) : Scene :=
  { scene with theme := { scene.theme with labels := [l] } }

/-- Fields are right for a key if every standing that has the key has these fields. -/
def RightStanding (scene : Scene) (key : Cache.Key) (rounding : Rounding)
    (fields : Fields StandingField) : Prop :=
  ∀ s ∈ scene.weekend.sessions, ∀ x ∈ s.standings, key = .ofStanding s.id x.driver.car →
    fields = StandingView.fields ⟨scene, s, x, rounding⟩

def RightSession (scene : Scene) (key : Cache.Key) (rounding : Rounding)
    (fields : Fields SessionField) : Prop :=
  ∀ s ∈ scene.weekend.sessions, key = .ofSession s.id →
    fields = SessionView.fields ⟨scene, s, rounding⟩

/-- The invariant of a tick. -/
structure Faithful (scene : Scene) (cache : Caches) : Prop where
  standings : cache.standings.Holds scene.RightStanding
  sessions : cache.sessions.Holds scene.RightSession

theorem faithful_cleared (scene : Scene) (cache : Caches) : scene.Faithful cache.cleared :=
  ⟨Cache.holds_empty, Cache.holds_empty⟩

variable {scene : Scene} {cache : Caches}

/-- With identities, what is computed for a standing is right for its key. -/
theorem rightStanding_iff (hw : scene.weekend.HasIdentities) {s : Session} {x : Standing}
    (hs : s ∈ scene.weekend.sessions) (hx : s.Shows x) (rounding : Rounding)
    (ht : (Cache.Key.ofStanding s.id x.driver.car).isTransient = false)
    (fields : Fields StandingField) :
    scene.RightStanding (.ofStanding s.id x.driver.car) rounding fields ↔
      fields = StandingView.fields ⟨scene, s, x, rounding⟩ := by
  have hpos : 0 ≤ x.driver.car := Int.not_lt.1 (of_decide_eq_false ht)
  have hmem : x ∈ s.standings := by
    rcases hx with hx | hneg
    · exact hx
    · omega
  constructor
  · intro h
    exact h s hs x hmem rfl
  · rintro rfl t hmt y hy hk
    obtain ⟨hid, hcar⟩ := Cache.Key.mk.inj hk
    obtain rfl := hw.session_eq hs hmt hid
    obtain rfl := hw.standing_eq hs hmem hy hpos hcar
    rfl

theorem rightSession_iff (hw : scene.weekend.HasIdentities) {s : Session}
    (hs : s ∈ scene.weekend.sessions) (rounding : Rounding) (fields : Fields SessionField) :
    scene.RightSession (.ofSession s.id) rounding fields ↔
      fields = SessionView.fields ⟨scene, s, rounding⟩ := by
  constructor
  · intro h
    exact h s hs rfl
  · rintro rfl t hmt hk
    obtain rfl := hw.session_eq hs hmt (Cache.Key.mk.inj hk).1
    rfl

/-- A label shows its fresh text and keeps the caches faithful. -/
theorem renderLabel_text (hw : scene.weekend.HasIdentities) (hc : scene.Faithful cache)
    (l : Theme.Entry) :
    (scene.renderLabel l cache).text = scene.freshText l ∧
      scene.Faithful (scene.renderLabel l cache).cache := by
  have hsubject := l.spec.subject_isOf scene.weekend scene.external
  unfold renderLabel freshText
  cases h : l.spec.subject scene.weekend scene.external with
  | noSession => exact ⟨rfl, hc⟩
  | noStanding => exact ⟨rfl, hc⟩
  | standing s x =>
    rw [h] at hsubject
    obtain ⟨hs, hx⟩ := hsubject
    have hright := rightStanding_iff hw hs hx l.label.rounding
    have hvalue := hc.standings.fetch_eq (.ofStanding s.id x.driver.car) l.label.rounding
      (fun _ => StandingView.fields ⟨scene, s, x, l.label.rounding⟩)
      fun ht value => (hright ht value).1
    have hkept := hc.standings.fetch (.ofStanding s.id x.driver.car) l.label.rounding
      (fun _ => StandingView.fields ⟨scene, s, x, l.label.rounding⟩)
      fun ht => (hright ht _).2 rfl
    refine ⟨?_, hkept, hc.sessions⟩
    simp only [renderStanding, hvalue]
  | session s =>
    rw [h] at hsubject
    have hright := rightSession_iff hw hsubject l.label.rounding
    have hvalue := hc.sessions.fetch_eq (.ofSession s.id) l.label.rounding
      (fun _ => SessionView.fields ⟨scene, s, l.label.rounding⟩)
      fun _ value => (hright value).1
    have hkept := hc.sessions.fetch (.ofSession s.id) l.label.rounding
      (fun _ => SessionView.fields ⟨scene, s, l.label.rounding⟩)
      fun _ => (hright _).2 rfl
    refine ⟨?_, hc.standings, hkept⟩
    simp only [renderSession, hvalue]

/-- However many labels came before, each one shows its fresh text. -/
theorem renderLabels_eq_map (hw : scene.weekend.HasIdentities) (hc : scene.Faithful cache)
    (ls : List Theme.Entry) :
    (scene.renderLabels cache ls).1 = ls.map fun l => ⟨l.spec.name, scene.freshText l⟩ := by
  induction ls generalizing cache with
  | nil => rfl
  | cons l ls ih =>
    obtain ⟨htext, hnext⟩ := renderLabel_text hw hc l
    simp only [renderLabels, List.map_cons, htext, ih hnext]

theorem labels_render (hw : scene.weekend.HasIdentities) (cache : Caches) (tick : Nat) :
    (scene.render cache tick).1.labels =
      scene.theme.labels.map fun l => ⟨l.spec.name, scene.freshText l⟩ := by
  rw [← renderLabels_eq_map hw (faithful_cleared scene cache)]
  rfl

/-- No field of a standing reads the labels of the theme. -/
theorem standingFields_only (scene : Scene) (l : Theme.Entry) (s : Session) (x : Standing)
    (rounding : Rounding) :
    StandingView.fields ⟨scene.only l, s, x, rounding⟩ =
      StandingView.fields ⟨scene, s, x, rounding⟩ := by
  have htext : ∀ f, StandingView.text ⟨scene.only l, s, x, rounding⟩ f =
      StandingView.text ⟨scene, s, x, rounding⟩ f := by
    intro f
    cases f <;> rfl
  unfold StandingView.fields
  rw [funext htext]
  rfl

theorem sessionFields_only (scene : Scene) (l : Theme.Entry) (s : Session) (rounding : Rounding) :
    SessionView.fields ⟨scene.only l, s, rounding⟩ =
      SessionView.fields ⟨scene, s, rounding⟩ := by
  have htext : ∀ f, SessionView.text ⟨scene.only l, s, rounding⟩ f =
      SessionView.text ⟨scene, s, rounding⟩ f := by
    intro f
    cases f <;> rfl
  unfold SessionView.fields
  rw [funext htext]

theorem freshText_only (scene : Scene) (l : Theme.Entry) :
    (scene.only l).freshText l = scene.freshText l := by
  unfold freshText
  have hsubject : l.spec.subject (scene.only l).weekend (scene.only l).external =
      l.spec.subject scene.weekend scene.external := rfl
  rw [hsubject]
  cases l.spec.subject scene.weekend scene.external with
  | noSession => rfl
  | noStanding => rfl
  | standing s x =>
    simp only [standingFields_only]
    rfl
  | session s =>
    simp only [sessionFields_only]
    rfl

/-- Each label of a tick shows the same text as in a tick with no other label, from whatever caches
either tick starts. This is the text from fields that are computed for its own subject. -/
theorem label_text_alone (scene : Scene) (hw : scene.weekend.HasIdentities)
    (cache cache' : Caches) (tick tick' : Nat) (i : Nat) (l : Theme.Entry)
    (hl : scene.theme.labels[i]? = some l) :
    ∃ entry, (scene.render cache tick).1.labels[i]? = some entry ∧
      ((scene.only l).render cache' tick').1.labels = [entry] ∧
      entry.text = scene.freshText l := by
  refine ⟨⟨l.spec.name, scene.freshText l⟩, ?_, ?_, rfl⟩
  · rw [labels_render hw, List.getElem?_map, hl]
    rfl
  · have honly : (scene.only l).weekend.HasIdentities := hw
    rw [labels_render honly]
    simp only [only, List.map_cons, List.map_nil]
    rw [← freshText_only scene l]
    rfl

def sampleEntry (dataset : Dataset) : Theme.Entry :=
  let spec : LabelSpec := { name := "label", template := "\x7b0\x7d", dataset }
  ⟨spec, (spec.compile []).1⟩

/-- The first and the last label find the same car, once by its rank and once by the camera. -/
def sampleScene : Scene where
  weekend := {
    sessions := [{
      id := 3
      standings := [
        { driver := { name := "J. Doe", car := 5 }, position := 2 },
        { driver := { name := "A. Smith", car := 9 }, position := 1 }] }]
    followed := 9 }
  theme := {
    labels := [sampleEntry .standing, sampleEntry .sessionState, sampleEntry .followed] }
  external := .empty
  scripts := .standard
  timer := clockText

theorem label_text_alone_sample :
    sampleScene.weekend.HasIdentities ∧
      sampleScene.theme.labels[2]? = some (sampleEntry .followed) ∧
      ∃ entry, (sampleScene.render .empty 1).1.labels[2]? = some entry ∧
        ((sampleScene.only (sampleEntry .followed)).render .empty 1).1.labels = [entry] ∧
        entry.text = sampleScene.freshText (sampleEntry .followed) := by
  have hw : sampleScene.weekend.HasIdentities := by
    refine ⟨by decide, fun s hs => ?_⟩
    obtain rfl := List.mem_singleton.1 hs
    decide
  exact ⟨hw, rfl, label_text_alone sampleScene hw .empty .empty 1 1 2 _ rfl⟩

end Scene

end RaceOverlay
