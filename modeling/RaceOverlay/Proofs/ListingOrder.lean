import RaceOverlay.Proofs.LabelOffsets
import RaceOverlay.Proofs.Relisting

/-!
# The order in which a snapshot lists its cars

No label shows the order of the list. Every rule of a field reads a session through its lookups, and
these have the same answers for all listings; so the fields are the same, and then the texts, the
caches and the counts of a tick. Scripts are given the whole session and could show its list.
-/
namespace RaceOverlay

/-- The scene with another weekend. -/
def Scene.showing (scene : Scene) (w : Weekend) : Scene := { scene with weekend := w }

namespace StandingView

variable (v : StandingView) (sessions : List Session) (cars : List Standing)

/-- The same standing in a weekend with other sessions and in another listing of its session. -/
def relisted : StandingView :=
  { v with
    scene := v.scene.showing { v.scene.weekend with sessions }
    session := { v.session with standings := cars } }

/-- Both the weekends and the sessions are alike. -/
structure Alike : Prop where
  weekend : v.scene.weekend.Alike (v.relisted sessions cars).scene.weekend
  session : v.session.Alike (v.relisted sessions cars).session

variable {v sessions cars} (h : v.Alike sessions cars)
include h

theorem isOut_relisted : (v.relisted sessions cars).isOut = v.isOut := by
  have hnow := h.weekend.now
  rw [isOut, isOut, hnow]
  rfl

theorem currentLapTime_relisted :
    (v.relisted sessions cars).currentLapTime = v.currentLapTime := by
  have hnow := h.weekend.now
  rw [currentLapTime, currentLapTime, hnow]
  rfl

theorem unlessReference_relisted (isReference : Bool) (text : String) :
    (v.relisted sessions cars).unlessReference isReference text =
      v.unlessReference isReference text := by
  rw [unlessReference, unlessReference, isOut_relisted h]
  rfl

theorem gapText_relisted (leader : Option Standing) (isLeader : Bool) (best : Float) :
    (v.relisted sessions cars).gapText leader isLeader best = v.gapText leader isLeader best :=
  unlessReference_relisted h isLeader _

theorem intervalText_relisted (ahead : Option Standing) (isLeader : Bool) :
    (v.relisted sessions cars).intervalText ahead isLeader = v.intervalText ahead isLeader :=
  unlessReference_relisted h isLeader _

theorem intervalTimeText_relisted (ahead : Option Standing) (isLeader : Bool) :
    (v.relisted sessions cars).intervalTimeText ahead isLeader =
      v.intervalTimeText ahead isLeader :=
  unlessReference_relisted h isLeader _

theorem liveGap_relisted (seconds : Float) (isLeader : Bool) (otherwise : String) :
    (v.relisted sessions cars).liveGap seconds isLeader otherwise =
      v.liveGap seconds isLeader otherwise := by
  rw [liveGap, liveGap, isOut_relisted h]
  rfl

theorem aheadOf_relisted (rank : Int) (className : Option String) :
    (v.relisted sessions cars).aheadOf rank className = v.aheadOf rank className := by
  rw [aheadOf, aheadOf, h.session.atRank? _ .position className _ trivial]
  rfl

theorem classPosition_relisted : (v.relisted sessions cars).classPosition = v.classPosition :=
  h.session.classPosition v.standing.driver

theorem isClassLeader_relisted : (v.relisted sessions cars).isClassLeader = v.isClassLeader := by
  rw [isClassLeader, isClassLeader, classPosition_relisted h]

theorem gap_relisted : (v.relisted sessions cars).gap = v.gap := by
  rw [gap, gapText_relisted h, h.session.atRank? 1 .position none _ trivial]
  rfl

theorem interval_relisted : (v.relisted sessions cars).interval = v.interval := by
  rw [interval, intervalText_relisted h, aheadOf_relisted h]
  rfl

theorem intervalTime_relisted : (v.relisted sessions cars).intervalTime = v.intervalTime := by
  rw [intervalTime, intervalTimeText_relisted h, aheadOf_relisted h]
  rfl

theorem classGap_relisted : (v.relisted sessions cars).classGap = v.classGap := by
  rw [classGap, gapText_relisted h, h.session.classLeader?, isClassLeader_relisted h]
  rfl

theorem classInterval_relisted : (v.relisted sessions cars).classInterval = v.classInterval := by
  rw [classInterval, intervalText_relisted h, aheadOf_relisted h, isClassLeader_relisted h,
    classPosition_relisted h]
  rfl

theorem startPositions?_relisted :
    (v.relisted sessions cars).startPositions? = v.startPositions? := by
  have hrel := h.weekend.sessionOfKind? .qualify
  unfold startPositions?
  generalize v.scene.weekend.sessionOfKind? .qualify = a at hrel
  generalize (v.relisted sessions cars).scene.weekend.sessionOfKind? .qualify = b at hrel
  cases hrel with
  | none => rfl
  | @some s t hst =>
    simp only [Option.bind_eq_bind, Option.bind_some, hst.standing?, hst.classPosition]
    rfl

theorem startText_relisted (text : Int × Int → String) :
    (v.relisted sessions cars).startText text = v.startText text := by
  rw [startText, startText, startPositions?_relisted h]

theorem text_relisted (f : StandingField) :
    (v.relisted sessions cars).text f = v.text f := by
  have hrank := classPosition_relisted h
  have hlive := h.session.classLivePosition v.standing.driver
  have hclassLeader := isClassLeader_relisted h
  -- The other fields read the standing alone, or the track.
  cases f with
  | curLap => exact currentLapTime_relisted h
  | gap => exact gap_relisted h
  | interval => exact interval_relisted h
  | intervalTime => exact intervalTime_relisted h
  | classGap => exact classGap_relisted h
  | classInterval => exact classInterval_relisted h
  | liveGap =>
    rw [text, liveGap_relisted h, gap_relisted h]
    rfl
  | liveInterval =>
    rw [text, liveGap_relisted h, intervalTime_relisted h]
    rfl
  | classLiveGap =>
    rw [text, liveGap_relisted h, classGap_relisted h, hclassLeader]
    rfl
  | classLiveInterval =>
    rw [text, liveGap_relisted h, classInterval_relisted h, hclassLeader]
    rfl
  | classPosition => exact congrArg toString hrank
  | classPositionOrd => exact congrArg ordinal hrank
  | classLivePosition => exact congrArg toString hlive
  | classLivePositionOrd => exact congrArg ordinal hlive
  | classPositionGain =>
    rw [text, startText_relisted h, hrank]
    rfl
  | positionGain | startPosition | startPositionOrd | classStartPosition
  | classStartPositionOrd => exact startText_relisted h _
  | _ => rfl

omit h in
/-- The fields of a standing are the same for both listings. -/
theorem fields_alike {scene : Scene} {w : Weekend} {s t : Session} (hw : scene.weekend.Alike w)
    (hst : s.Alike t) (x : Standing) (rounding : Rounding) :
    fields ⟨scene.showing w, t, x, rounding⟩ = fields ⟨scene, s, x, rounding⟩ := by
  obtain ⟨sessions, hsessions, rfl⟩ := hw
  obtain ⟨cars, -, rfl⟩ := hst.relisted
  let v : StandingView := ⟨scene, s, x, rounding⟩
  have h : v.Alike sessions cars := ⟨⟨sessions, hsessions, rfl⟩, hst⟩
  have htext : (v.relisted sessions cars).text = v.text := funext (text_relisted h)
  exact congrArg (Fields.mk · (scene.external.driverColumns x.driver.user)) htext

end StandingView

namespace SessionView

/-- No field of a session reads cars, neither its own nor those of the running session. -/
theorem fields_alike {scene : Scene} {w : Weekend} {s t : Session} (hw : scene.weekend.Alike w)
    (hst : s.Alike t) (rounding : Rounding) :
    fields ⟨scene.showing w, t, rounding⟩ = fields ⟨scene, s, rounding⟩ := by
  have htime := hw.match_current? s.timeRemaining (·.timeRemaining) fun _ _ => rfl
  obtain ⟨sessions, -, rfl⟩ := hw
  obtain ⟨cars, -, rfl⟩ := hst.relisted
  have htext (f : SessionField) :
      text ⟨scene.showing { scene.weekend with sessions }, { s with standings := cars },
        rounding⟩ f = text ⟨scene, s, rounding⟩ f := by
    cases f with
    | lapCounter =>
      exact congrArg (fun seconds => s.lapCounter scene.theme.wording scene.theme.countdownFrom
        (time ⟨scene, s, rounding⟩ seconds)) htime
    | _ => rfl
  exact congrArg (Fields.mk · []) (funext htext)

end SessionView

/-- Subjects that are alike: both are missing, or their sessions are alike. -/
inductive Subject.Alike : Subject → Subject → Prop
  | noSession : Alike .noSession .noSession
  | noStanding : Alike .noStanding .noStanding
  | standing {s t : Session} (h : s.Alike t) (x : Standing) : Alike (.standing s x) (.standing t x)
  | session {s t : Session} (h : s.Alike t) : Alike (.session s) (.session t)

namespace LabelSpec

variable {spec : LabelSpec}

theorem session?_alike (spec : LabelSpec) {w v : Weekend} (h : w.Alike v) :
    Option.Rel Session.Alike (spec.session? w) (spec.session? v) := by
  unfold session?
  cases spec.session with
  | none => exact h.current?
  | some kind => exact h.sessionOfKind? kind

theorem subjectIn_alike {w v : Weekend} (h : w.Alike v) {s t : Session} (hst : s.Alike t)
    (external : External) (horder : spec.dataset = .standing → spec.order.IsByPosition) :
    (spec.subjectIn w external s).Alike (spec.subjectIn v external t) := by
  have hstanding : v.standingOfFollowed t = w.standingOfFollowed s := by
    obtain ⟨sessions, -, rfl⟩ := h
    exact congrArg (·.getD {}) (hst.standing? w.followed)
  cases hdataset : spec.dataset with
  | sessionState =>
    unfold subjectIn
    rw [hdataset]
    exact .session hst
  | followed =>
    unfold subjectIn
    rw [hdataset, hstanding]
    exact .standing hst _
  | standing =>
    rw [subjectIn_standing external hdataset, subjectIn_standing external hdataset,
      hst.atRank? spec.rank spec.order spec.className external (horder hdataset)]
    cases s.atRank? spec.rank spec.order spec.className external with
    | none => exact .noStanding
    | some x => exact .standing hst x

theorem subject_alike {w v : Weekend} (h : w.Alike v) (external : External)
    (horder : spec.dataset = .standing → spec.order.IsByPosition) :
    (spec.subject w external).Alike (spec.subject v external) := by
  have hrel := spec.session?_alike h
  unfold subject
  generalize spec.session? w = a at hrel
  generalize spec.session? v = b at hrel
  cases hrel with
  | none => exact .noSession
  | some hst => exact subjectIn_alike h hst external horder

end LabelSpec

/-- A script answers the same for all listings of a session. -/
def Script.IgnoresListing (script : Script) : Prop :=
  ∀ method occasion session, occasion.session.Relisted session →
    script.answer method { occasion with session } = script.answer method occasion

theorem teamScript_ignoresListing : teamScript.IgnoresListing := fun _ _ _ _ => rfl

namespace Registry

def IgnoresListing (r : Registry) : Prop := ∀ script ∈ r.scripts, script.IgnoresListing

theorem standard_ignoresListing : standard.IgnoresListing := by
  intro script hscript
  obtain rfl := List.mem_singleton.1 hscript
  exact teamScript_ignoresListing

theorem IgnoresListing.invoke {r : Registry} (h : r.IgnoresListing) (name method : String)
    {occasion : Occasion} {session : Session} (hsession : occasion.session.Relisted session) :
    r.invoke name method { occasion with session } = r.invoke name method occasion := by
  unfold Registry.invoke
  cases hscript : r.script? name with
  | none => rfl
  | some script =>
    have hmem : script ∈ r.scripts := List.mem_of_find?_eq_some hscript
    exact congrArg (·, []) (h script hmem method occasion session hsession)

end Registry

namespace Scene

variable {scene : Scene} {w : Weekend}

theorem answers_relisted (w : Weekend) (hscripts : scene.scripts.IgnoresListing) (label : Label)
    (target : Target) {s t : Session} (hst : s.Relisted t) :
    (scene.showing w).answers label ((scene.showing w).occasion target t label.rounding) =
      scene.answers label (scene.occasion target s label.rounding) := by
  have hsession : (scene.occasion target s label.rounding).session.Relisted t := hst
  exact List.map_congr_left fun call _ => hscripts.invoke call.script call.method hsession

theorem renderStanding_alike (hw : scene.weekend.Alike w)
    (hscripts : scene.scripts.IgnoresListing) (label : Label) {s t : Session} (hst : s.Alike t)
    (x : Standing) (cache : Caches) :
    (scene.showing w).renderStanding label t x cache = scene.renderStanding label s x cache := by
  unfold renderStanding
  rw [StandingView.fields_alike hw hst, answers_relisted w hscripts _ _ hst.relisted, hst.id_eq]

theorem renderSession_alike (hw : scene.weekend.Alike w)
    (hscripts : scene.scripts.IgnoresListing) (label : Label) {s t : Session} (hst : s.Alike t)
    (cache : Caches) :
    (scene.showing w).renderSession label t cache = scene.renderSession label s cache := by
  unfold renderSession
  rw [SessionView.fields_alike hw hst, answers_relisted w hscripts _ _ hst.relisted, hst.id_eq]

/-- A label finds the same subject in any listing, and renders it the same. -/
theorem renderLabel_alike (hw : scene.weekend.Alike w) (hscripts : scene.scripts.IgnoresListing)
    {l : Theme.Entry} (horder : l.spec.dataset = .standing → l.spec.order.IsByPosition)
    (cache : Caches) : (scene.showing w).renderLabel l cache = scene.renderLabel l cache := by
  have hsubject : (l.spec.subject scene.weekend scene.external).Alike
      (l.spec.subject (scene.showing w).weekend (scene.showing w).external) :=
    LabelSpec.subject_alike hw scene.external horder
  unfold renderLabel
  generalize l.spec.subject scene.weekend scene.external = a at hsubject
  generalize l.spec.subject (scene.showing w).weekend (scene.showing w).external = b at hsubject
  cases hsubject with
  | noSession => rfl
  | noStanding => rfl
  | standing hst x => exact renderStanding_alike hw hscripts l.label hst x cache
  | session hst => exact renderSession_alike hw hscripts l.label hst cache

/-- Each label leaves the same caches behind, so the next one starts from the same ones. -/
theorem renderLabels_alike (hw : scene.weekend.Alike w) (hscripts : scene.scripts.IgnoresListing)
    (ls : List Theme.Entry)
    (horders : ∀ l ∈ ls, l.spec.dataset = .standing → l.spec.order.IsByPosition)
    (cache : Caches) : (scene.showing w).renderLabels cache ls = scene.renderLabels cache ls := by
  induction ls generalizing cache with
  | nil => rfl
  | cons l ls ih =>
    have hfirst := renderLabel_alike hw hscripts (horders l List.mem_cons_self) cache
    have hrest := ih fun l hl => horders l (List.mem_cons_of_mem _ hl)
    simp only [renderLabels, hfirst, hrest]

/-- Two snapshots that differ in the order of their lists give the same tick: the same texts, hits
and misses, the same caches behind it, and the same events. Cars differ in their indices and in the
ranks of both positions, no car at the greatest position stands beside an unclassified one, labels
of standings use an order by position, and scripts ignore the order of the list. -/
theorem render_relisted (scene : Scene) (w : Weekend) (cache cache' : Caches) (tick : Nat)
    (horders : ∀ l ∈ scene.theme.labels,
      l.spec.dataset = .standing → l.spec.order.IsByPosition)
    (hscripts : scene.scripts.IgnoresListing)
    (hapart : ∀ s ∈ scene.weekend.sessions, s.TellsApart)
    (hgreatest : ∀ s ∈ scene.weekend.sessions,
      s.GreatestApart (·.position) ∧ s.GreatestApart (·.livePosition))
    (hw : scene.weekend.Relisted w) :
    (scene.showing w).render cache' tick = scene.render cache tick := by
  have halike : scene.weekend.Alike w := hw.alike fun s hs =>
    (hapart s hs).unambiguous (hgreatest s hs).1 (hgreatest s hs).2
  have hlabels : (scene.showing w).renderLabels .empty (scene.showing w).theme.labels =
      scene.renderLabels .empty scene.theme.labels :=
    renderLabels_alike halike hscripts _ horders .empty
  have hcleared (c : Caches) : c.cleared = .empty := rfl
  have hcurrent : Option.Rel Session.Alike scene.weekend.current?
      (scene.showing w).weekend.current? := halike.current?
  unfold render
  rw [hcleared, hcleared, hlabels]
  generalize scene.weekend.current? = a at hcurrent
  generalize (scene.showing w).weekend.current? = b at hcurrent
  cases hcurrent with
  | none => rfl
  | some hst => simp only [hst.id_eq]

def towerEntry (order : StandingOrder) (offset : Nat) : Theme.Entry :=
  let spec : LabelSpec := { name := "tower", template := "\x7bfullname\x7d", order, offset }
  ⟨spec, (spec.compile []).1⟩

def leader : Standing where
  driver := { name := "A. Smith", car := 2, className := "GT3" }
  position := 1
  livePosition := 2

def chaser : Standing where
  driver := { name := "B. Long", car := 7, className := "LMP2" }
  position := 2
  livePosition := 1

/-- A car without a classification. -/
def starter : Standing where
  driver := { name := "J. Doe", car := 1, className := "GT3" }
  livePosition := 3

/-- A car at the greatest position. -/
def straggler : Standing where
  driver := { name := "C. Far", car := 4, className := "GT3" }
  position := 2147483647
  livePosition := 4

/-- A tower by each of the three orders. -/
def towers : List Theme.Entry :=
  [towerEntry .position 0, towerEntry .livePosition 0, towerEntry .classPosition 2]

theorem isByPosition_of_mem_towers :
    ∀ l ∈ towers, l.spec.dataset = .standing → l.spec.order.IsByPosition := by decide

/-- The towers over one session with the cars in the order of a list. -/
def towerScene (cars : List Standing) : Scene where
  weekend := { sessions := [{ standings := cars }] }
  theme := { labels := towers }
  external := .empty
  scripts := .standard
  timer := clockText

theorem towerScene_relisted {cars others : List Standing} (h : cars.Perm others) :
    (towerScene cars).weekend.Relisted (towerScene others).weekend :=
  ⟨_, .cons ⟨others, h, rfl⟩ .nil, rfl⟩

theorem render_relisted_sample :
    (∀ l ∈ (towerScene [starter, leader, chaser]).theme.labels,
      l.spec.dataset = .standing → l.spec.order.IsByPosition) ∧
    (towerScene [starter, leader, chaser]).scripts.IgnoresListing ∧
    (∀ s ∈ (towerScene [starter, leader, chaser]).weekend.sessions, s.TellsApart) ∧
    (∀ s ∈ (towerScene [starter, leader, chaser]).weekend.sessions,
      s.GreatestApart (·.position) ∧ s.GreatestApart (·.livePosition)) ∧
    (towerScene [starter, leader, chaser]).weekend.Relisted
      (towerScene [leader, starter, chaser]).weekend ∧
    (towerScene [leader, starter, chaser]).render .empty 1 =
      (towerScene [starter, leader, chaser]).render .empty 1 := by
  have hscripts : (towerScene [starter, leader, chaser]).scripts.IgnoresListing :=
    Registry.standard_ignoresListing
  have hapart : ∀ s ∈ (towerScene [starter, leader, chaser]).weekend.sessions, s.TellsApart := by
    intro s hs
    obtain rfl := List.mem_singleton.1 hs
    exact ⟨by decide, by decide, by decide⟩
  have hgreatest : ∀ s ∈ (towerScene [starter, leader, chaser]).weekend.sessions,
      s.GreatestApart (·.position) ∧ s.GreatestApart (·.livePosition) := by
    intro s hs
    obtain rfl := List.mem_singleton.1 hs
    unfold Session.GreatestApart
    decide
  have hw := towerScene_relisted (List.Perm.swap leader starter [chaser])
  exact ⟨isByPosition_of_mem_towers, hscripts, hapart, hgreatest, hw,
    render_relisted (towerScene [starter, leader, chaser])
      (towerScene [leader, starter, chaser]).weekend .empty .empty 1
      isByPosition_of_mem_towers hscripts hapart hgreatest hw⟩

/-- Positions tell the two cars apart, and yet the one that is listed first comes first. -/
theorem greatest_position_shows_listing :
    (∀ l ∈ (towerScene [starter, straggler]).theme.labels,
      l.spec.dataset = .standing → l.spec.order.IsByPosition) ∧
    (towerScene [starter, straggler]).scripts.IgnoresListing ∧
    (∀ s ∈ (towerScene [starter, straggler]).weekend.sessions, s.TellsApart) ∧
    (towerScene [starter, straggler]).weekend.Relisted
      (towerScene [straggler, starter]).weekend ∧
    ((towerScene [starter, straggler]).render .empty 1).1.labels.head? =
      some ⟨"tower", "J. Doe"⟩ ∧
    ((towerScene [straggler, starter]).render .empty 1).1.labels.head? =
      some ⟨"tower", "C. Far"⟩ := by
  refine ⟨isByPosition_of_mem_towers, Registry.standard_ignoresListing, fun s hs => ?_,
    towerScene_relisted (.swap straggler starter []), by decide, by decide⟩
  obtain rfl := List.mem_singleton.1 hs
  exact ⟨by decide, by decide, by decide⟩

end Scene

end RaceOverlay
