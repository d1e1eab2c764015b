import Mathlib.Data.List.Nodup
import RaceOverlay.Proofs.CacheTransparency
import RaceOverlay.Weekend.Snapshot

/-!
# Cache keys of a snapshot

What the checks of a snapshot establish for the keys that its sessions and standings are cached
under. Session ids are pairwise different, so keys of two sessions never meet. The cars of one
session are not checked: its keys are as different as their indices.
-/
namespace RaceOverlay

theorem firstRepeated?_eq_none_iff (seen ids : List Int) :
    firstRepeated? seen ids = none ↔ ids.Nodup ∧ ∀ id ∈ ids, id ∉ seen := by
  induction ids generalizing seen with
  | nil => simp [firstRepeated?]
  | cons id ids ih =>
    rw [firstRepeated?]
    by_cases hseen : id ∈ seen
    · simp [hseen]
    · rw [if_neg hseen, ih, List.nodup_cons]
      constructor
      · rintro ⟨hnodup, hnew⟩
        refine ⟨⟨fun hid => hnew id hid List.mem_cons_self, hnodup⟩, fun x hx => ?_⟩
        rcases List.mem_cons.1 hx with rfl | hx
        · exact hseen
        · exact fun hxs => hnew x hx (List.mem_cons_of_mem id hxs)
      · rintro ⟨⟨hid, hnodup⟩, hnew⟩
        refine ⟨hnodup, fun x hx hxs => ?_⟩
        rcases List.mem_cons.1 hxs with rfl | hxs
        · exact hid hx
        · exact hnew x (List.mem_cons_of_mem id hx) hxs

namespace Weekend

variable {w : Weekend}

/-- A weekend is accepted as it is, if at all. -/
theorem check_eq_ok_iff {accepted : Weekend} :
    w.check = .ok accepted ↔
      w = accepted ∧ w.current < w.sessions.length ∧ (w.sessions.map (·.id)).Nodup := by
  unfold check
  split
  · rename_i hcurrent
    simp [Nat.not_lt.2 hcurrent]
  · rename_i hcurrent
    have hrepeated := firstRepeated?_eq_none_iff [] (w.sessions.map (·.id))
    cases h : firstRepeated? [] (w.sessions.map (·.id)) with
    | some id =>
      have hnodup : ¬ (w.sessions.map (·.id)).Nodup := fun hn => by
        rw [hrepeated.2 ⟨hn, fun _ _ => List.not_mem_nil⟩] at h
        cases h
      simp [hnodup]
    | none => simp [(hrepeated.1 h).1, Nat.not_le.1 hcurrent]

theorem nodup_ids_of_ofText {text : String} (h : ofText text = .ok w) :
    (w.sessions.map (·.id)).Nodup := by
  unfold ofText at h
  split at h
  · obtain ⟨rfl, -, hnodup⟩ := check_eq_ok_iff.1 h
    exact hnodup
  · cases h

/-- The keys of the sessions, one for each. -/
def sessionKeys (w : Weekend) : List Cache.Key := w.sessions.map fun s => .ofSession s.id

/-- The keys of the standings that are cached, one for each. -/
def standingKeys (w : Weekend) : List Cache.Key :=
  w.sessions.flatMap fun s =>
    (s.standings.filter fun x => decide (0 ≤ x.driver.car)).map fun x =>
      .ofStanding s.id x.driver.car

theorem nodup_sessionKeys (h : (w.sessions.map (·.id)).Nodup) : w.sessionKeys.Nodup := by
  refine List.pairwise_map.2 ((List.pairwise_map.1 h).imp fun hne he => ?_)
  exact hne (Cache.Key.mk.inj he).1

theorem ofStanding_injective (session : Int) :
    Function.Injective (Cache.Key.ofStanding session) := fun _ _ h => (Cache.Key.mk.inj h).2

/-- Sessions with different ids leave only the cars of one session to be told apart. -/
theorem nodup_standingKeys_iff (h : (w.sessions.map (·.id)).Nodup) :
    w.standingKeys.Nodup ↔ ∀ s ∈ w.sessions,
      ((s.standings.filter fun x => decide (0 ≤ x.driver.car)).map (·.driver.car)).Nodup := by
  -- Keys of two sessions differ in the session already.
  have hdisjoint : w.sessions.Pairwise (Function.onFun List.Disjoint fun s =>
      (s.standings.filter fun x => decide (0 ≤ x.driver.car)).map fun x =>
        Cache.Key.ofStanding s.id x.driver.car) := by
    refine (List.pairwise_map.1 h).imp fun hne key hs ht => ?_
    obtain ⟨_, -, rfl⟩ := List.mem_map.1 hs
    obtain ⟨_, -, he⟩ := List.mem_map.1 ht
    exact hne (Cache.Key.mk.inj he).1.symm
  rw [standingKeys, List.nodup_flatMap, and_iff_left hdisjoint]
  refine forall₂_congr fun s _ => ?_
  rw [← List.nodup_map_iff (ofStanding_injective s.id), List.map_map]
  rfl

/-- In an accepted weekend the keys of any two sessions differ. The keys of any two standings differ
if and only if no session has two standings of one car; and then every label of a tick shows the
fields of its own subject. Standings with a negative index are not cached and do not count. -/
theorem keys_of_accepted (text : String) (w : Weekend) (h : ofText text = .ok w) :
    w.sessionKeys.Nodup ∧
      (w.standingKeys.Nodup ↔ ∀ s ∈ w.sessions,
        ((s.standings.filter fun x => decide (0 ≤ x.driver.car)).map (·.driver.car)).Nodup) ∧
      (w.standingKeys.Nodup → ∀ scene : Scene, scene.weekend = w → ∀ cache tick,
        (scene.render cache tick).1.labels =
          scene.theme.labels.map fun l => ⟨l.spec.name, scene.freshText l⟩) := by
  have hids := nodup_ids_of_ofText h
  have hkeys := nodup_standingKeys_iff hids
  refine ⟨nodup_sessionKeys hids, hkeys, fun hnodup scene hscene cache tick => ?_⟩
  have hidentities : scene.weekend.HasIdentities := by
    rw [hscene]
    exact ⟨hids, hkeys.1 hnodup⟩
  exact Scene.labels_render hidentities cache tick

/-- One car in two sessions. -/
def twoSessionsText : String :=
  "\x7b\"sessions\":[\x7b\"id\":1,\"standings\":[\x7b\"driver\":\x7b\"car_idx\":5\x7d\x7d]\x7d," ++
  "\x7b\"id\":2,\"standings\":[\x7b\"driver\":\x7b\"car_idx\":5\x7d\x7d]\x7d]\x7d"

def twoSessions : Weekend where
  sessions := [
    { id := 1, standings := [{ driver := { car := 5 } }] },
    { id := 2, standings := [{ driver := { car := 5 } }] }]

set_option maxRecDepth 4000 in
theorem keys_of_accepted_sample :
    ofText twoSessionsText = .ok twoSessions ∧ twoSessions.sessionKeys.Nodup ∧
      twoSessions.standingKeys.Nodup ∧
      ∀ scene : Scene, scene.weekend = twoSessions → ∀ cache tick,
        (scene.render cache tick).1.labels =
          scene.theme.labels.map fun l => ⟨l.spec.name, scene.freshText l⟩ := by
  have h : ofText twoSessionsText = .ok twoSessions := by rfl
  obtain ⟨hsessions, hstandings, hlabels⟩ := keys_of_accepted twoSessionsText twoSessions h
  have hnodup : twoSessions.standingKeys.Nodup := hstandings.2 (by decide)
  exact ⟨h, hsessions, hnodup, hlabels hnodup⟩

/-- Two drivers of one session with one car index. -/
def sharedCarText : String :=
  "\x7b\"sessions\":[\x7b\"standings\":[" ++
  "\x7b\"driver\":\x7b\"name\":\"J. Doe\",\"car_idx\":5\x7d,\"position\":1\x7d," ++
  "\x7b\"driver\":\x7b\"name\":\"A. Smith\",\"car_idx\":5\x7d,\"position\":2\x7d]\x7d]\x7d"

def sharedCar : Weekend where
  sessions := [{
    standings := [
      { driver := { name := "J. Doe", car := 5 }, position := 1 },
      { driver := { name := "A. Smith", car := 5 }, position := 2 }] }]

def placeEntry (offset : Nat) : Theme.Entry :=
  let spec : LabelSpec := { name := "place", template := "\x7bfullname\x7d", offset }
  ⟨spec, (spec.compile []).1⟩

def sharedCarScene : Scene where
  weekend := sharedCar
  theme := { labels := [placeEntry 0, placeEntry 1] }
  external := .empty
  scripts := .standard
  timer := clockText

set_option maxRecDepth 4000 in
/-- The snapshot is accepted, and the second label is served the fields of the first one's driver. -/
theorem accepted_keys_collide :
    ofText sharedCarText = .ok sharedCar ∧ ¬ sharedCar.standingKeys.Nodup ∧
      (sharedCarScene.render .empty 1).1.labels = [⟨"place", "J. Doe"⟩, ⟨"place", "J. Doe"⟩] ∧
      sharedCarScene.freshText (placeEntry 1) = "A. Smith" :=
  ⟨by rfl, by decide, by decide, by decide⟩

end Weekend

end RaceOverlay
