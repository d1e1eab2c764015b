import Mathlib.Data.List.Forall2
import Mathlib.Data.String.Basic
import Mathlib.Order.WithBot
import RaceOverlay.Proofs.ClassRanks

/-!
# Sessions with their cars in another order

A ranking sorts the cars as they are listed, and a search takes the first one. Neither depends on
the list if no two cars share an index or the key of a position. Cars at the greatest position are
the exception to the latter: positions tell them from unclassified cars, and keys do not.
-/
namespace RaceOverlay

section Lists

variable {α : Type} {r : α → α → Prop} {xs ys : List α}

/-- Two members of a list can be its first ones. -/
private theorem exists_perm_cons_cons {a b : α} (ha : a ∈ xs) (hb : b ∈ xs) (hne : b ≠ a) :
    ∃ rest, xs.Perm (a :: b :: rest) := by
  obtain ⟨front, back, rfl⟩ := List.append_of_mem ha
  have hfirst : (front ++ a :: back).Perm (a :: (front ++ back)) := List.perm_middle
  have hothers : b ∈ front ++ back := (List.mem_cons.1 (hfirst.mem_iff.1 hb)).resolve_left hne
  obtain ⟨front', back', hsplit⟩ := List.append_of_mem hothers
  rw [hsplit] at hfirst
  exact ⟨front' ++ back', hfirst.trans (List.perm_middle.cons a)⟩

theorem rel_getElem? (h : List.Forall₂ r xs ys) (i : Nat) : Option.Rel r xs[i]? ys[i]? := by
  induction h generalizing i with
  | nil => exact .none
  | cons hxy _ ih =>
    cases i with
    | zero => exact .some hxy
    | succ i => exact ih i

private theorem rel_find? {p : α → Bool} (h : List.Forall₂ r xs ys)
    (hp : ∀ x y, r x y → p x = p y) : Option.Rel r (xs.find? p) (ys.find? p) := by
  induction h with
  | nil => exact .none
  | @cons x y xs ys hxy _ ih =>
    rw [List.find?_cons, List.find?_cons, ← hp x y hxy]
    cases p x with
    | true => exact .some hxy
    | false => exact ih

theorem findIdx?_eq_of_rel {p : α → Bool} (h : List.Forall₂ r xs ys)
    (hp : ∀ x y, r x y → p x = p y) : xs.findIdx? p = ys.findIdx? p := by
  induction h with
  | nil => rfl
  | @cons x y xs ys hxy _ ih => rw [List.findIdx?_cons, List.findIdx?_cons, hp x y hxy, ih]

end Lists

/-- The rank that a position stands for: those that are none share one behind all others. -/
def positionRank (position : Int) : WithTop Int := if 0 < position then position else ⊤

/-- The orders that read positions and classes only. -/
def StandingOrder.IsByPosition : StandingOrder → Prop
  | .position | .livePosition | .classPosition => True
  | .fastestLap | .points | .trackPosition => False

instance : DecidablePred StandingOrder.IsByPosition
  | .position | .livePosition | .classPosition => .isTrue trivial
  | .fastestLap | .points | .trackPosition => .isFalse id

namespace Standing

theorem beforeByClass_eq : beforeByClass =
    Order.lexBefore (·.driver.classOrder) (Order.lexBefore (·.driver.className)
      fun a b => decide (positionKey a.position < positionKey b.position)) := rfl

theorem strictWeak_beforeByClass : Order.StrictWeak beforeByClass := by
  rw [beforeByClass_eq]
  exact ((Order.StrictWeak.ofKey _).lexBefore _).lexBefore _

theorem key_eq_of_beforeByClass {a b : Standing} (hab : a.beforeByClass b = false)
    (hba : b.beforeByClass a = false) : positionKey a.position = positionKey b.position := by
  rw [beforeByClass_eq] at hab hba
  obtain ⟨-, hab, hba⟩ := Order.lexBefore_ties hab hba
  obtain ⟨-, hab, hba⟩ := Order.lexBefore_ties hab hba
  exact le_antisymm (not_lt.1 (of_decide_eq_false hba)) (not_lt.1 (of_decide_eq_false hab))

end Standing

namespace Session

/-- The same session with its cars listed in another order. -/
def Relisted (s t : Session) : Prop :=
  ∃ cars, s.standings.Perm cars ∧ t = { s with standings := cars }

/-- The cars have different indices, and their positions and live positions different ranks. -/
structure TellsApart (s : Session) : Prop where
  cars : (s.standings.map (·.driver.car)).Nodup
  positions : (s.standings.map fun x => positionRank x.position).Nodup
  livePositions : (s.standings.map fun x => positionRank x.livePosition).Nodup

/-- No car at the greatest position beside an unclassified car, which has the same key. -/
def GreatestApart (s : Session) (position : Standing → Int) : Prop :=
  ∀ a ∈ s.standings, ∀ b ∈ s.standings, position a ≤ 0 → position b ≠ Text.maxSigned32

/-- A car is known by the key of its position. -/
def KnownByKey (s : Session) (position : Standing → Int) : Prop :=
  ∀ a ∈ s.standings, ∀ b ∈ s.standings,
    positionKey (position a) = positionKey (position b) → a = b

variable {s : Session} {position : Standing → Int}

/-- Different ranks leave one way for two keys to be equal. -/
theorem knownByKey_iff (hranks : (s.standings.map fun x => positionRank (position x)).Nodup) :
    s.KnownByKey position ↔ s.GreatestApart position := by
  constructor
  · intro hknown a ha b hb hunclassified hgreatest
    have hkey : positionKey (position a) = positionKey (position b) := by
      rw [positionKey_of_not_pos hunclassified, hgreatest]
      rfl
    obtain rfl := hknown a ha b hb hkey
    exact absurd hunclassified (by rw [hgreatest]; decide)
  · intro hgreatest a ha b hb hkey
    refine List.inj_on_of_nodup_map hranks ha hb ?_
    rcases lt_or_ge 0 (position a) with hpa | hpa
    · rcases lt_or_ge 0 (position b) with hpb | hpb
      · rw [positionKey_of_pos hpa, positionKey_of_pos hpb] at hkey
        rw [hkey]
      · rw [positionKey_of_pos hpa, positionKey_of_not_pos hpb] at hkey
        exact absurd hkey (hgreatest b hb a ha hpb)
    · rcases lt_or_ge 0 (position b) with hpb | hpb
      · rw [positionKey_of_not_pos hpa, positionKey_of_pos hpb] at hkey
        exact absurd hkey.symm (hgreatest a ha b hb hpa)
      · rw [positionRank, positionRank, if_neg (not_lt.2 hpa), if_neg (not_lt.2 hpb)]

/-- What the lookups of a session need to have one answer for all listings. -/
structure Unambiguous (s : Session) : Prop where
  cars : (s.standings.map (·.driver.car)).Nodup
  position : s.KnownByKey (·.position)
  livePosition : s.KnownByKey (·.livePosition)

theorem TellsApart.unambiguous (h : s.TellsApart) (hposition : s.GreatestApart (·.position))
    (hlive : s.GreatestApart (·.livePosition)) : s.Unambiguous where
  cars := h.cars
  position := (knownByKey_iff h.positions).2 hposition
  livePosition := (knownByKey_iff h.livePositions).2 hlive

theorem KnownByKey.eq_of_ties (h : s.KnownByKey position) {a b : Standing} (ha : a ∈ s.standings)
    (hb : b ∈ s.standings) (hab : ahead position a b = false) (hba : ahead position b a = false) :
    a = b := by
  refine h a ha b hb (le_antisymm ?_ ?_)
  · exact not_lt.1 (of_decide_eq_false hba)
  · exact not_lt.1 (of_decide_eq_false hab)

section Lookups

variable {order : StandingOrder} {cars : List Standing}

theorem strictWeak_before (horder : order.IsByPosition) (external : External) :
    Order.StrictWeak (order.before external) := by
  cases order with
  | position => exact strictWeak_ahead (·.position)
  | livePosition => exact strictWeak_ahead (·.livePosition)
  | classPosition => exact Standing.strictWeak_beforeByClass
  | fastestLap | points | trackPosition => exact horder.elim

theorem Unambiguous.eq_of_ties (h : s.Unambiguous) (horder : order.IsByPosition)
    {external : External} {a b : Standing} (ha : a ∈ s.standings) (hb : b ∈ s.standings)
    (hab : order.before external a b = false) (hba : order.before external b a = false) :
    a = b := by
  cases order with
  | position => exact h.position.eq_of_ties ha hb hab hba
  | livePosition => exact h.livePosition.eq_of_ties ha hb hab hba
  | classPosition => exact h.position a ha b hb (Standing.key_eq_of_beforeByClass hab hba)
  | fastestLap | points | trackPosition => exact horder.elim

theorem ordered_relisted (h : s.Unambiguous) (hperm : s.standings.Perm cars)
    (horder : order.IsByPosition) (external : External) :
    ordered { s with standings := cars } order external = s.ordered order external :=
  (Order.stableSort_eq_of_perm (strictWeak_before horder external) hperm
    fun _ ha _ hb => h.eq_of_ties horder ha hb).symm

/-- Two cars that share the greatest key keep the order of the list. -/
theorem greatestApart_of_ordered {external : External}
    (horder : order.before external = ahead position)
    (h : ∀ t, s.Relisted t → t.ordered order external = s.ordered order external) :
    s.GreatestApart position := by
  intro a ha b hb hunclassified hgreatest
  have hne : b ≠ a := by
    rintro rfl
    rw [hgreatest] at hunclassified
    exact absurd hunclassified (by decide)
  obtain ⟨rest, hab⟩ := exists_perm_cons_cons ha hb hne
  have hkept (cars : List Standing) (hcars : s.standings.Perm cars) :
      (s.ordered order external).filter (hasGreatestKey position) =
        cars.filter (hasGreatestKey position) := by
    rw [← h _ ⟨cars, hcars, rfl⟩, ordered, horder]
    exact filter_hasGreatestKey position cars
  have hboth := (hkept _ hab).symm.trans (hkept _ (hab.trans (.swap b a rest)))
  have hga : hasGreatestKey position a = true := by
    simp [hasGreatestKey, positionKey_of_not_pos hunclassified]
  have hgb : hasGreatestKey position b = true := by
    simp [hasGreatestKey, hgreatest, positionKey]
  rw [List.filter_cons_of_pos hga, List.filter_cons_of_pos hgb,
    List.filter_cons_of_pos hgb] at hboth
  exact hne (List.cons.inj hboth).1.symm

/-- Where ranks are different, the orders are the same for all listings if and only if no car at the
greatest position stands beside an unclassified one. -/
theorem ordered_relisted_iff (h : s.TellsApart) (external : External) :
    (∀ t, s.Relisted t → ∀ order : StandingOrder, order.IsByPosition →
        t.ordered order external = s.ordered order external) ↔
      s.GreatestApart (·.position) ∧ s.GreatestApart (·.livePosition) := by
  constructor
  · intro hsame
    constructor
    · exact greatestApart_of_ordered rfl fun t ht => hsame t ht .position trivial
    · exact greatestApart_of_ordered rfl fun t ht => hsame t ht .livePosition trivial
  · rintro ⟨hposition, hlive⟩ t ⟨cars, hperm, rfl⟩ order horder
    exact ordered_relisted (h.unambiguous hposition hlive) hperm horder external

theorem classRank_relisted (h : s.KnownByKey position) (hperm : s.standings.Perm cars)
    (driver : Driver) :
    classRank { s with standings := cars } driver position = s.classRank driver position := by
  have hordered : classOrdered { s with standings := cars } driver.className position =
      s.classOrdered driver.className position := by
    refine (Order.stableSort_eq_of_perm (strictWeak_ahead position) (hperm.filter _) ?_).symm
    intro a ha b hb
    exact h.eq_of_ties (List.mem_filter.1 ha).1 (List.mem_filter.1 hb).1
  rw [classRank, classRank, hordered]

/-- Two listings of a session for which all lookups by position have the same answers. -/
structure Alike (s t : Session) : Prop where
  relisted : s.Relisted t
  atRank? : ∀ rank order className external, order.IsByPosition →
    t.atRank? rank order className external = s.atRank? rank order className external
  standing? : ∀ car, t.standing? car = s.standing? car
  classPosition : ∀ driver, t.classPosition driver = s.classPosition driver
  classLivePosition : ∀ driver, t.classLivePosition driver = s.classLivePosition driver

theorem Relisted.alike {t : Session} (hrelisted : s.Relisted t) (h : s.Unambiguous) :
    s.Alike t := by
  obtain ⟨cars, hperm, rfl⟩ := hrelisted
  exact {
    relisted := ⟨cars, hperm, rfl⟩
    atRank? rank order className external horder := by
      rw [atRank?, atRank?, ordered_relisted h hperm horder external]
    standing? car := (Order.find?_key_eq_of_perm hperm h.cars car).symm
    classPosition := classRank_relisted h.position hperm
    classLivePosition := classRank_relisted h.livePosition hperm }

theorem Alike.id_eq {t : Session} (h : s.Alike t) : t.id = s.id := by
  obtain ⟨cars, -, rfl⟩ := h.relisted
  rfl

theorem Alike.classLeader? {t : Session} (h : s.Alike t) (className : String) :
    t.classLeader? className = s.classLeader? className := by
  rw [classLeader?_eq_atRank? t className .empty, classLeader?_eq_atRank? s className .empty]
  exact h.atRank? 1 .position (some className) .empty trivial

end Lookups

end Session

namespace Weekend

/-- The same weekend with the cars of every session listed in another order. -/
def Relisted (w v : Weekend) : Prop :=
  ∃ sessions, List.Forall₂ Session.Relisted w.sessions sessions ∧ v = { w with sessions }

/-- Two weekends whose sessions are alike. -/
def Alike (w v : Weekend) : Prop :=
  ∃ sessions, List.Forall₂ Session.Alike w.sessions sessions ∧ v = { w with sessions }

variable {w v : Weekend}

theorem Relisted.alike (hrelisted : w.Relisted v) (h : ∀ s ∈ w.sessions, s.Unambiguous) :
    w.Alike v := by
  obtain ⟨sessions, hsessions, rfl⟩ := hrelisted
  have hboth := (List.forall₂_and_left w.sessions sessions).2 ⟨h, hsessions⟩
  exact ⟨sessions, hboth.imp fun s t hst => hst.2.alike hst.1, rfl⟩

theorem Alike.current? (h : w.Alike v) : Option.Rel Session.Alike w.current? v.current? := by
  obtain ⟨sessions, hsessions, rfl⟩ := h
  exact rel_getElem? hsessions w.current

theorem Alike.sessionOfKind? (h : w.Alike v) (kind : SessionKind) :
    Option.Rel Session.Alike (w.sessionOfKind? kind) (v.sessionOfKind? kind) := by
  obtain ⟨sessions, hsessions, rfl⟩ := h
  refine rel_find? hsessions fun s t hst => ?_
  obtain ⟨cars, -, rfl⟩ := hst.relisted
  rfl

/-- What does not read the cars of the running session is the same for both. -/
theorem Alike.match_current? {β : Type} (h : w.Alike v) (default : β) (f : Session → β)
    (hf : ∀ (s : Session) cars, f { s with standings := cars } = f s) :
    (match v.current? with | some s => f s | none => default) =
      match w.current? with | some s => f s | none => default := by
  have hrel := h.current?
  generalize w.current? = a at hrel
  generalize v.current? = b at hrel
  cases hrel with
  | none => rfl
  | @some s t hst =>
    obtain ⟨cars, -, rfl⟩ := hst.relisted
    exact hf s cars

theorem Alike.now (h : w.Alike v) : v.now = w.now :=
  h.match_current? 0.0 (·.time) fun _ _ => rfl

end Weekend

end RaceOverlay
