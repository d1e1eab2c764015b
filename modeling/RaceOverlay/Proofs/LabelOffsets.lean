import Mathlib.Data.List.Nodup
import RaceOverlay.Tick.Render

/-!
# Offsets of labels

A label of standings has an offset of 64 bits, of which its rank keeps the low 32 as a signed
number. Up to the greatest rank the label shows the standing at its offset. Beyond it, the low bits
may name a standing that the offset does not. Nothing is claimed of offsets whose low bits are the
greatest signed number: no rank follows it.
-/
namespace RaceOverlay

/-- What a label of standings shows, given the standing that it found. -/
def Subject.ofStanding? (s : Session) : Option Standing → Subject
  | some x => .standing s x
  | none => .noStanding

theorem Subject.ofStanding?_inj {s : Session} {a b : Option Standing} :
    Subject.ofStanding? s a = Subject.ofStanding? s b ↔ a = b := by
  cases a <;> cases b <;> simp [Subject.ofStanding?]

namespace LabelSpec

variable (spec : LabelSpec)

/-- The standings that an offset counts: those of the label's class, in its order. -/
def counted (s : Session) (external : External) : List Standing :=
  (s.ordered spec.order external).filter (Session.isOfClass spec.className)

/-- The low 32 bits of the offset. -/
def lowOffset : Nat := spec.offset % 4294967296

/-- The offset is less than the greatest signed 32-bit number, or neither it nor its low bits name
one of `count` places. -/
def Reaches (count : Nat) : Prop :=
  spec.offset < 2147483647 ∨
    count ≤ spec.offset ∧ (count ≤ spec.lowOffset ∨ 2147483648 ≤ spec.lowOffset)

theorem rank_eq : spec.rank =
    if spec.lowOffset < 2147483647 then (spec.lowOffset : Int) + 1
    else (spec.lowOffset : Int) + 1 - 4294967296 := by
  have hlow : spec.lowOffset = spec.offset % 4294967296 := rfl
  show Int.bmod (Int.bmod spec.offset 4294967296 + 1) 4294967296 = _
  rw [Int.bmod_add_bmod, Int.bmod_def, hlow]
  split <;> split <;> omega

theorem atRank?_rank (s : Session) (external : External) :
    s.atRank? spec.rank spec.order spec.className external =
      if spec.lowOffset < 2147483647 then (spec.counted s external)[spec.lowOffset]? else none := by
  have hbound : spec.lowOffset < 4294967296 := by
    unfold lowOffset
    omega
  rw [Session.atRank?, rank_eq]
  by_cases hlow : spec.lowOffset < 2147483647
  · have hplace : ((spec.lowOffset : Int) + 1).toNat - 1 = spec.lowOffset := by omega
    rw [if_pos hlow, if_pos hlow, if_neg (by omega), hplace, counted]
  · rw [if_neg hlow, if_neg hlow, if_pos (by omega)]

variable {spec} {w : Weekend} {s : Session}

theorem subjectIn_standing (external : External) (hdataset : spec.dataset = .standing) :
    spec.subjectIn w external s =
      .ofStanding? s (s.atRank? spec.rank spec.order spec.className external) := by
  unfold subjectIn
  rw [hdataset]
  cases s.atRank? spec.rank spec.order spec.className external with
  | none => rfl
  | some x => rfl

theorem subject_eq_ofStanding? (external : External) (hdataset : spec.dataset = .standing)
    (hsession : spec.session? w = some s) :
    spec.subject w external = .ofStanding? s
      (if spec.lowOffset < 2147483647 then (spec.counted s external)[spec.lowOffset]? else none) := by
  rw [← atRank?_rank, ← subjectIn_standing external hdataset, subject, hsession]

theorem found_eq_of_reaches {found : List Standing} (h : spec.Reaches found.length) :
    (if spec.lowOffset < 2147483647 then found[spec.lowOffset]? else none) = found[spec.offset]? := by
  rcases h with hsmall | ⟨hend, hlow⟩
  · have hsame : spec.lowOffset = spec.offset := Nat.mod_eq_of_lt (by omega)
    rw [hsame, if_pos (by omega)]
  · rw [List.getElem?_eq_none hend]
    split
    · rename_i hbits
      exact List.getElem?_eq_none (by omega)
    · rfl

/-- In a list without repetitions, low bits that lose a part of the offset find another place. -/
theorem reaches_of_found_eq {found : List Standing} (hfound : found.Nodup)
    (hrank : spec.lowOffset ≠ 2147483647)
    (h : (if spec.lowOffset < 2147483647 then found[spec.lowOffset]? else none) =
      found[spec.offset]?) : spec.Reaches found.length := by
  by_cases hsame : spec.lowOffset = spec.offset
  · by_cases hsmall : spec.lowOffset < 2147483647
    · exact .inl (by omega)
    · rw [if_neg hsmall, eq_comm, List.getElem?_eq_none_iff] at h
      exact .inr ⟨h, .inr (by omega)⟩
  · right
    split at h
    · have hnone : found.length ≤ spec.lowOffset := by
        by_contra hlow
        exact hsame ((List.getElem?_inj (Nat.not_le.1 hlow) hfound).1 h)
      rw [List.getElem?_eq_none hnone, eq_comm, List.getElem?_eq_none_iff] at h
      exact ⟨h, .inl hnone⟩
    · rename_i hhigh
      exact ⟨List.getElem?_eq_none_iff.1 h.symm, .inr (by omega)⟩

end LabelSpec

namespace Scene

/-- A label of standings whose offset reaches shows the standing at its offset, and nothing where
the standings end before. In sessions that list no standing twice, only such offsets do so. -/
theorem renderLabel_at_offset (scene : Scene) (l : Theme.Entry) (s : Session)
    (hdataset : l.spec.dataset = .standing) (hsession : l.spec.session? scene.weekend = some s)
    (hrank : l.spec.lowOffset ≠ 2147483647) :
    (l.spec.Reaches (l.spec.counted s scene.external).length → ∀ cache,
      (∀ h : l.spec.offset < (l.spec.counted s scene.external).length,
        scene.renderLabel l cache =
          scene.renderStanding l.label s (l.spec.counted s scene.external)[l.spec.offset] cache) ∧
      ((l.spec.counted s scene.external).length ≤ l.spec.offset →
        (scene.renderLabel l cache).text = "")) ∧
    (s.standings.Nodup →
      (l.spec.subject scene.weekend scene.external =
          .ofStanding? s (l.spec.counted s scene.external)[l.spec.offset]? ↔
        l.spec.Reaches (l.spec.counted s scene.external).length)) := by
  have hsubject := LabelSpec.subject_eq_ofStanding? scene.external hdataset hsession
  constructor
  · intro hreaches cache
    rw [LabelSpec.found_eq_of_reaches hreaches] at hsubject
    unfold renderLabel
    rw [hsubject]
    constructor
    · intro h
      rw [List.getElem?_eq_getElem h]
      rfl
    · intro h
      rw [List.getElem?_eq_none h]
      rfl
  · intro hstandings
    have hfound : (l.spec.counted s scene.external).Nodup :=
      ((s.ordered_perm l.spec.order scene.external).nodup_iff.2 hstandings).filter _
    rw [hsubject, Subject.ofStanding?_inj]
    exact ⟨LabelSpec.reaches_of_found_eq hfound hrank, LabelSpec.found_eq_of_reaches⟩

/-- Three cars of two classes. -/
def classSession : Session where
  standings := [
    { driver := { name := "J. Doe", car := 5, className := "GT3" }, livePosition := 3 },
    { driver := { name := "B. Long", car := 7, className := "LMP2" }, livePosition := 1 },
    { driver := { name := "A. Smith", car := 9, className := "GT3" }, livePosition := 2 }]

def offsetEntry (offset : Nat) : Theme.Entry :=
  let spec : LabelSpec := {
    name := "tower"
    template := "\x7bfullname\x7d"
    order := .livePosition
    offset
    className := some "GT3" }
  ⟨spec, (spec.compile []).1⟩

def offsetScene : Scene where
  weekend := { sessions := [classSession] }
  theme := { labels := [offsetEntry 1] }
  external := .empty
  scripts := .standard
  timer := clockText

theorem renderLabel_at_offset_sample :
    (offsetEntry 1).spec.dataset = .standing ∧
      (offsetEntry 1).spec.session? offsetScene.weekend = some classSession ∧
      (offsetEntry 1).spec.lowOffset ≠ 2147483647 ∧
      classSession.standings.Nodup ∧
      (∀ cache (h : 1 < ((offsetEntry 1).spec.counted classSession .empty).length),
        offsetScene.renderLabel (offsetEntry 1) cache =
          offsetScene.renderStanding (offsetEntry 1).label classSession
            ((offsetEntry 1).spec.counted classSession .empty)[1] cache) ∧
      (offsetEntry 1).spec.subject offsetScene.weekend .empty =
        .ofStanding? classSession ((offsetEntry 1).spec.counted classSession .empty)[1]? := by
  have hsession : (offsetEntry 1).spec.session? offsetScene.weekend = some classSession := rfl
  have hrank : (offsetEntry 1).spec.lowOffset ≠ 2147483647 := by decide
  have hstandings : classSession.standings.Nodup :=
    List.Nodup.of_map (·.driver.car) (by decide)
  have hreaches : (offsetEntry 1).spec.Reaches
      ((offsetEntry 1).spec.counted classSession .empty).length := .inl (by decide)
  obtain ⟨hshows, hiff⟩ :=
    renderLabel_at_offset offsetScene (offsetEntry 1) classSession rfl hsession hrank
  exact ⟨rfl, hsession, hrank, hstandings, fun cache => (hshows hreaches cache).1,
    (hiff hstandings).2 hreaches⟩

/-- Only two cars count, and yet the label is not empty: its low bits name the first one. -/
theorem far_offset_shows_first :
    (offsetEntry 4294967296).spec.session? offsetScene.weekend = some classSession ∧
      ((offsetEntry 4294967296).spec.counted classSession .empty).length = 2 ∧
      (offsetScene.renderLabel (offsetEntry 4294967296) .empty).text = "A. Smith" :=
  ⟨rfl, by decide, by decide⟩

end Scene

end RaceOverlay
