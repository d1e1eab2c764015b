import Mathlib.Data.Finset.Card
import RaceOverlay.Tick.Cache

/-!
# Runs of a cache

All that a cache knows is its history: the gets since it was last cleared. It keeps the value of the
first get for each entity at each rounding, as many entries as there are such pairs, and it computes
for these first gets and for every get without identity.
-/
namespace RaceOverlay.Cache

variable {V : Type}

/-- What is asked of a cache: an entity at a rounding. -/
abbrev Request := Key × Rounding

/-- The different requests for entities that have an identity. -/
def lasting (asked : List Request) : Finset Request :=
  (asked.filter fun request => !request.1.isTransient).toFinset

/-- The number of requests for entities without identity. -/
def transients (asked : List Request) : Nat := asked.countP fun request => request.1.isTransient

/-- The value of the first get for a request, if that is a request for an entity with identity. -/
def first? (past : List (Request × V)) (key : Key) (rounding : Rounding) : Option V :=
  if key.isTransient then none else past.lookup (key, rounding)

section Requests

variable {asked : List Request} {key : Key} {rounding : Rounding}

theorem mem_lasting {request : Request} :
    request ∈ lasting asked ↔ request ∈ asked ∧ request.1.isTransient = false := by
  simp [lasting]

private theorem lasting_concat_of_transient (h : key.isTransient = true) :
    lasting (asked ++ [(key, rounding)]) = lasting asked := by
  simp [lasting, h]

private theorem lasting_concat (h : key.isTransient = false) :
    lasting (asked ++ [(key, rounding)]) = insert (key, rounding) (lasting asked) := by
  ext request
  simp only [mem_lasting, Finset.mem_insert, List.mem_append, List.mem_singleton]
  constructor
  · rintro ⟨hasked | rfl, hlasting⟩
    · exact .inr ⟨hasked, hlasting⟩
    · exact .inl rfl
  · rintro (rfl | ⟨hasked, hlasting⟩)
    · exact ⟨.inr rfl, h⟩
    · exact ⟨.inl hasked, hlasting⟩

private theorem transients_concat :
    transients (asked ++ [(key, rounding)]) =
      transients asked + if key.isTransient then 1 else 0 := by
  simp [transients, List.countP_singleton]

private theorem first?_concat (past : List (Request × V)) (k : Key) (r : Rounding) (value : V) :
    first? (past ++ [((k, r), value)]) key rounding =
      (first? past key rounding).or
        (if k.isTransient = false ∧ (key, rounding) = (k, r) then some value else none) := by
  unfold first?
  split
  · rename_i hkey
    have hne : ¬ (k.isTransient = false ∧ (key, rounding) = (k, r)) := by
      rintro ⟨hk, he⟩
      rw [(Prod.mk.inj he).1, hk] at hkey
      cases hkey
    rw [if_neg hne]
    rfl
  · rename_i hkey
    rw [List.lookup_append]
    by_cases he : (key, rounding) = (k, r)
    · obtain ⟨rfl, rfl⟩ := Prod.mk.inj he
      rw [if_pos ⟨Bool.eq_false_iff.2 hkey, rfl⟩, List.lookup_cons_self]
    · rw [if_neg fun h => he h.2, List.lookup_cons, beq_false_of_ne he]
      rfl

end Requests

/-- The counts of a cache and the number of its entries, given all that was asked of it. -/
structure Counted (c : Cache V) (asked : List Request) : Prop where
  kept : ∀ key rounding, (c.stored? key rounding).isSome = true ↔ (key, rounding) ∈ lasting asked
  fetched : c.counts.hits + c.counts.misses = asked.length
  size : c.size = (lasting asked).card
  missed : c.counts.misses = c.size + transients asked

/-- A cache keeps the first value of every request for an entity with identity, and no other one. -/
def Remembers (c : Cache V) (past : List (Request × V)) : Prop :=
  ∀ key rounding, c.stored? key rounding = first? past key rounding

theorem counted_empty : (empty : Cache V).Counted [] where
  kept key rounding := by
    have hnone : (empty : Cache V).stored? key rounding = none := ite_self _
    simp [hnone, lasting]
  fetched := rfl
  size := rfl
  missed := rfl

theorem remembers_empty : (empty : Cache V).Remembers [] := fun _ _ => rfl

section Fetch

variable {c : Cache V} {asked : List Request} {past : List (Request × V)}

/-- A request that is kept counts as a hit and changes nothing else. -/
theorem Counted.countHit (h : c.Counted asked) {key : Key} {rounding : Rounding}
    (hkept : (c.stored? key rounding).isSome = true) :
    c.countHit.Counted (asked ++ [(key, rounding)]) := by
  have hmem := (h.kept key rounding).1 hkept
  have hlasting : key.isTransient = false := (mem_lasting.1 hmem).2
  have hsame : lasting (asked ++ [(key, rounding)]) = lasting asked := by
    rw [lasting_concat hlasting, Finset.insert_eq_of_mem hmem]
  have hfetched := h.fetched
  exact {
    kept := by
      rw [hsame]
      exact h.kept
    fetched := by
      rw [List.length_append, List.length_singleton, ← hfetched]
      show c.counts.hits + 1 + c.counts.misses = _
      omega
    size := by
      rw [hsame]
      exact h.size
    missed := by
      rw [transients_concat, hlasting, if_neg Bool.false_ne_true]
      exact h.missed }

/-- A request for an entity without identity counts as a miss, whatever is kept. -/
theorem Counted.countMiss (h : c.Counted asked) {key : Key} (rounding : Rounding)
    (ht : key.isTransient = true) : c.countMiss.Counted (asked ++ [(key, rounding)]) := by
  have hfetched := h.fetched
  have hmissed := h.missed
  have hsame : lasting (asked ++ [(key, rounding)]) = lasting asked :=
    lasting_concat_of_transient ht
  exact {
    kept := by
      rw [hsame]
      exact h.kept
    fetched := by
      rw [List.length_append, List.length_singleton, ← hfetched]
      rfl
    size := by
      rw [hsame]
      exact h.size
    missed := by
      rw [transients_concat, ht, if_pos rfl]
      show c.counts.misses + 1 = c.size + (transients asked + 1)
      omega }

/-- A request that is not kept counts as a miss and adds an entry, if its entity has identity. -/
theorem Counted.countMiss_store (h : c.Counted asked) {key : Key} {rounding : Rounding}
    (ht : key.isTransient = false) (hnone : c.stored? key rounding = none) (value : V) :
    (c.countMiss.store key rounding value).Counted (asked ++ [(key, rounding)]) := by
  have hfetched := h.fetched
  have hmissed := h.missed
  have hnew : (key, rounding) ∉ lasting asked := by
    rw [← h.kept, hnone]
    exact Bool.false_ne_true
  have hsize : (c.countMiss.store key rounding value).size = c.size + 1 :=
    size_store_of_none ht hnone
  exact {
    kept := fun k r => by
      rw [stored?_store_eq ht, lasting_concat ht, Finset.mem_insert, ← h.kept]
      split
      · rename_i he
        simp [he]
      · rename_i he
        simp only [he, false_or]
        rfl
    fetched := by
      rw [List.length_append, List.length_singleton, ← hfetched, counts_store]
      rfl
    size := by
      rw [lasting_concat ht, Finset.card_insert_of_notMem hnew, ← h.size, hsize]
    missed := by
      rw [transients_concat, ht, if_neg Bool.false_ne_true, counts_store, hsize]
      show c.counts.misses + 1 = c.size + 1 + (transients asked + 0)
      omega }

theorem Counted.fetch (h : c.Counted asked) (key : Key) (rounding : Rounding)
    (compute : Unit → V) :
    (c.fetch key rounding compute).2.Counted (asked ++ [(key, rounding)]) := by
  cases hs : c.stored? key rounding with
  | some value =>
    rw [fetch_of_some hs]
    exact h.countHit (by rw [hs]; rfl)
  | none =>
    rw [fetch_of_none hs]
    cases ht : key.isTransient with
    | true =>
      rw [store_of_transient ht]
      exact h.countMiss rounding ht
    | false => exact h.countMiss_store ht hs _

/-- The first value stays, and a new request is kept with its own value. -/
theorem Remembers.fetch (h : c.Remembers past) (key : Key) (rounding : Rounding)
    (compute : Unit → V) :
    (c.fetch key rounding compute).2.Remembers (past ++ [((key, rounding), compute ())]) := by
  intro k r
  rw [first?_concat, ← h]
  cases hs : c.stored? key rounding with
  | some value =>
    rw [fetch_of_some hs]
    show c.stored? k r = _
    split
    · rename_i he
      obtain ⟨rfl, rfl⟩ := Prod.mk.inj he.2
      rw [hs]
      rfl
    · rw [Option.or_none]
  | none =>
    rw [fetch_of_none hs]
    cases ht : key.isTransient with
    | true =>
      rw [store_of_transient ht, if_neg fun hf => Bool.false_ne_true hf.1.symm, Option.or_none]
      rfl
    | false =>
      rw [stored?_store_eq ht]
      by_cases he : (k, r) = (key, rounding)
      · obtain ⟨rfl, rfl⟩ := Prod.mk.inj he
        rw [if_pos rfl, if_pos ⟨rfl, rfl⟩, hs]
        rfl
      · rw [if_neg he, if_neg fun hf => he hf.2, Option.or_none]
        rfl

theorem Remembers.value_fetch (h : c.Remembers past) (key : Key) (rounding : Rounding)
    (compute : Unit → V) :
    (c.fetch key rounding compute).1 = (first? past key rounding).getD (compute ()) := by
  rw [← h]
  cases hs : c.stored? key rounding with
  | some value =>
    rw [fetch_of_some hs]
    rfl
  | none =>
    rw [fetch_of_none hs]
    rfl

end Fetch

section Effects

variable {m : Type → Type} [Monad m]

/-- A fetch whose value is computed with effects. -/
def fetchM (c : Cache V) (key : Key) (rounding : Rounding) (compute : m V) : m (V × Cache V) :=
  match c.stored? key rounding with
  | some value => pure (value, c.countHit)
  | none => do
    let value ← compute
    pure (value, c.countMiss.store key rounding value)

variable [LawfulMonad m] {c : Cache V} {past : List (Request × V)}

theorem fetchM_pure (c : Cache V) (key : Key) (rounding : Rounding) (compute : Unit → V) :
    c.fetchM key rounding (pure (compute ()) : m V) = pure (c.fetch key rounding compute) := by
  unfold fetchM fetch
  cases c.stored? key rounding with
  | some value => rfl
  | none => exact pure_bind ..

/-- The effects of computing take place exactly where there was no get before. -/
theorem Remembers.value_fetchM (h : c.Remembers past) (key : Key) (rounding : Rounding)
    (compute : m V) :
    (·.1) <$> c.fetchM key rounding compute =
      match first? past key rounding with
      | some value => pure value
      | none => compute := by
  rw [← h]
  unfold fetchM
  cases c.stored? key rounding with
  | some value => exact map_pure ..
  | none =>
    show (·.1) <$> (compute >>= fun value => pure (value, c.countMiss.store key rounding value)) = _
    rw [map_bind]
    simp

end Effects

/-- What can be done with a cache. A get has the value that it would compute. -/
inductive Step (V : Type) where
  | get (key : Key) (rounding : Rounding) (value : V)
  | clear

def step (c : Cache V) : Step V → Cache V
  | .get key rounding value => (c.fetch key rounding fun _ => value).2
  | .clear => c.cleared

/-- A new cache after the steps of a run. -/
def after (steps : List (Step V)) : Cache V := steps.foldl step empty

/-- The history after a step. -/
def record (past : List (Request × V)) : Step V → List (Request × V)
  | .get key rounding value => past ++ [((key, rounding), value)]
  | .clear => []

/-- The gets of a run since the last clearing, the first one first. -/
def gets (steps : List (Step V)) : List (Request × V) := steps.foldl record []

/-- A cache is what its history makes of it. -/
structure Follows (c : Cache V) (past : List (Request × V)) : Prop where
  remembers : c.Remembers past
  counted : c.Counted (past.map (·.1))

theorem follows_empty : (empty : Cache V).Follows [] := ⟨remembers_empty, counted_empty⟩

theorem Follows.step {c : Cache V} {past : List (Request × V)} (h : c.Follows past) (s : Step V) :
    (c.step s).Follows (record past s) := by
  cases s with
  | get key rounding value =>
    have hcounted := h.counted.fetch key rounding fun _ => value
    refine ⟨h.remembers.fetch key rounding fun _ => value, ?_⟩
    rwa [record, List.map_append, List.map_singleton]
  | clear => exact follows_empty

theorem Follows.foldl {c : Cache V} {past : List (Request × V)} (h : c.Follows past)
    (steps : List (Step V)) : (steps.foldl Cache.step c).Follows (steps.foldl record past) := by
  induction steps generalizing c past with
  | nil => exact h
  | cons s steps ih => exact ih (h.step s)

theorem follows_after (steps : List (Step V)) : (after steps).Follows (gets steps) :=
  follows_empty.foldl steps

/-- A get after any run gives the value of the first get for its request since the last clearing,
and computes nothing. If there was none, or if its entity has no identity, it computes its own value
and gives that. The counts and the number of entries are those of the gets since the clearing. -/
theorem get_after_run {m : Type → Type} [Monad m] [LawfulMonad m] (steps : List (Step V))
    (key : Key) (rounding : Rounding) :
    let c := after steps
    let past := gets steps
    let asked := past.map (·.1)
    (∀ compute : Unit → V,
      (c.fetch key rounding compute).1 = (first? past key rounding).getD (compute ()) ∧
      c.fetchM key rounding (pure (compute ()) : m V) = pure (c.fetch key rounding compute)) ∧
    (∀ compute : m V, (·.1) <$> c.fetchM key rounding compute =
      match first? past key rounding with
      | some value => pure value
      | none => compute) ∧
    c.counts.hits + c.counts.misses = asked.length ∧
    c.size = (lasting asked).card ∧
    c.counts.misses = c.size + transients asked := by
  have h := follows_after steps
  refine ⟨fun compute => ⟨h.remembers.value_fetch key rounding compute, ?_⟩,
    h.remembers.value_fetchM key rounding, h.counted.fetched, h.counted.size, h.counted.missed⟩
  exact fetchM_pure (after steps) key rounding compute

/-- Gets of one car before and after a clearing, and of a car without identity. -/
def sampleRun : List (Step Nat) := [
  .get (.ofStanding 0 4) .full 1, .clear, .get (.ofStanding 0 4) .full 2,
  .get (.ofStanding 0 (-1)) .full 3, .get (.ofStanding 0 4) .full 4]

theorem get_after_run_sample :
    (∀ compute : StateM Nat Nat,
      (·.1) <$> (after sampleRun).fetchM (.ofStanding 0 4) .full compute = pure 2) ∧
    (∀ compute : StateM Nat Nat,
      (·.1) <$> (after sampleRun).fetchM (.ofStanding 0 (-1)) .full compute = compute) ∧
    (after sampleRun).counts = ⟨1, 2⟩ ∧ (after sampleRun).size = 1 := by
  obtain ⟨-, hkept, -, hsize, -⟩ :=
    get_after_run (m := StateM Nat) sampleRun (.ofStanding 0 4) .full
  obtain ⟨-, htransient, -⟩ :=
    get_after_run (m := StateM Nat) sampleRun (.ofStanding 0 (-1)) .full
  exact ⟨hkept, htransient, by decide, hsize⟩

end RaceOverlay.Cache
