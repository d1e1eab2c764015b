import RaceOverlay.Number.Rounding
import RaceOverlay.Order.Keys
import RaceOverlay.Token.Fields
import RaceOverlay.Token.Session
import RaceOverlay.Token.Standing

/-!
# Caches

What was computed for an entity at a rounding is kept for the rest of the tick. Entities with a
negative index have no identity: they are computed each time and never kept.
-/
namespace RaceOverlay

namespace Cache

/-- What a value is computed for. -/
structure Key where
  session : Int
  index : Int
  deriving DecidableEq

namespace Key

def ofStanding (session car : Int) : Key := ⟨session, car⟩

def ofSession (session : Int) : Key := ⟨session, 0⟩

/-- Whether the entity has no identity. -/
def isTransient (k : Key) : Bool := decide (k.index < 0)

end Key

structure Counts where
  hits : Nat := 0
  misses : Nat := 0
  deriving DecidableEq

instance : Add Counts := ⟨fun a b => ⟨a.hits + b.hits, a.misses + b.misses⟩⟩

end Cache

structure Cache (V : Type) where
  /-- The last one stored first. -/
  entries : List ((Cache.Key × Rounding) × V)
  keys_nodup : (entries.map (·.1)).Nodup
  counts : Cache.Counts

namespace Cache

variable {V : Type}

def empty : Cache V := ⟨[], .nil, {}⟩

/-- Nothing is kept any more, and counting starts again. -/
def cleared (_ : Cache V) : Cache V := empty

def size (c : Cache V) : Nat := c.entries.length

/-- The value that is kept for an entity. -/
def stored? (c : Cache V) (key : Key) (rounding : Rounding) : Option V :=
  if key.isTransient then none else c.entries.lookup (key, rounding)

def countHit (c : Cache V) : Cache V :=
  { c with counts := { c.counts with hits := c.counts.hits + 1 } }

def countMiss (c : Cache V) : Cache V :=
  { c with counts := { c.counts with misses := c.counts.misses + 1 } }

/-- Adds an entry in place of the one with its key. -/
def store (c : Cache V) (key : Key) (rounding : Rounding) (value : V) : Cache V :=
  if key.isTransient then c
  else
    { c with
      entries := ((key, rounding), value) :: c.entries.filter fun e => e.1 != (key, rounding)
      keys_nodup := Order.nodup_keys_cons c.keys_nodup ((key, rounding), value) }

/-- The kept value of an entity, or else a computed one, which is kept from then on. -/
def fetch (c : Cache V) (key : Key) (rounding : Rounding) (compute : Unit → V) : V × Cache V :=
  match c.stored? key rounding with
  | some value => (value, c.countHit)
  | none =>
    let value := compute ()
    (value, c.countMiss.store key rounding value)

section Fetch

variable {c : Cache V} {k key : Key} {r rounding : Rounding} {value : V} {compute : Unit → V}

theorem store_of_transient (h : k.isTransient = true) : c.store k r value = c := if_pos h

theorem counts_store : (c.store k r value).counts = c.counts := by
  unfold store
  split <;> rfl

/-- Only a new key adds to the size. -/
theorem size_store_of_none (h : k.isTransient = false) (hnone : c.stored? k r = none) :
    (c.store k r value).size = c.size + 1 := by
  rw [stored?, h, if_neg Bool.false_ne_true, List.lookup_eq_none_iff] at hnone
  have hkept : (c.entries.filter fun e => e.1 != (k, r)) = c.entries :=
    List.filter_eq_self.2 fun e he => bne_iff_ne.2 (bne_iff_ne.1 (hnone e he)).symm
  rw [store, h, if_neg Bool.false_ne_true, size, List.length_cons, hkept, size]

theorem stored?_store_eq (h : k.isTransient = false) :
    (c.store k r value).stored? key rounding =
      if (key, rounding) = (k, r) then some value else c.stored? key rounding := by
  unfold store stored?
  rw [h, if_neg Bool.false_ne_true]
  by_cases he : (key, rounding) = (k, r)
  · obtain ⟨rfl, rfl⟩ := Prod.mk.inj he
    rw [h, if_neg Bool.false_ne_true, if_pos rfl, List.lookup_cons_self]
  · rw [if_neg he, List.lookup_cons, beq_false_of_ne he]
    simp only [Order.lookup_filter_of_ne he]

theorem fetch_of_some (h : c.stored? key rounding = some value) :
    c.fetch key rounding compute = (value, c.countHit) := by
  rw [fetch, h]

theorem fetch_of_none (h : c.stored? key rounding = none) :
    c.fetch key rounding compute =
      (compute (), c.countMiss.store key rounding (compute ())) := by
  rw [fetch, h]

end Fetch

end Cache

/-- The caches of a tick. -/
structure Caches where
  standings : Cache (Fields StandingField)
  sessions : Cache (Fields SessionField)

namespace Caches

def empty : Caches := ⟨.empty, .empty⟩

/-- Nothing is kept from one tick to the next. -/
def cleared (c : Caches) : Caches := ⟨c.standings.cleared, c.sessions.cleared⟩

def counts (c : Caches) : Cache.Counts := c.standings.counts + c.sessions.counts

end Caches

end RaceOverlay
