import RaceOverlay.Proofs.DistinctKeys
import RaceOverlay.Proofs.ServedCalls

/-!
# Registrations

What a registry holds after any run of registrations. Each registered name is listed once, in the
order of the last registrations, and a call is answered by the script that was registered last under
the name. The order matters where templates are compiled: the first name that fits splits a call.
-/
namespace RaceOverlay

/-- The script was registered, then the later ones, and none of these has its name. -/
structure IsLatest (registered : List Script) (s : Script) (later : List Script) : Prop where
  registered : ∃ before, registered = before ++ s :: later
  unreplaced : ∀ t ∈ later, t.name ≠ s.name

namespace IsLatest

variable {registered later : List Script} {s t : Script}

theorem concat (h : IsLatest registered t later) (hne : s.name ≠ t.name) :
    IsLatest (registered ++ [s]) t (later ++ [s]) := by
  obtain ⟨⟨before, rfl⟩, hlater⟩ := h
  refine ⟨⟨before, by simp⟩, fun u hu => ?_⟩
  rcases List.mem_append.1 hu with hu | hu
  · exact hlater u hu
  · rwa [List.mem_singleton.1 hu]

/-- The last registration is the latest of its name; for other names it changes nothing. -/
theorem of_concat (h : IsLatest (registered ++ [s]) t later) :
    t = s ∨ s.name ≠ t.name ∧ ∃ earlier, IsLatest registered t earlier := by
  obtain ⟨⟨before, hbefore⟩, hlater⟩ := h
  rcases List.eq_nil_or_concat later with rfl | ⟨earlier, u, rfl⟩
  · exact .inl (by simpa using (List.append_inj' hbefore rfl).2.symm)
  · rw [List.concat_eq_append] at hbefore hlater
    rw [← List.cons_append, ← List.append_assoc] at hbefore
    obtain ⟨hregistered, hlast⟩ := List.append_inj' hbefore rfl
    obtain rfl : s = u := by simpa using hlast
    have hearlier : ∀ v ∈ earlier, v.name ≠ t.name := fun v hv =>
      hlater v (List.mem_append_left _ hv)
    exact .inr ⟨hlater s (by simp), earlier, ⟨before, hregistered⟩, hearlier⟩

end IsLatest

theorem exists_isLatest {registered : List Script} {name : String}
    (h : ∃ s ∈ registered, s.name = name) :
    ∃ s later, IsLatest registered s later ∧ s.name = name := by
  obtain ⟨before, s, later, rfl, rfl, hlater⟩ := Order.exists_last_key h
  exact ⟨s, later, ⟨⟨before, rfl⟩, hlater⟩, rfl⟩

namespace Registry

variable {r : Registry} {registered : List Script} {name : String}

theorem script?_register (r : Registry) (s : Script) (name : String) :
    (r.register s).script? name = if s.name = name then some s else r.script? name := by
  show ((r.scripts.filter fun t => t.name != s.name) ++ [s]).find? (fun t => t.name == name) = _
  rw [List.find?_append]
  by_cases hname : s.name = name
  · -- The scripts of the name are gone, so the search comes to the new one.
    have hgone : (r.scripts.filter fun t => t.name != s.name).find? (fun t => t.name == name) =
        none := by
      refine List.find?_eq_none.2 fun t ht hfound => ?_
      have hne := bne_iff_ne.1 (List.mem_filter.1 ht).2
      exact hne ((eq_of_beq hfound).trans hname.symm)
    rw [hgone, if_pos hname, List.find?_cons_of_pos (by simpa using hname)]
    rfl
  · have hkept : (r.scripts.filter fun t => t.name != s.name).find? (fun t => t.name == name) =
        r.scripts.find? fun t => t.name == name := by
      rw [List.find?_filter]
      congr
      funext t
      by_cases ht : t.name = name
      · simp [ht, Ne.symm hname]
      · simp [ht]
    rw [hkept, if_neg hname, List.find?_cons_of_neg (by simpa using hname), List.find?_nil,
      Option.or_none]
    rfl

theorem invoke_register (r : Registry) (s : Script) (name method : String) (occasion : Occasion) :
    (r.register s).invoke name method occasion =
      if s.name = name then (s.answer method occasion, []) else r.invoke name method occasion := by
  by_cases hname : s.name = name
  · rw [if_pos hname, invoke, script?_register, if_pos hname]
  · rw [if_neg hname, invoke, script?_register, if_neg hname, invoke]

/-- What a registry is after a run of registrations. -/
structure IsAfter (r : Registry) (registered : List Script) : Prop where
  nodup : r.names.Nodup
  mem_names : ∀ name, name ∈ r.names ↔ ∃ s ∈ registered, s.name = name
  /-- Of two names listed, the second one was registered after the last time that the first was. -/
  ordered : r.names.Pairwise fun a b =>
    ∃ s later, IsLatest registered s later ∧ s.name = a ∧ ∃ t ∈ later, t.name = b
  answered : ∀ s later, IsLatest registered s later → ∀ method occasion,
    r.invoke s.name method occasion = (s.answer method occasion, [])
  /-- A call of a name that was never registered gives an empty text and one warning. -/
  unknown : ∀ name, (∀ s ∈ registered, s.name ≠ name) → ∀ method occasion, ∃ warning : Event,
    r.invoke name method occasion = ("", [warning]) ∧ warning.level = .warn ∧
      warning.message = "Script " ++ name ++ " is not loaded"

theorem isAfter_empty : IsAfter empty [] where
  nodup := .nil
  mem_names name := by simp [names, empty]
  ordered := .nil
  answered s later h := by
    obtain ⟨before, hbefore⟩ := h.registered
    simp at hbefore
  unknown name _ method occasion := ⟨.scriptMissing name, rfl, rfl, rfl⟩

/-- One more registration. -/
theorem IsAfter.register (h : IsAfter r registered) (s : Script) :
    IsAfter (r.register s) (registered ++ [s]) := by
  have hother {name : String} (hname : name ∈ r.names.filter (· != s.name)) :
      name ∈ r.names ∧ s.name ≠ name := by
    obtain ⟨hmem, hne⟩ := List.mem_filter.1 hname
    exact ⟨hmem, (bne_iff_ne.1 hne).symm⟩
  constructor
  case nodup => exact (r.register s).names_nodup
  case mem_names =>
    intro name
    rw [mem_names_register, h.mem_names, or_comm, eq_comm]
    simp only [List.mem_append, List.mem_singleton, or_and_right, exists_or, exists_eq_left]
  case ordered =>
    rw [names_register, List.pairwise_append]
    refine ⟨(h.ordered.filter _).imp_of_mem fun {a b} ha _ hab => ?_, List.pairwise_singleton _ _,
      fun a ha b hb => ?_⟩
    · obtain ⟨t, later, hlatest, rfl, u, hu, hb⟩ := hab
      exact ⟨t, later ++ [s], hlatest.concat (hother ha).2, rfl, u, List.mem_append_left _ hu, hb⟩
    · -- The new name comes after every other one.
      obtain ⟨t, later, hlatest, rfl⟩ := exists_isLatest ((h.mem_names a).1 (hother ha).1)
      exact ⟨t, later ++ [s], hlatest.concat (hother ha).2, rfl, s, by simp,
        (List.mem_singleton.1 hb).symm⟩
  case answered =>
    intro t later hlatest method occasion
    rw [invoke_register]
    rcases hlatest.of_concat with rfl | ⟨hne, earlier, hearlier⟩
    · rw [if_pos rfl]
    · rw [if_neg hne]
      exact h.answered t earlier hearlier method occasion
  case unknown =>
    intro name hname method occasion
    rw [invoke_register, if_neg (hname s (by simp))]
    exact h.unknown name (fun t ht => hname t (List.mem_append_left _ ht)) method occasion

theorem IsAfter.foldl (h : IsAfter r registered) (scripts : List Script) :
    IsAfter (scripts.foldl Registry.register r) (registered ++ scripts) := by
  induction scripts generalizing r registered with
  | nil => rwa [List.append_nil]
  | cons s scripts ih =>
    rw [List.foldl_cons, List.append_cons]
    exact ih (h.register s)

/-- After any run of registrations, from the empty registry or from the standard one, each name is
listed once and by its last registration, and the script registered last answers. -/
theorem isAfter_registrations (scripts : List Script) :
    IsAfter (scripts.foldl register empty) scripts ∧
      IsAfter (scripts.foldl register standard) (teamScript :: scripts) := by
  have hstandard : IsAfter standard [teamScript] := isAfter_empty.register teamScript
  exact ⟨isAfter_empty.foldl scripts, hstandard.foldl scripts⟩

end Registry

end RaceOverlay
