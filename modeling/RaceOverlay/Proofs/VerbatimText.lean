import RaceOverlay.Proofs.Closings
import RaceOverlay.Proofs.Kept
import RaceOverlay.Token.Fields
import RaceOverlay.Token.Standing

/-!
# Texts that stand for themselves

Every text has a template that shows it, whatever is in it: the text with its braces doubled. Such a
template is its own format, and in front of a format it adds its text and nothing else. The pairs of
braces are complete, so the scan never takes a brace of the text together with one of the format.
-/
namespace RaceOverlay

namespace Format

open Reading (escaped escaped_open escaped_close escaped_plain pieces_escape_append)

variable {lookup : Nat → Option String}

private theorem fillPieces_plain {c : Char} (hc : c ≠ '}') (ps : List Piece) :
    fillPieces lookup (.plain c :: ps) = (fillPieces lookup ps).map (c :: ·) :=
  fillPieces.eq_3 lookup c ps fun _ _ he => hc he

private theorem map_append_cons {ε : Type} (c : Char) (cs : List Char) (x : Except ε (List Char)) :
    (x.map (cs ++ ·)).map (c :: ·) = x.map (c :: cs ++ ·) := by
  cases x <;> rfl

/-- The induction is on the text: each of its characters is one or two pieces that are filled
together, before any piece of the rest is looked at. -/
theorem fillPieces_escaped_append (cs : List Char) (ps : List Piece) :
    fillPieces lookup (escaped cs ++ ps) = (fillPieces lookup ps).map (cs ++ ·) := by
  induction cs with
  | nil =>
    show fillPieces lookup ps = (fillPieces lookup ps).map id
    cases fillPieces lookup ps <;> rfl
  | cons c cs ih =>
    rw [← map_append_cons, ← ih]
    by_cases ho : c = '{'
    · rw [ho, escaped_open]
      rfl
    · by_cases hc : c = '}'
      · rw [hc, escaped_close]
        rfl
      · rw [escaped_plain ho hc, List.cons_append, fillPieces_plain hc]

theorem fill_escape_append (cs format : List Char) :
    fill lookup (escape cs ++ format) = (fill lookup format).map (cs ++ ·) := by
  rw [fill, pieces_escape_append, fillPieces_escaped_append, fill]

end Format

namespace Template

variable {F : Type} [DecidableEq F] [TokenDomain F] {scripts : List String}

/-- No piece of escaped text is a fragment, so all of them are kept as they are. -/
theorem outcomes_escape (cs : List Char) :
    outcomes F scripts (Format.escape cs) = (Reading.escaped cs).map .keep := by
  have hpieces := Reading.pieces_escape_append cs []
  rw [List.append_nil, pieces_nil, List.append_nil] at hpieces
  rw [outcomes, hpieces, List.map_inj_left]
  intro p hp
  rcases Reading.eq_of_mem_escaped hp with rfl | ⟨c, -, rfl⟩
  · rfl
  · rfl

theorem formatOf_escape (cs : List Char) :
    formatOf F scripts (Format.escape cs) = Format.escape cs := by
  rw [formatOf, outcomes_escape, List.flatMap_map]
  exact Reading.flatMap_source_escaped cs

theorem filterMap_outcomes_escape {α : Type} {f : Outcome → Option α}
    (hf : ∀ p, f (.keep p) = none) (cs : List Char) :
    (outcomes F scripts (Format.escape cs)).filterMap f = [] := by
  rw [outcomes_escape, List.filterMap_map, List.filterMap_eq_nil_iff]
  exact fun p _ => hf p

end Template

namespace Label

open Format

/-- A text with its braces doubled compiles to itself, makes no calls, and nothing is reported. In
front of any format it shows the text and then what the format shows alone, and if the format cannot
be filled alone, the same fragment of it is at fault. -/
theorem verbatim_escape (F : Type) [DecidableEq F] [TokenDomain F] (scripts : List String)
    (text : List Char) (r : Rounding) (u : Bool) (lookup : Nat → Option String)
    (format : List Char) :
    let template := String.ofList (escape text)
    compile F scripts template r u = (⟨template, template, [], r, u⟩, []) ∧
      match fill lookup format with
      | .ok shown => fill lookup (escape text ++ format) = .ok (text ++ shown)
      | .error bad => fill lookup (escape text ++ format) = .error bad := by
  intro template
  have hsource : template.toList = escape text := String.toList_ofList
  have hformat : String.ofList (Template.formatOf F scripts template.toList) = template := by
    rw [hsource, Template.formatOf_escape]
  have hcalls : (Template.outcomes F scripts template.toList).filterMap
      Template.Outcome.call? = [] := by
    rw [hsource]
    exact Template.filterMap_outcomes_escape (fun _ => rfl) text
  have hevents : (Template.outcomes F scripts template.toList).filterMap
      Template.Outcome.event? = [] := by
    rw [hsource]
    exact Template.filterMap_outcomes_escape (fun _ => rfl) text
  constructor
  · rw [compile, hcalls, hevents, ← Template.formatOf, hformat]
    rfl
  · rw [fill_escape_append]
    cases fill lookup format with
    | ok shown => rfl
    | error bad => rfl

/-- A text of braces before a fragment that opens right behind it, and before one that nothing
closes. -/
example :
    fill (Fields.blank StandingField).slot? (escape "\x7d\x7b".toList ++ "\x7b0|\x7d".toList) =
        .ok "\x7d\x7b".toList ∧
      fill (Fields.blank StandingField).slot? (escape "\x7b".toList ++ "\x7d\x7bgap".toList) =
        .error ⟨"\x7bgap".toList⟩ := by
  decide +kernel

end Label

end RaceOverlay
