import RaceOverlay.Tick.Engine

/-!
# Runs of an engine

A tick starts from cleared caches, so of all that an engine has rendered only the number of ticks is
left. Each report of a run is the one that a new engine gives for the same weekend, but for its
number.
-/
namespace RaceOverlay

/-- What a scene shows does not depend on the caches and the number of the tick. -/
theorem Scene.report_render (scene : Scene) (cache cache' : Caches) (tick tick' : Nat) :
    (scene.render cache tick).1 = { (scene.render cache' tick').1 with tick } := rfl

namespace Engine

/-- An engine with the same settings that has rendered nothing yet. -/
def fresh (e : Engine) : Engine where
  theme := e.theme
  external := e.external
  scripts := e.scripts
  timer := e.timer

theorem fresh_render (e : Engine) (w : Weekend) : (e.render w).2.1.fresh = e.fresh := rfl

theorem ticks_render (e : Engine) (w : Weekend) : (e.render w).2.1.ticks = e.ticks + 1 := rfl

theorem report_render (e : Engine) (w : Weekend) :
    (e.render w).1 = { (e.fresh.render w).1 with tick := e.ticks + 1 } :=
  (e.scene w).report_render e.cache .empty (e.ticks + 1) 1

theorem reports_renderEach (e : Engine) (ws : List Weekend) :
    (e.renderEach ws).1 =
      ws.mapIdx fun k w => { (e.fresh.render w).1 with tick := e.ticks + (k + 1) } := by
  -- The engine changes from tick to tick, but not what is fresh about it: only its count goes on.
  induction ws generalizing e with
  | nil => rfl
  | cons w ws ih =>
    have hrest := ih (e.render w).2.1
    rw [fresh_render, ticks_render] at hrest
    rw [renderEach, List.mapIdx_cons]
    dsimp only
    rw [report_render, hrest]
    simp only [Nat.add_assoc, Nat.add_comm 1]

theorem reports_run (e : Engine) (ws : List Weekend) : (e.run ws).1 = (e.renderEach ws).1 := rfl

/-- Whatever an engine rendered before, a run gives one report for each weekend. It is the only
report of a fresh engine's run over that weekend, numbered from where the engine's count stood. -/
theorem report_run_alone (e : Engine) (ws : List Weekend) :
    (e.run ws).1.length = ws.length ∧
      ∀ k : Fin ws.length, ∃ alone : Report, (e.fresh.run [ws[k]]).1 = [alone] ∧
        (e.run ws).1[k.val]? = some { alone with tick := e.ticks + (k.val + 1) } := by
  rw [reports_run, reports_renderEach]
  refine ⟨List.length_mapIdx, fun k => ⟨(e.fresh.render ws[k]).1, rfl, ?_⟩⟩
  rw [List.getElem?_mapIdx, List.getElem?_eq_getElem k.isLt]
  rfl

end Engine

end RaceOverlay
