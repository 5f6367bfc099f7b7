import Deliberation.Proofs.Assessments
import Deliberation.Proofs.Exploration
import Deliberation.Proofs.Progress
import Deliberation.Proofs.Recording
/-! The numbers of a reply. Whatever a reply writes, what is read as a number is finite and lies in the unit
interval. So a run records these numbers as they are, and its selections compare no other ones. -/

namespace Deliberation

open Binary64 (InUnit)

namespace Reply

def numbers (text : String) : List Float :=
  (assess text).progress.toList ++ (assess text).confidence.toList ++
    (steps text).map StatedStep.confidence ++ (approaches text).map StatedApproach.score

theorem inUnit_of_mem_numbers {text : String} {x : Float} (member : x ∈ numbers text) : InUnit x := by
  simp only [numbers, List.mem_append, Option.mem_toList, List.mem_map] at member
  obtain ((progress | confidence) | ⟨step, stated, rfl⟩) | ⟨a, stated, rfl⟩ := member
  · exact assess_progress_inUnit text x progress
  · exact assess_confidence_inUnit text x confidence
  · exact confidence_inUnit_of_mem_steps stated
  · exact score_inUnit_of_mem_approaches stated

end Reply

/-- The approaches that the replies to some calls state, one reply after another. A call that has failed
states none. -/
def statedApproaches (cycles : List Cycle) : List Reply.StatedApproach :=
  cycles.flatMap fun c => c.result.completion?.toList.flatMap fun completion =>
    Reply.approaches completion.text

theorem map_confidence_eq {steps : List Step} {stated : List Reply.StatedStep} {first : Nat}
    (records : List.Forall₂ Step.Records steps (stated.zipIdx first)) :
    steps.map Step.confidence = stated.map Reply.StatedStep.confidence := by
  have same : List.Forall₂ Eq (steps.map Step.confidence)
      ((stated.zipIdx first).map (Reply.StatedStep.confidence ∘ Prod.fst)) := by
    rw [List.forall₂_map_left_iff, List.forall₂_map_right_iff]
    exact records.imp fun _ _ recorded => recorded.confidence
  rw [List.forall₂_eq_eq_eq] at same
  rw [same, ← List.map_map, List.zipIdx_map_fst]

namespace Tree

/-- What a search for the best branch compares: the best score so far and the score of the candidate that
comes next. -/
def Compares (branches : List Branch) (held score : Float) : Prop :=
  ∃ front b back i, branches = front ++ b :: back ∧ b.status = .evaluated ∧
    bestFrom none 0 front = some (i, held) ∧ b.score = score

theorem Graded.compares {t : Tree} (h : t.Graded) {held score : Float}
    (compares : Compares t.branches held score) : InUnit held ∧ InUnit score := by
  obtain ⟨front, b, back, i, whole, -, best, rfl⟩ := compares
  rw [Graded, whole] at h
  obtain impossible | ⟨k, c, -, found, rfl⟩ := exists_of_bestFrom best
  · contradiction
  · exact ⟨(h c (List.mem_append_left _ (List.mem_of_getElem? found))).2,
      (h b List.mem_append_cons_self).2⟩

end Tree

namespace Session

variable {s : Session} {clock : Nat → Instant}

theorem tally_gauged (clock : Nat → Instant) (cycles : List Cycle) (h : s.Gauged) :
    (tally clock s cycles).Gauged := by
  induction cycles generalizing s with
  | nil => exact h
  | cons c rest ih => exact ih (h.take c.call c.result (clock c.elapsed))

/-- A reply that creates branches is the reply to one of the calls. -/
theorem exists_of_mem_productive {cycles : List Cycle} {reply : String × Nat}
    (member : reply ∈ productive clock s cycles) :
    ∃ c ∈ cycles, ∃ completion, c.result.completion? = some completion ∧ completion.text = reply.1 := by
  induction cycles generalizing s with
  | nil => contradiction
  | cons c rest ih =>
    obtain here | later := List.mem_append.mp member
    · split at here
      · contradiction
      · obtain ⟨completion, given, rfl⟩ := List.mem_map.mp here
        exact ⟨c, List.mem_cons_self, completion, Option.mem_toList.mp given, rfl⟩
    · obtain ⟨d, inside, completion, given, same⟩ := ih later
      exact ⟨d, List.mem_cons_of_mem c inside, completion, given, same⟩

/-- Every branch of a tree in rounds holds a stated approach with the score that is stated. -/
theorem exists_of_explored {given : RunSettings} {t : Tree} {rounds : List Round} {cycles : List Cycle}
    (explored : Explored given t rounds) (replies : rounds.map Round.yield = productive clock s cycles)
    {b : Branch} (member : b ∈ t.branches) :
    ∃ a ∈ statedApproaches cycles, b.thought = a.approach ∧ b.score = a.score := by
  rw [explored.branches] at member
  obtain ⟨r, round, inside⟩ := List.mem_flatMap.mp member
  obtain ⟨earlier, later, whole⟩ := List.append_of_mem round
  have content := (explored.extends_path earlier r later whole).content
  obtain ⟨a, stated, same⟩ := List.mem_map.mp (content.mem (List.mem_map_of_mem inside))
  have reply : r.yield ∈ productive clock s cycles := replies ▸ List.mem_map_of_mem round
  obtain ⟨c, made, completion, given, text⟩ := exists_of_mem_productive reply
  refine ⟨a, ?_, (congrArg Content.thought same).symm, (congrArg Content.score same).symm⟩
  refine List.mem_flatMap.mpr ⟨c, made, List.mem_flatMap.mpr ⟨completion, ?_, ?_⟩⟩
  · exact Option.mem_toList.mpr given
  · rw [text]
    exact stated

end Session

/-- A run that keeps the numbers of its replies. What it records of a step or an approach has the very
number that is stated, and where it selects a branch, nothing is left to score and no NaN is compared. -/
structure Run.KeepsNumbers (mode : Mode) (clock : Nat → Instant) (fresh : Session) (run : Run) : Prop where
  chain : mode = .chain → ∃ chain, run.outcome.chain = some chain ∧
    chain.steps.map Step.confidence =
      (statedSteps run.cycles).map Reply.StatedStep.confidence
  tree : mode = .tree → ∃ tree, run.outcome.tree = some tree ∧ ∀ b ∈ tree.branches,
    ∃ a ∈ statedApproaches run.cycles, b.thought = a.approach ∧ b.score = a.score
  selection : ∀ past c later, run.cycles = past ++ c :: later →
    ∀ completion, c.result.completion? = some completion →
    ∀ t, (Session.tally clock fresh past).workspace = .tree t →
      ∃ made, Session.recordApproaches t t.selectedId (clock c.elapsed)
        (Reply.approaches completion.text) = .ok made ∧
        let grown := made.value.1
        grown.evaluateAll Scorer.heuristic = grown ∧ ∀ held score, Tree.Compares grown.branches held score →
          held.isNaN = false ∧ score.isNaN = false

/-- Every number that is read from a reply is finite and lies in the unit interval, where moving it into
that interval changes nothing. Every run records these numbers as they are, and compares no NaN. -/
theorem numbers_kept :
    (∀ text, ∀ x ∈ Reply.numbers text,
      x.isFinite = true ∧ 0 ≤ x ∧ x ≤ 1 ∧ Binary64.clampUnit x = x) ∧
    ∀ (settings : RunSettings) (catalog : Catalog) (classify : Classifier) (task id : String)
      (clock : Nat → Instant) {σ : Type} (backend : σ → Call → BackendReply × σ) (state final : σ)
      (run : Run),
      (Session.start settings catalog classify task id (clock 0)).drive backend clock 0 state =
        .ok (run, final) →
      run.KeepsNumbers settings.mode clock
        (Session.start settings catalog classify task id (clock 0)) := by
  constructor
  · intro text x member
    have unit := Reply.inUnit_of_mem_numbers member
    exact ⟨unit.isFinite, unit.nonneg, unit.le_one, unit.clampUnit_eq⟩
  intro settings catalog classify task id clock σ backend state final run driven
  have ends := Session.ends_of_drive driven
  constructor
  case chain =>
    intro mode
    have opened : (Session.start settings catalog classify task id (clock 0)).workspace =
        .chain (.start task (clock 0)) := by simp only [Session.start, mode]
    have nothing : List.Forall₂ Step.Records (Chain.start task (clock 0)).steps
        (([] : List Reply.StatedStep).zipIdx 1) := .nil
    have few := ends.length_statedSteps classify task id mode
    obtain ⟨chain, written, -, records⟩ := Session.tally_records clock (by simpa using few) opened nothing
    obtain ⟨now, outcome⟩ := ends.workspace.1 chain written
    exact ⟨_, outcome, map_confidence_eq records⟩
  case tree =>
    intro mode
    have opened : (Session.start settings catalog classify task id (clock 0)).workspace =
        .tree (.start task settings.treeMaxBranches settings.treeMaxDepth (clock 0)) := by
      simp only [Session.start, mode]
    obtain ⟨tree, rounds, written, explored, replies⟩ :=
      Session.tally_explored clock run.cycles opened (.start settings task (clock 0))
    obtain ⟨now, outcome⟩ := ends.workspace.2 tree written
    exact ⟨_, outcome, fun b member => Session.exists_of_explored explored replies member⟩
  case selection =>
    intro past c later whole completion given t workspace
    have gauged := Session.tally_gauged clock past
      (Session.start_gauged settings catalog classify task id (clock 0))
    obtain ⟨u, time, next, ending, reached, made, -⟩ := (whole ▸ ends).call_at
    have writes := made.writes given
    rw [reached.workspace_eq, workspace] at writes
    obtain ⟨_, explored, -⟩ := except_map_eq_ok_iff.mp writes
    obtain ⟨grown, recorded, -⟩ := except_map_eq_ok_iff.mp explored
    have graded : grown.value.1.Graded := (gauged.tree t workspace).recordApproaches
      (fun _ => Reply.score_inUnit_of_mem_approaches) recorded
    have scored : grown.value.1.evaluateAll Scorer.heuristic = grown.value.1 :=
      Tree.evaluateAll_eq_self fun b member => (graded b member).1.assess_eq _
    refine ⟨grown, recorded, scored, fun held score compares => ?_⟩
    obtain ⟨first, second⟩ := graded.compares compares
    exact ⟨Binary64.isNaN_of_isFinite first.isFinite, Binary64.isNaN_of_isFinite second.isFinite⟩

/-- A run on scores that are too large, no numbers, negative or divided by zero. -/
theorem numbers_kept_of_scripted :
    let script : List ScriptEntry := [
      ⟨5, .ok ⟨"Approach 1: walk\nScore: 1e999\nApproach 2: ride\nScore: 7/0\nApproach 3: fly\nScore: 3/4",
        none⟩⟩,
      ⟨5, .ok ⟨"Approach 4: swim\nScore: -5%%\nApproach 5: rest\nScore: NaN\nFinal Answer: 4", none⟩⟩]
    let fresh := Session.start { mode := .tree } Catalog.builtin (fun _ => .simple) "task" "id" Instant.epoch
    ∃ run final, fresh.drive scripted (fun _ => Instant.epoch) 0 script = .ok (run, final) ∧
      run.KeepsNumbers .tree (fun _ => Instant.epoch) fresh ∧
      ∃ tree, run.outcome.tree = some tree ∧
        tree.branches.map Branch.score = [0.5, 0.5, 0.75, 0, 0.5] ∧
        ∀ b ∈ tree.branches, ∃ a ∈ statedApproaches run.cycles,
          b.thought = a.approach ∧ b.score = a.score := by
  intro script fresh
  obtain ⟨run, final, driven⟩ := Session.drive_start_eq_ok { mode := .tree } (fun _ => .simple) "task" "id"
    Catalog.builtin_hasSpans nofun scripted (fun _ => Instant.epoch) script
  have kept := numbers_kept.2 { mode := .tree } Catalog.builtin (fun _ => .simple) "task" "id"
    (fun _ => Instant.epoch) scripted script final run driven
  obtain ⟨tree, outcome, stated⟩ := kept.tree rfl
  have scores : ((fresh.drive scripted (fun _ => Instant.epoch) 0 script).toOption.bind fun r =>
      r.1.outcome.tree.map fun t => t.branches.map Branch.score) = some [0.5, 0.5, 0.75, 0, 0.5] := by
    decide +kernel
  rw [driven] at scores
  change run.outcome.tree.map _ = _ at scores
  rw [outcome] at scores
  exact ⟨run, final, driven, kept, tree, outcome, Option.some.inj scores, stated⟩

end Deliberation
