import EnvLoader.Nesting
import Mathlib.Data.List.Chain
import Mathlib.Data.List.Induction
import Mathlib.Data.List.Nodup
import Mathlib.Logic.Relation

/-! The search for a cycle answers for the edges that were noted, whatever the order of the
notes: it finds a closed walk exactly when some name reaches itself. The search marks names
as visited before it knows what they lead to. So what carries the proof is said of the
names that it has left again: they lead only to one another, and none reaches itself. -/
namespace EnvLoader.NestingCycles
open Nesting

/-- What can be noted: that a name was looked at, or that one nests another. -/
inductive Note where
  | touch (node : String)
  | add (outer inner : String)
  deriving DecidableEq, Repr

/-- What is known after one more note. -/
def Note.apply (nesting : Nesting) : Note → Nesting
  | .touch node => nesting.touch node
  | .add outer inner => nesting.add outer inner

/-- What is known after a sequence of notes. -/
def noted (notes : List Note) : Nesting := notes.foldl Note.apply {}

/-- The edges that a sequence of notes records. -/
def Recorded (notes : List Note) (outer inner : String) : Prop := Note.add outer inner ∈ notes

/-- The edges that the search follows. -/
def Edge (nesting : Nesting) (outer inner : String) : Prop := inner ∈ nesting.targets outer

/-- A walk that ends where it began and passes no other name twice. -/
structure ClosedWalk (edge : String → String → Prop) (walk : List String) : Prop where
  long : 2 ≤ walk.length
  closes : walk.head? = walk.getLast?
  steps : walk.IsChain edge
  distinct : walk.dropLast.Nodup

theorem closedWalk_round {edge : String → String → Prop} {walk : List String}
    (closed : ClosedWalk edge walk) : ∃ name, Relation.TransGen edge name name := by
  obtain ⟨long, closes, steps, -⟩ := closed
  match walk with
  | [] | [_] => simp at long
  | first :: second :: rest =>
    have final : (second :: rest).getLast (by simp) = first := by
      rw [List.getLast?_cons_cons, List.getLast?_eq_getLast_of_ne_nil (by simp)] at closes
      exact (Option.some.inj closes).symm
    obtain ⟨edge, onward⟩ := List.isChain_cons_cons.mp steps
    exact ⟨first, .head' edge
      (List.relationReflTransGen_of_exists_isChain_cons rest onward final)⟩

variable {nesting : Nesting} {node next outer inner name : String} {path walk visited : List String}
  {search : Search} {fuel : Nat}

theorem mem_nodes_touch : name ∈ (nesting.touch node).nodes ↔ name ∈ nesting.nodes ∨ name = node := by
  unfold touch
  split
  · rename_i known
    rw [List.contains_iff_mem] at known
    exact ⟨Or.inl, fun found => found.elim id (fun same => same ▸ known)⟩
  · simp [nodes]

theorem targets_touch : (nesting.touch node).targets name = nesting.targets name := by
  unfold touch
  split
  · rfl
  · simp only [targets, List.find?_append]
    cases nesting.edges.find? (·.1 = name) with
    | some edge => rfl
    | none => by_cases same : node = name <;> simp [same]

private theorem mem_targets_extend {target : String} (known : outer ∈ nesting.nodes) :
    target ∈ targets ⟨nesting.edges.map fun (node, targets) =>
      if node = outer ∧ !targets.contains inner then (node, targets ++ [inner])
      else (node, targets)⟩ name ↔
    target ∈ nesting.targets name ∨ name = outer ∧ target = inner := by
  have sameKey : (fun entry : String × List String => decide ((if entry.1 = outer ∧
      !entry.2.contains inner then (entry.1, entry.2 ++ [inner]) else (entry.1, entry.2)).1 = name)) =
      fun entry => decide (entry.1 = name) := by
    funext entry
    split <;> rfl
  simp only [targets, List.find?_map, Function.comp_def, sameKey]
  cases found : nesting.edges.find? (·.1 = name) with
  | none =>
    have other : name ≠ outer := by
      rintro rfl
      obtain ⟨entry, member, same⟩ := List.mem_map.mp known
      exact absurd same (by simpa using List.find?_eq_none.mp found entry member)
    simp [other]
  | some entry =>
    have key : entry.1 = name := by simpa using List.find?_some found
    by_cases source : name = outer <;> by_cases listed : inner ∈ entry.2 <;>
      simp [key, source, listed]
    rintro rfl
    exact listed

/-- Adding an edge gives its source one more target, and no other name. -/
theorem mem_targets_add {target : String} : target ∈ (nesting.add outer inner).targets name ↔
    target ∈ nesting.targets name ∨ name = outer ∧ target = inner := by
  have touched : target ∈ (nesting.touch outer).targets name ↔ target ∈ nesting.targets name := by
    rw [targets_touch]
  rw [← touched]
  exact mem_targets_extend (mem_nodes_touch.mpr (Or.inr rfl))

/-- The search follows exactly the recorded edges. -/
theorem edge_noted (notes : List Note) : Edge (noted notes) outer inner ↔ Recorded notes outer inner := by
  induction notes using List.reverseRecOn with
  | nil => simp [Edge, noted, Recorded, targets]
  | append_singleton notes note ih =>
    unfold Edge at ih
    have step : noted (notes ++ [note]) = note.apply (noted notes) := by
      simp [noted, List.foldl_append]
    rw [Edge, step, Recorded, List.mem_append, List.mem_singleton]
    cases note with
    | touch node => simp [Note.apply, targets_touch, ih, Recorded]
    | add source target => simp [Note.apply, mem_targets_add, ih, Recorded]

theorem mem_nodes_of_edge (edge : Edge nesting outer inner) : outer ∈ nesting.nodes := by
  unfold Edge targets at edge
  cases found : nesting.edges.find? (·.1 = outer) with
  | none => simp [found] at edge
  | some entry =>
    have key : entry.1 = outer := by simpa using List.find?_some found
    exact key ▸ List.mem_map_of_mem (List.mem_of_find?_eq_some found)

/-- The names that the search has left lead only to one another, and none of them reaches
itself. -/
def Settled (nesting : Nesting) (path visited : List String) : Prop :=
  ∀ node ∈ visited, node ∉ path →
    ¬ Relation.TransGen (Edge nesting) node node ∧
      ∀ next, Edge nesting node next → next ∈ visited ∧ next ∉ path

/-- A state of the search is sound on a path: a cycle is a closed walk, and as long as there
is none, what was left is settled. -/
structure Sound (nesting : Nesting) (path : List String) (search : Search) : Prop where
  cycle : ∀ walk, search.cycle = some walk → ClosedWalk (Edge nesting) walk
  settled : search.cycle = none → Settled nesting path search.visited

/-- The way to the current name: no name twice, each nested in the one before it, and all but
the last with edges of their own. -/
structure Trail (nesting : Nesting) (path : List String) (node : String) : Prop where
  distinct : (path ++ [node]).Nodup
  steps : (path ++ [node]).IsChain (Edge nesting)
  known : path ⊆ nesting.nodes

theorem trail_next (trail : Trail nesting path node) (edge : Edge nesting node next)
    (off : next ∉ path ++ [node]) : Trail nesting (path ++ [node]) next where
  distinct := List.nodup_append.mpr ⟨trail.distinct, by simp, by
    intro first member second new same
    exact off (List.mem_singleton.mp new ▸ same ▸ member)⟩
  steps := List.isChain_append.mpr ⟨trail.steps, by simp, by simpa using edge⟩
  known := by
    intro name member
    rcases List.mem_append.mp member with member | member
    · exact trail.known member
    · exact List.mem_singleton.mp member ▸ mem_nodes_of_edge edge

/-- A step back onto the way closes a walk. -/
private theorem trail_closes (trail : Trail nesting path node) (edge : Edge nesting node next)
    (on : next ∈ path ++ [node]) :
    ClosedWalk (Edge nesting) ((path ++ [node]).dropWhile (· ≠ next) ++ [next]) := by
  obtain ⟨before, after, split⟩ := List.append_of_mem on
  have distinct := trail.distinct
  have steps := trail.steps
  have last : (path ++ [node]).getLast? = some node := by simp
  rw [split] at distinct steps last ⊢
  obtain ⟨-, restDistinct, apart⟩ := List.nodup_append.mp distinct
  have passed : ∀ name ∈ before, (decide (name ≠ next)) = true := fun name member =>
    decide_eq_true (apart name member next (by simp))
  have rest : (before ++ next :: after).dropWhile (· ≠ next) = next :: after := by
    rw [List.dropWhile_append_of_pos passed, List.dropWhile_cons_of_neg (by simp)]
  rw [rest]
  have lastRest : (next :: after).getLast? = some node := by
    rwa [List.getLast?_append_of_ne_nil _ (by simp)] at last
  refine ⟨by simp, by rw [List.getLast?_concat]; rfl,
    List.isChain_append.mpr ⟨?_, by simp, ?_⟩, by rwa [List.dropLast_concat]⟩
  · exact (List.isChain_append.mp steps).2.1
  · intro final isLast first isFirst
    rw [lastRest] at isLast
    cases isLast
    cases isFirst
    exact edge

/-- What the search does with one name that is nested in the current one. -/
def follow (nesting : Nesting) (fuel : Nat) (path : List String) (search : Search)
    (next : String) : Search :=
  if search.cycle.isSome then search
  else if path.contains next then
    { search with cycle := some (path.dropWhile (· ≠ next) ++ [next]) }
  else if search.visited.contains next then search
  else nesting.visit fuel path next search

theorem visit_succ : nesting.visit (fuel + 1) path node search =
    (nesting.targets node).foldl (follow nesting fuel (path ++ [node]))
      { search with visited := node :: search.visited } := rfl

/-- What a part of the search leaves, given the names that it had to visit. -/
structure Left (nesting : Nesting) (path : List String) (before after : Search)
    (names : List String) : Prop where
  sound : Sound nesting path after
  kept : before.visited ⊆ after.visited
  visited : after.cycle = none → ∀ name ∈ names, name ∈ after.visited ∧ name ∉ path
  running : after.cycle = none → before.cycle = none

private theorem left_trans {before middle after : Search} {names : List String}
    (first : Left nesting path before middle [name])
    (rest : Left nesting path middle after names) : Left nesting path before after (name :: names) where
  sound := rest.sound
  kept := List.Subset.trans first.kept rest.kept
  visited := by
    intro searching other member
    rcases List.mem_cons.mp member with rfl | member
    · obtain ⟨seen, off⟩ := first.visited (rest.running searching) other (by simp)
      exact ⟨rest.kept seen, off⟩
    · exact rest.visited searching other member
  running := fun searching => first.running (rest.running searching)

/-- The names that a step leads to are visited, settled or on the way, in which case the
search is over. -/
private theorem follow_left (trail : Trail nesting path node) (edge : Edge nesting node next)
    (sound : Sound nesting (path ++ [node]) search)
    (visits : Trail nesting (path ++ [node]) next → search.cycle = none →
      next ∉ search.visited → Left nesting (path ++ [node]) search
        (nesting.visit fuel (path ++ [node]) next search) [next]) :
    Left nesting (path ++ [node]) search (follow nesting fuel (path ++ [node]) search next)
      [next] := by
  unfold follow
  split
  · rename_i found
    have closed : search.cycle ≠ none := Option.isSome_iff_ne_none.mp found
    exact ⟨sound, fun _ => id, fun searching => absurd searching closed, id⟩
  · rename_i notFound
    have searching : search.cycle = none := by simpa using notFound
    split
    · rename_i on
      rw [List.contains_iff_mem] at on
      refine ⟨⟨fun walk isWalk => ?_, nofun⟩, fun _ => id, nofun, nofun⟩
      cases isWalk
      exact trail_closes trail edge on
    · rename_i off
      rw [List.contains_iff_mem] at off
      split
      · rename_i seen
        rw [List.contains_iff_mem] at seen
        exact ⟨sound, fun _ => id, fun _ name member =>
          List.mem_singleton.mp member ▸ ⟨seen, off⟩, fun _ => searching⟩
      · rename_i unseen
        rw [List.contains_iff_mem] at unseen
        exact visits (trail_next trail edge off) searching unseen

private theorem settled_enter (new : node ∉ search.visited) (off : node ∉ path)
    (settled : Settled nesting path search.visited) :
    Settled nesting (path ++ [node]) (node :: search.visited) := by
  intro name member apart
  have notNode : name ≠ node := by rintro rfl; simp at apart
  have notPath : name ∉ path := fun on => apart (List.mem_append_left _ on)
  have seen := (List.mem_cons.mp member).resolve_left notNode
  obtain ⟨acyclic, closed⟩ := settled name seen notPath
  refine ⟨acyclic, fun next edge => ?_⟩
  obtain ⟨nextSeen, nextOff⟩ := closed next edge
  refine ⟨List.mem_cons_of_mem _ nextSeen, fun on => ?_⟩
  rcases List.mem_append.mp on with on | on
  · exact nextOff on
  · exact new (List.mem_singleton.mp on ▸ nextSeen)

/-- A name is settled once all that it nests is: nothing that is settled leads back to it. -/
private theorem settled_leave (settled : Settled nesting (path ++ [node]) visited)
    (targets : ∀ next, Edge nesting node next → next ∈ visited ∧ next ∉ path ++ [node]) :
    Settled nesting path visited := by
  intro name member apart
  by_cases same : name = node
  · subst same
    refine ⟨fun round => ?_, fun next edge => ?_⟩
    · have trapped : ∀ last, Relation.TransGen (Edge nesting) name last →
          last ∈ visited ∧ last ∉ path ++ [name] := by
        intro last walk
        induction walk with
        | single edge => exact targets _ edge
        | tail _ edge ih => exact (settled _ ih.1 ih.2).2 _ edge
      exact (trapped name round).2 (by simp)
    · obtain ⟨seen, off⟩ := targets next edge
      exact ⟨seen, fun on => off (List.mem_append_left _ on)⟩
  · have off : name ∉ path ++ [node] := by simp [apart, same]
    obtain ⟨acyclic, closed⟩ := settled name member off
    exact ⟨acyclic, fun next edge => ⟨(closed next edge).1,
      fun on => (closed next edge).2 (List.mem_append_left _ on)⟩⟩

/-- A visit settles the name, unless it meets a closed walk. The bound on its depth is never
met, since the way passes different names with edges only. -/
theorem visit_left (trail : Trail nesting path node) (searching : search.cycle = none)
    (new : node ∉ search.visited) (sound : Sound nesting path search)
    (enough : nesting.nodes.length < fuel + path.length) :
    Left nesting path search (nesting.visit fuel path node search) [node] := by
  induction fuel generalizing path node search with
  | zero =>
    have short : path.length ≤ nesting.nodes.length :=
      (List.nodup_append.mp trail.distinct).1.length_le_of_subset trail.known
    omega
  | succ fuel ih =>
    have off : node ∉ path := fun on =>
      (List.nodup_append.mp trail.distinct).2.2 node on node (by simp) rfl
    have entered : Sound nesting (path ++ [node]) { search with visited := node :: search.visited } :=
      ⟨sound.cycle, fun _ => settled_enter new off (sound.settled searching)⟩
    have fold : ∀ (names : List String) (state : Search), (∀ name ∈ names, Edge nesting node name) →
        Sound nesting (path ++ [node]) state →
        Left nesting (path ++ [node]) state
          (names.foldl (follow nesting fuel (path ++ [node])) state) names := by
      intro names
      induction names with
      | nil => exact fun state _ sound => ⟨sound, fun _ => id, fun _ => by simp, id⟩
      | cons next names rest =>
        intro state edges sound
        have one := @follow_left _ _ _ _ _ fuel trail (edges next (by simp)) sound
          (fun trail searching new => ih trail searching new sound (by simp; omega))
        exact left_trans one (rest _ (fun name member => edges name (by simp [member])) one.sound)
    have left := fold (nesting.targets node) _ (fun _ => id) entered
    rw [visit_succ]
    refine ⟨⟨left.sound.cycle, fun searching => ?_⟩, ?_, fun searching name member => ?_, fun _ => searching⟩
    · exact settled_leave (left.sound.settled searching) (left.visited searching)
    · exact List.Subset.trans (List.subset_cons_self _ _) left.kept
    · rw [List.mem_singleton.mp member]
      exact ⟨left.kept (by simp), off⟩

private theorem sweep_left (names : List String) (sound : Sound nesting [] search) :
    Left nesting [] search (names.foldl (fun search node =>
      if search.cycle.isSome || search.visited.contains node then search
      else nesting.visit (nesting.nodes.length + 1) [] node search) search) names := by
  induction names generalizing search with
  | nil => exact ⟨sound, fun _ => id, fun _ => by simp, id⟩
  | cons node names ih =>
    have one : Left nesting [] search (if search.cycle.isSome || search.visited.contains node
        then search else nesting.visit (nesting.nodes.length + 1) [] node search) [node] := by
      split
      · rename_i passed
        refine ⟨sound, fun _ => id, fun searching name member => ?_, id⟩
        rw [List.mem_singleton.mp member]
        simpa [searching] using passed
      · rename_i entered
        simp only [Bool.or_eq_true, Option.isSome_iff_ne_none, ne_eq, List.contains_iff_mem,
          not_or, not_not] at entered
        exact visit_left ⟨by simp, by simp, by simp⟩ entered.1 entered.2 sound (by simp)
    exact left_trans one (ih one.sound)

/-- The search finds nothing exactly when no name reaches itself, and what it finds is a
closed walk. -/
theorem findCycle_spec (nesting : Nesting) :
    (nesting.findCycle = none ↔ ∀ name, ¬ Relation.TransGen (Edge nesting) name name) ∧
      ∀ walk, nesting.findCycle = some walk → ClosedWalk (Edge nesting) walk := by
  have left := sweep_left nesting.nodes
    (show Sound nesting [] {} from ⟨nofun, fun _ => nofun⟩)
  refine ⟨⟨fun searching name round => ?_, fun acyclic => ?_⟩, left.sound.cycle⟩
  · obtain ⟨next, edge, -⟩ := Relation.TransGen.head'_iff.mp round
    have seen := left.visited searching name (mem_nodes_of_edge edge)
    exact (left.sound.settled searching name seen.1 seen.2).1 round
  · rw [Option.eq_none_iff_forall_ne_some]
    intro walk found
    obtain ⟨name, round⟩ := closedWalk_round (left.sound.cycle walk found)
    exact acyclic name round

end EnvLoader.NestingCycles
