import EnvLoader.Discovery
import Mathlib.Data.List.Induction
import Mathlib.Data.List.Nodup
import Mathlib.Order.Lattice

/-! The queue keeps each name at the place where it was first added. The names may come
tagged with ascending places, such as positions in a schema: what the queue keeps is then
in the order of the least place of each name. -/
namespace EnvLoader.DiscoveryOrder
open Discovery

variable {queue : Discovery} {name root : String} {names : List String}

/-- A name enters at the end, and only if it is new. -/
theorem discovered_add : (queue.add name).discovered =
    if name ∈ queue.discovered then queue.discovered else queue.discovered ++ [name] := by
  unfold add seen
  by_cases known : name ∈ queue.discovered <;> simp [known]

theorem expanded_add : (queue.add name).expanded = queue.expanded := by
  unfold add
  split <;> rfl

theorem addAll_cons : queue.addAll (name :: names) = (queue.add name).addAll names := rfl

theorem addAll_append (more : List String) :
    queue.addAll (names ++ more) = (queue.addAll names).addAll more :=
  List.foldl_append

theorem mem_add (other : String) :
    other ∈ (queue.add name).discovered ↔ other ∈ queue.discovered ∨ other = name := by
  rw [discovered_add]
  split
  · rename_i known
    exact ⟨Or.inl, fun found => found.elim id (fun same => same ▸ known)⟩
  · simp

theorem nodup_add (distinct : queue.discovered.Nodup) : (queue.add name).discovered.Nodup := by
  rw [discovered_add]
  split
  · exact distinct
  · rename_i unknown
    exact List.nodup_append.mpr ⟨distinct, by simp, by
      intro first known second new same
      exact unknown (List.mem_singleton.mp new ▸ same ▸ known)⟩

theorem expanded_addAll : (queue.addAll names).expanded = queue.expanded := by
  induction names generalizing queue with
  | nil => rfl
  | cons name names ih => rw [addAll_cons, ih, expanded_add]

/-- Adding names neither loses nor invents any. -/
theorem mem_addAll (other : String) :
    other ∈ (queue.addAll names).discovered ↔ other ∈ queue.discovered ∨ other ∈ names := by
  induction names generalizing queue with
  | nil => simp [addAll]
  | cons name names ih => rw [addAll_cons, ih, mem_add, List.mem_cons, or_assoc]

theorem nodup_addAll (distinct : queue.discovered.Nodup) :
    (queue.addAll names).discovered.Nodup := by
  induction names generalizing queue with
  | nil => exact distinct
  | cons name names ih => exact ih (nodup_add distinct)

/-- What is discovered does not depend on what was taken out. -/
theorem discovered_addAll {other : Discovery} (same : queue.discovered = other.discovered) :
    (queue.addAll names).discovered = (other.addAll names).discovered := by
  induction names generalizing queue other with
  | nil => exact same
  | cons name names ih => exact ih (by rw [discovered_add, discovered_add, same])

/-- What was discovered stays where it is. -/
theorem discovered_prefix_addAll : queue.discovered <+: (queue.addAll names).discovered := by
  induction names generalizing queue with
  | nil => exact List.prefix_refl _
  | cons name names ih =>
    have first : queue.discovered <+: (queue.add name).discovered := by
      rw [discovered_add]
      split
      · exact List.prefix_refl _
      · exact List.prefix_append _ _
    exact first.trans ih

/-- The least of the tags that a name has in a tagged list. -/
def LeastTag {ι : Type} [LE ι] (tagged : List (String × ι)) (name : String) (tag : ι) : Prop :=
  (name, tag) ∈ tagged ∧ ∀ other, (name, other) ∈ tagged → tag ≤ other

section Tagged
variable {ι : Type} [LinearOrder ι] {tagged : List (String × ι)} {last : String × ι}

private theorem leastTag_snoc {tag : ι} (least : LeastTag tagged name tag)
    (after : ∀ entry ∈ tagged, entry.2 < last.2) : LeastTag (tagged ++ [last]) name tag := by
  refine ⟨List.mem_append_left _ least.1, fun other found => ?_⟩
  rcases List.mem_append.mp found with found | found
  · exact least.2 other found
  · rw [← List.mem_singleton.mp found] at after
    exact (after _ least.1).le

private theorem leastTag_new (new : last.1 ∉ tagged.map (·.1)) :
    LeastTag (tagged ++ [last]) last.1 last.2 := by
  refine ⟨by simp, fun other found => ?_⟩
  rcases List.mem_append.mp found with found | found
  · exact absurd (List.mem_map_of_mem (f := (·.1)) found) new
  · exact (congrArg Prod.snd (List.mem_singleton.mp found)).ge

/-- The names discovered after the first stand in the order of their least tags. -/
theorem addAll_tagged (ascending : tagged.Pairwise fun first second => first.2 < second.2) :
    ∃ rest, ((⟨[root], 0⟩ : Discovery).addAll (tagged.map (·.1))).discovered = root :: rest ∧
      (∀ name ∈ rest, ∃ tag, LeastTag tagged name tag) ∧
      rest.Pairwise fun first second => ∃ tag later,
        LeastTag tagged first tag ∧ LeastTag tagged second later ∧ tag < later := by
  induction tagged using List.reverseRecOn with
  | nil => exact ⟨[], rfl, by simp, .nil⟩
  | append_singleton tagged last ih =>
    obtain ⟨before, -, across⟩ := List.pairwise_append.mp ascending
    have after : ∀ entry ∈ tagged, entry.2 < last.2 := fun entry member =>
      across entry member last (by simp)
    obtain ⟨rest, listed, placed, ordered⟩ := ih before
    have keptPlaces : ∀ name ∈ rest, ∃ tag, LeastTag (tagged ++ [last]) name tag :=
      fun name member => (placed name member).imp fun tag least => leastTag_snoc least after
    have keptOrder : rest.Pairwise fun first second => ∃ tag later,
        LeastTag (tagged ++ [last]) first tag ∧ LeastTag (tagged ++ [last]) second later ∧
          tag < later := ordered.imp fun ⟨tag, later, first, second, less⟩ =>
      ⟨tag, later, leastTag_snoc first after, leastTag_snoc second after, less⟩
    have step : ((⟨[root], 0⟩ : Discovery).addAll ((tagged ++ [last]).map (·.1))).discovered =
        if last.1 ∈ root :: rest then root :: rest else root :: rest ++ [last.1] := by
      rw [List.map_append, addAll_append, ← listed]
      exact discovered_add
    rw [step]
    split
    · exact ⟨rest, rfl, keptPlaces, keptOrder⟩
    · rename_i unknown
      have unseen : last.1 ∉ tagged.map (·.1) := fun seen =>
        unknown (listed ▸ (mem_addAll _).mpr (Or.inr seen))
      refine ⟨rest ++ [last.1], rfl, ?_, List.pairwise_append.mpr ⟨keptOrder, by simp, ?_⟩⟩
      · intro name member
        rcases List.mem_append.mp member with member | member
        · exact keptPlaces name member
        · exact List.mem_singleton.mp member ▸ ⟨last.2, leastTag_new unseen⟩
      · intro first member second new
        obtain ⟨tag, least⟩ := placed first member
        exact ⟨tag, last.2, leastTag_snoc least after,
          List.mem_singleton.mp new ▸ leastTag_new unseen, after _ least.1⟩

end Tagged
end EnvLoader.DiscoveryOrder
