import HttpExchange.Client.Pool
import Mathlib.Data.List.Nodup

/-!
A pool with one idle connection at most for each endpoint. Every change gives out, closes or keeps what was there
and what was put in, and nothing twice.
-/
namespace HttpExchange.Pool
variable {κ : Type} {pool : Pool κ} {endpoint : Endpoint} {entry : PoolEntry κ}

/-- No endpoint has two idle connections. -/
def Keyed (pool : Pool κ) : Prop := (pool.entries.map Prod.fst).Nodup

instance (pool : Pool κ) : Decidable pool.Keyed := inferInstanceAs (Decidable (List.Nodup _))

def connections (pool : Pool κ) : List κ := pool.entries.map (·.2.connection)

theorem keyed_empty : (empty : Pool κ).Keyed := List.nodup_nil

theorem mem_of_find? (found : pool.find? endpoint = some entry) : (endpoint, entry) ∈ pool.entries := by
  obtain ⟨⟨key, value⟩, here, rfl⟩ := Option.map_eq_some_iff.mp found
  have same := List.find?_some here
  obtain rfl : key = endpoint := beq_iff_eq.mp same
  exact List.mem_of_find?_eq_some here

theorem mem_without {other : Endpoint} :
    (other, entry) ∈ (pool.without endpoint).entries ↔ (other, entry) ∈ pool.entries ∧ other ≠ endpoint := by
  rw [without, List.mem_filter, bne_iff_ne]

theorem keyed_without (keyed : pool.Keyed) (endpoint : Endpoint) : (pool.without endpoint).Keyed :=
  List.Nodup.sublist (List.filter_sublist.map Prod.fst) keyed

theorem mem_connections_without {connection : κ} (member : connection ∈ (pool.without endpoint).connections) :
    connection ∈ pool.connections := by
  obtain ⟨⟨other, entry⟩, inside, rfl⟩ := List.mem_map.mp member
  exact List.mem_map_of_mem (mem_without.mp inside).1

theorem without_of_find?_eq_none (absent : pool.find? endpoint = none) : pool.without endpoint = pool := by
  have others := List.find?_eq_none.mp (Option.map_eq_none_iff.mp absent)
  rw [without, List.filter_eq_self.mpr fun pair member => by simpa using others pair member]

/-- The idle connection of an endpoint and those of all others make up the pool. -/
theorem connections_of_find? (keyed : pool.Keyed) (found : pool.find? endpoint = some entry) :
    pool.connections.Perm (entry.connection :: (pool.without endpoint).connections) := by
  obtain ⟨front, back, entries⟩ := List.append_of_mem (mem_of_find? found)
  have distinct := keyed
  rw [Keyed, entries, List.map_append, List.map_cons, List.nodup_middle, List.nodup_cons] at distinct
  have others : ∀ pair ∈ front ++ back, (pair.1 != endpoint) = true := fun pair member => by
    refine bne_iff_ne.mpr fun same => distinct.1 ?_
    have inside := List.mem_map_of_mem (f := Prod.fst) member
    rwa [same, List.map_append] at inside
  have kept : (pool.without endpoint).entries = front ++ back := by
    rw [without, entries, List.filter_append, List.filter_cons_of_neg (by simp), ← List.filter_append,
      List.filter_eq_self.mpr others]
  rw [connections, connections, kept, entries, List.map_append, List.map_cons, List.map_append]
  exact List.perm_middle

theorem keyed_put (keyed : pool.Keyed) (endpoint : Endpoint) (entry : PoolEntry κ) :
    (pool.put endpoint entry).pool.Keyed := by
  have others := keyed_without keyed endpoint
  rw [Keyed, put, List.map_append, List.map_singleton]
  refine List.nodup_append.mpr ⟨others, List.nodup_singleton _, fun key member other same => ?_⟩
  obtain rfl := List.mem_singleton.mp same
  obtain ⟨⟨key, value⟩, inside, rfl⟩ := List.mem_map.mp member
  exact (mem_without.mp inside).2

theorem mem_put {other : Endpoint} {idle : PoolEntry κ} :
    (other, idle) ∈ (pool.put endpoint entry).pool.entries ↔
      ((other, idle) ∈ pool.entries ∧ other ≠ endpoint) ∨ (other = endpoint ∧ idle = entry) := by
  rw [put, List.mem_append, mem_without, List.mem_singleton, Prod.mk.injEq]

theorem without_without (pool : Pool κ) (endpoint : Endpoint) :
    (pool.without endpoint).without endpoint = pool.without endpoint := by
  rw [without, without, List.filter_filter]
  simp only [Bool.and_self]

/-- A connection that is put into the pool leaves those of other endpoints. -/
theorem without_put (pool : Pool κ) (endpoint : Endpoint) (entry : PoolEntry κ) :
    (pool.put endpoint entry).pool.without endpoint = pool.without endpoint := by
  have same : (pool.without endpoint).entries.filter (·.1 != endpoint) = (pool.without endpoint).entries :=
    congrArg Pool.entries (without_without pool endpoint)
  rw [put, without, List.filter_append, same, List.filter_cons_of_neg (by simp), List.filter_nil, List.append_nil]

theorem find?_put (pool : Pool κ) (endpoint : Endpoint) (entry : PoolEntry κ) :
    (pool.put endpoint entry).pool.find? endpoint = some entry := by
  have none : (pool.without endpoint).entries.find? (·.1 == endpoint) = none := by
    refine List.find?_eq_none.mpr fun pair member => ?_
    have other := (mem_without.mp member).2
    simpa using other
  rw [find?, put, List.find?_append, none]
  simp

theorem mem_connections_put {connection : κ} (member : connection ∈ (pool.put endpoint entry).pool.connections) :
    connection ∈ pool.connections ∨ connection = entry.connection := by
  obtain ⟨⟨other, idle⟩, inside, rfl⟩ := List.mem_map.mp member
  rcases mem_put.mp inside with ⟨before, -⟩ | ⟨rfl, rfl⟩
  · exact .inl (List.mem_map_of_mem before)
  · exact .inr rfl

/-- What was idle is closed or stays. -/
theorem connections_remove (keyed : pool.Keyed) (endpoint : Endpoint) :
    pool.connections.Perm ((pool.remove endpoint).closing ++ (pool.remove endpoint).pool.connections) := by
  rw [remove]
  cases found : pool.find? endpoint with
  | none =>
    rw [without_of_find?_eq_none found]
    exact .refl _
  | some entry => exact connections_of_find? keyed found

/-- What was idle is closed or stays, beside the connection that came. -/
theorem connections_put (keyed : pool.Keyed) (endpoint : Endpoint) (entry : PoolEntry κ) :
    (entry.connection :: pool.connections).Perm
      ((pool.put endpoint entry).closing ++ (pool.put endpoint entry).pool.connections) := by
  have stays : ((pool.put endpoint entry).pool.connections).Perm
      (entry.connection :: (pool.without endpoint).connections) := by
    rw [put, connections, List.map_append]
    exact List.perm_append_comm
  refine (List.Perm.cons _ (connections_remove keyed endpoint)).trans ?_
  exact List.perm_middle.symm.trans (stays.symm.append_left _)

/-- Only a healthy connection is given out, and only to its own endpoint. -/
theorem claim_eq_some_iff {healthy : κ → Bool} :
    (pool.claim healthy endpoint).entry = some entry ↔
      pool.find? endpoint = some entry ∧ healthy entry.connection = true := by
  rw [claim]
  cases pool.find? endpoint with
  | none => simp
  | some idle =>
    simp only
    split
    · rename_i sound
      simp only [Option.some.injEq]
      exact ⟨fun same => ⟨same, same ▸ sound⟩, And.left⟩
    · rename_i unsound
      simp only [Option.some.injEq]
      exact ⟨nofun, fun ⟨same, sound⟩ => absurd (same ▸ sound) unsound⟩

end HttpExchange.Pool
