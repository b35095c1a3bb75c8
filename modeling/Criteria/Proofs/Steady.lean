import Criteria.Probe

/-!
Answers that can be asked for again.

Worlds change while they are read, so a probe that is run twice may give two answers. In a steady
world it does not: whatever is run leaves a steady world behind, and in each of them a settled probe
gives the same result. What is built from settled probes is settled, on what their results make of
each other.
-/

namespace Criteria

namespace Probe

variable {World Item Answer Next : Type} {steady : World → Prop}

/-- In every steady world the probe gives this result, and it leaves a steady world behind. -/
def Settles (steady : World → Prop) (probe : Probe World Answer)
    (result : Except Failure Answer) : Prop :=
  ∀ world, steady world → (probe world).answer = result ∧ steady (probe world).world

theorem settles_of_unchanged {probe : Probe World Answer} {world : World}
    (unchanged : (probe world).world = world) :
    probe.Settles (· = world) (probe world).answer := by
  intro other equal
  rw [equal]
  exact ⟨rfl, unchanged⟩

theorem settles_pure (answer : Answer) :
    (pure answer : Probe World Answer).Settles steady (.ok answer) :=
  fun _ still => ⟨rfl, still⟩

theorem settles_bind {probe : Probe World Answer} {next : Answer → Probe World Next}
    {result : Except Failure Answer} {following : Answer → Except Failure Next}
    (first : probe.Settles steady result)
    (rest : ∀ answer, result = .ok answer → (next answer).Settles steady (following answer)) :
    (probe >>= next).Settles steady (result >>= following) := by
  intro world still
  rcases first world still with ⟨equal, stays⟩
  rcases ran : probe world with ⟨failure | answer, touches, after⟩
  · rw [ran] at equal stays
    rw [bind_of_error ran, ← equal]
    exact ⟨rfl, stays⟩
  · rw [ran] at equal stays
    rw [bind_of_ok ran, ← equal]
    exact rest answer equal.symm after stays

theorem settles_map (change : Answer → Next) {probe : Probe World Answer}
    {result : Except Failure Answer} (settles : probe.Settles steady result) :
    (change <$> probe).Settles steady (result.map change) := by
  intro world still
  rcases settles world still with ⟨equal, stays⟩
  rw [map_run, equal]
  exact ⟨rfl, stays⟩

/-- Running settled items in turn gives the results that they have, up to the first failure. -/
theorem settles_mapM {run : Item → Probe World Answer} {own : Item → Except Failure Answer}
    {items : List Item} (settles : ∀ item ∈ items, (run item).Settles steady (own item)) :
    (items.mapM run).Settles steady (items.mapM own) := by
  induction items with
  | nil => exact settles_pure []
  | cons item items induction =>
      have rest := induction fun other member => settles other (List.mem_cons_of_mem item member)
      rw [List.mapM_cons, List.mapM_cons]
      refine settles_bind (settles item List.mem_cons_self) ?_
      intro answer _
      exact settles_bind rest fun answers _ => settles_pure (answer :: answers)

end Probe

/-! ## A world that is never steady -/

namespace Sample

/-- A clock whose every answer differs from the one before: it is `on` every other time, and its
`day` is the number of reads so far. -/
structure Clock where
  reads : Nat

instance : Records Clock where
  member _ name clock :=
    (match name with
      | "on" => some (.bool (clock.reads % 2 == 0))
      | "day" => some (.date (Int32.ofNat clock.reads))
      | _ => none, ⟨clock.reads + 1⟩)
  call _ _ _ clock := (none, clock)

end Sample

end Criteria
