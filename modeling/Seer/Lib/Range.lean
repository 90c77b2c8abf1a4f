import Seer.Lib.Table

/-!
# Loops over a table

A loop that visits the entries of a table one after the other, in any order, replaces each
by what the visit makes of it, and ends early when a visit fails.
-/
namespace Seer.Lib.Table

variable {κ β ε : Type} (visit : κ → β → Except ε β)

/-- The entry of a key before and after the loop. -/
def Visited (k : κ) : Option β → Option β → Prop
  | none, none => True
  | some v, some w => visit k v = .ok w
  | _, _ => False

section Visited
variable {visit} {k : κ} {v w : β} {before after : Option β}

theorem Visited.of_none (visited : Visited visit k none after) : after = none := by
  cases after with
  | none => rfl
  | some w => exact visited.elim

theorem Visited.of_some (visited : Visited visit k (some v) after) :
    ∃ w, after = some w ∧ visit k v = .ok w := by
  cases after with
  | none => exact visited.elim
  | some w => exact ⟨w, rfl, visited⟩

theorem Visited.to_some (visited : Visited visit k before (some w)) :
    ∃ v, before = some v ∧ visit k v = .ok w := by
  cases before with
  | none => exact visited.elim
  | some v => exact ⟨v, rfl, visited⟩

end Visited

variable [Ord κ] [Std.TransOrd κ]

/-- The visit of one key; a key without an entry is skipped. -/
def visitM (t : Table κ β) (k : κ) : Except ε (Table κ β) :=
  match t[k]? with
  | none => .ok t
  | some v => (visit k v).map (t.insert k)

def rangeM (order : List κ) (t : Table κ β) : Except ε (Table κ β) :=
  order.foldlM (visitM visit) t

variable {visit}

theorem rangeM_nil (t : Table κ β) : rangeM visit [] t = .ok t := rfl

theorem rangeM_cons (k : κ) (later : List κ) (t : Table κ β) :
    rangeM visit (k :: later) t = (visitM visit t k).bind (rangeM visit later) := rfl

variable [Std.LawfulEqOrd κ] [DecidableEq κ] {order : List κ}

/-- A loop over distinct keys visits each of them on the table it started with. -/
theorem rangeM_ok_iff_of_nodup (distinct : order.Nodup) (t result : Table κ β) :
    rangeM visit order t = .ok result ↔
      ∀ k, if k ∈ order then Visited visit k t[k]? result[k]? else result[k]? = t[k]? := by
  induction order generalizing t with
  | nil =>
    rw [rangeM_nil, Except.ok.injEq]
    constructor
    · rintro rfl k
      simp
    · intro same
      exact Std.ExtTreeMap.ext_getElem? fun k => (by simpa using same k : result[k]? = t[k]?).symm
  | cons first later ih =>
    obtain ⟨fresh, distinct⟩ := List.nodup_cons.mp distinct
    rw [rangeM_cons, visitM]
    -- Later visits leave the first key alone, so its entry is settled by its own visit.
    cases found : t[first]? with
    | none =>
      rw [show (Except.ok t : Except ε _).bind (rangeM visit later) = rangeM visit later t from rfl,
        ih distinct]
      refine forall_congr' fun k => ?_
      by_cases here : k = first
      · subst here
        cases after : result[k]? <;> simp [fresh, found, Visited]
      · simp [here]
    | some v =>
      dsimp only
      cases visited : visit first v with
      | error failure =>
        constructor
        · intro wrong
          cases wrong
        · intro all
          have own := all first
          rw [if_pos List.mem_cons_self, found] at own
          obtain ⟨w, -, ok⟩ := own.of_some
          rw [visited] at ok
          cases ok
      | ok w =>
        rw [show ((Except.ok w : Except ε _).map (t.insert first)).bind (rangeM visit later) =
          rangeM visit later (t.insert first w) from rfl, ih distinct]
        refine forall_congr' fun k => ?_
        rw [get_insert]
        by_cases here : k = first
        · subst here
          cases after : result[k]? <;> simp [fresh, found, Visited, visited, eq_comm]
        · simp [here, Ne.symm here]

/-- A loop over all keys, in whatever order. -/
theorem rangeM_ok_iff {t : Table κ β} (range : order.Perm t.keys) (result : Table κ β) :
    rangeM visit order t = .ok result ↔ ∀ k, Visited visit k t[k]? result[k]? := by
  have distinct : order.Nodup := range.nodup_iff.mpr Std.ExtTreeMap.nodup_keys
  rw [rangeM_ok_iff_of_nodup distinct]
  refine forall_congr' fun k => ?_
  by_cases there : k ∈ order
  · rw [if_pos there]
  · have absent : t[k]? = none := by
      apply Std.ExtTreeMap.getElem?_eq_none
      rwa [← Std.ExtTreeMap.mem_keys, ← range.mem_iff]
    rw [if_neg there, absent]
    cases after : result[k]? <;> simp [Visited]

/-- A loop that fails has met an entry whose visit fails. -/
theorem rangeM_error {t : Table κ β} (distinct : order.Nodup) {failure : ε}
    (failed : rangeM visit order t = .error failure) :
    ∃ k ∈ order, ∃ v, t[k]? = some v ∧ visit k v = .error failure := by
  induction order generalizing t with
  | nil => cases failed
  | cons first later ih =>
    obtain ⟨fresh, distinct⟩ := List.nodup_cons.mp distinct
    rw [rangeM_cons, visitM] at failed
    cases found : t[first]? with
    | none =>
      rw [found] at failed
      obtain ⟨k, there, entry⟩ := ih distinct failed
      exact ⟨k, List.mem_cons_of_mem _ there, entry⟩
    | some v =>
      rw [found] at failed
      cases visited : visit first v with
      | error other =>
        simp only [visited, Except.map, Except.bind, Except.error.injEq] at failed
        exact ⟨first, List.mem_cons_self, v, found, failed ▸ visited⟩
      | ok w =>
        simp only [visited, Except.map, Except.bind] at failed
        obtain ⟨k, there, u, entry, bad⟩ := ih distinct failed
        have other : first ≠ k := fun same => fresh (same ▸ there)
        rw [get_insert, if_neg other] at entry
        exact ⟨k, List.mem_cons_of_mem _ there, u, entry, bad⟩

/-- If no visit can fail, the loop ends with every entry visited. -/
theorem rangeM_total {t : Table κ β} (range : order.Perm t.keys)
    (total : ∀ k v, t[k]? = some v → ∃ w, visit k v = .ok w) :
    ∃ result, rangeM visit order t = .ok result := by
  cases looped : rangeM visit order t with
  | ok result => exact ⟨result, rfl⟩
  | error failure =>
    have distinct : order.Nodup := range.nodup_iff.mpr Std.ExtTreeMap.nodup_keys
    obtain ⟨k, -, v, entry, bad⟩ := rangeM_error distinct looped
    obtain ⟨w, good⟩ := total k v entry
    rw [bad] at good
    cases good

end Seer.Lib.Table
