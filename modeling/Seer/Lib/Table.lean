import Mathlib.Data.List.Basic

/-!
# Finite tables

A finite map with an ordered key type, equal when the entries are equal. The
lemmas restate the library's lookup rules with equality of keys in place of the
comparison.
-/
namespace Seer.Lib

abbrev Table (κ β : Type) [Ord κ] : Type := Std.ExtTreeMap κ β compare

namespace Table

variable {κ β : Type} [Ord κ] [Std.TransOrd κ]

@[simp] theorem get_insert_self (t : Table κ β) (k : κ) (v : β) :
    (t.insert k v)[k]? = some v :=
  Std.ExtTreeMap.getElem?_insert_self

@[simp] theorem get_erase_self (t : Table κ β) (k : κ) : (t.erase k)[k]? = none :=
  Std.ExtTreeMap.getElem?_erase_self

@[simp] theorem get_empty (k : κ) : (∅ : Table κ β)[k]? = none :=
  Std.ExtTreeMap.getElem?_empty

variable [Std.LawfulEqOrd κ]

/-- Named, so that structures with tables in them derive their own from it. -/
instance decidableEq [DecidableEq β] : DecidableEq (Table κ β) := inferInstance

theorem get_insert [DecidableEq κ] (t : Table κ β) (k a : κ) (v : β) :
    (t.insert k v)[a]? = if k = a then some v else t[a]? := by
  rw [Std.ExtTreeMap.getElem?_insert]
  simp only [Std.LawfulEqOrd.compare_eq_iff_eq]

theorem get_erase [DecidableEq κ] (t : Table κ β) (k a : κ) :
    (t.erase k)[a]? = if k = a then none else t[a]? := by
  rw [Std.ExtTreeMap.getElem?_erase]
  simp only [Std.LawfulEqOrd.compare_eq_iff_eq]

/-- Inserting a new key and erasing it again changes nothing. -/
theorem erase_insert [DecidableEq κ] {t : Table κ β} {k : κ} (absent : t[k]? = none) (v : β) :
    (t.insert k v).erase k = t := by
  apply Std.ExtTreeMap.ext_getElem?
  intro a
  rw [get_erase, get_insert]
  split
  next same => rw [← same, absent]
  · rfl

theorem insert_insert [DecidableEq κ] (t : Table κ β) (k : κ) (u v : β) :
    (t.insert k u).insert k v = t.insert k v := by
  ext a w
  rw [get_insert, get_insert, get_insert]
  split <;> rfl

theorem get_filter (t : Table κ β) (keep : κ → β → Bool) (k : κ) :
    (t.filter keep)[k]? = t[k]?.filter (keep k) :=
  Std.ExtTreeMap.getElem?_filter'

end Table

end Seer.Lib
