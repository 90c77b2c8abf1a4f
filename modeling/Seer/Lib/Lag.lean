import Mathlib.Data.List.Basic

/-!
# A view that follows a queue

Updates are appended to a queue and applied to a view one after the other. What a writer
makes sure of at each append, for the view with the whole queue applied, holds of the view at
every moment, however far the reader is behind.
-/
namespace Seer.Lib.Lag

variable {View Update : Type*} {apply : View → Update → View} {fine : View → Prop}
  {shown : View} {queue : List Update} {update : Update}

/-- The view when the queue is drained. -/
def drained (apply : View → Update → View) (shown : View) (queue : List Update) : View :=
  queue.foldl apply shown

/-- What holds of the view while the queue is being drained. -/
def Holds (apply : View → Update → View) (fine : View → Prop) (shown : View)
    (queue : List Update) : Prop :=
  ∀ earlier, earlier <+: queue → fine (drained apply shown earlier)

theorem drained_append :
    drained apply shown (queue ++ [update]) = apply (drained apply shown queue) update := by
  simp [drained]

theorem Holds.start (here : fine shown) : Holds apply fine shown [] := by
  intro earlier part
  rw [List.prefix_nil.mp part]
  exact here

theorem Holds.now (holds : Holds apply fine shown queue) : fine shown :=
  holds [] queue.nil_prefix

theorem Holds.last (holds : Holds apply fine shown queue) : fine (drained apply shown queue) :=
  holds queue queue.prefix_rfl

theorem Holds.mono {better : View → Prop} (weaker : ∀ view, fine view → better view)
    (holds : Holds apply fine shown queue) : Holds apply better shown queue :=
  fun earlier part => weaker _ (holds earlier part)

theorem Holds.append (holds : Holds apply fine shown queue)
    (next : fine (apply (drained apply shown queue) update)) :
    Holds apply fine shown (queue ++ [update]) := by
  intro earlier part
  rcases List.prefix_concat_iff.mp part with whole | part
  · rw [whole, drained_append]
    exact next
  · exact holds earlier part

theorem Holds.next (holds : Holds apply fine shown (update :: queue)) :
    Holds apply fine (apply shown update) queue := by
  intro earlier part
  exact holds (update :: earlier) (List.cons_prefix_cons.mpr ⟨rfl, part⟩)

end Seer.Lib.Lag
