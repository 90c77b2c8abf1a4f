import Seer.Lib.Machine
import Mathlib.Algebra.Order.BigOperators.Group.List
import Mathlib.Algebra.Order.Ring.Nat

/-!
# Threads that take read-write locks in a fixed order

Each thread runs a list of lock operations. A lock is taken by many readers or one writer;
a writer first announces itself, which keeps new readers and other writers out, and then
waits for the readers that are inside. A thread can also call out, to the network or to a
channel. If every thread takes a lock only while all locks it holds have a smaller rank, and
gives back all it takes, then some thread can always go on until all of them are done; and
what a program keeps to at its calls holds in every run of it.
-/
namespace Seer.Lib.Locks

variable {ι : Type*}

inductive Act (ι : Type*) where
  | lock (l : ι)
  | unlock (l : ι)
  | rlock (l : ι)
  | runlock (l : ι)
  /-- Something outside the locks that returns in its own time. -/
  | call

structure Thread (ι : Type*) where
  program : List (Act ι)
  writes : List ι := []
  reads : List ι := []
  /-- The writer at the head of the program waits for the readers to leave. -/
  announced : Bool := false

namespace Thread

/-- The lock that the thread has to take next. -/
def wants (thread : Thread ι) : Option ι :=
  match thread.program with
  | .lock l :: _ => some l
  | .rlock l :: _ => some l
  | _ => none

variable [DecidableEq ι]

/-- Neither readers nor writers get in besides this thread. -/
def claims (thread : Thread ι) (l : ι) : Bool :=
  l ∈ thread.writes || thread.announced && thread.wants = some l

/-- The thread's next state among all threads; `none` where it has to wait. -/
def next (all : List (Thread ι)) (thread : Thread ι) : Option (Thread ι) :=
  match thread.program with
  | [] => none
  | .lock l :: rest =>
    if thread.announced then
      if all.all (l ∉ ·.reads) then
        some { thread with program := rest, writes := l :: thread.writes, announced := false }
      else none
    else if all.all (!·.claims l) then some { thread with announced := true }
    else none
  | .rlock l :: rest =>
    if all.all (!·.claims l) then some { thread with program := rest, reads := l :: thread.reads }
    else none
  | .unlock l :: rest =>
    if l ∈ thread.writes then
      some { thread with program := rest, writes := thread.writes.erase l }
    else none
  | .runlock l :: rest =>
    if l ∈ thread.reads then some { thread with program := rest, reads := thread.reads.erase l }
    else none
  | .call :: rest => some { thread with program := rest }

end Thread

/-- One thread goes on. -/
def step [DecidableEq ι] (threads : List (Thread ι)) (index : Nat) : Option (List (Thread ι)) :=
  threads[index]?.bind fun thread => (thread.next threads).map (threads.set index)

/-! ## Programs that respect the ranks -/

section Ranked
variable [DecidableEq ι] (rank : ι → Nat) (around : ι → Bool)

/-- From the given locks on, a lock is taken only above all that are held, calls are made
only under locks that may be held around them, and everything is given back. -/
def Ranked : List ι → List ι → List (Act ι) → Prop
  | writes, reads, [] => writes = [] ∧ reads = []
  | writes, reads, .lock l :: rest =>
    (∀ held ∈ writes ++ reads, rank held < rank l) ∧ Ranked (l :: writes) reads rest
  | writes, reads, .rlock l :: rest =>
    (∀ held ∈ writes ++ reads, rank held < rank l) ∧ Ranked writes (l :: reads) rest
  | writes, reads, .unlock l :: rest => l ∈ writes ∧ Ranked (writes.erase l) reads rest
  | writes, reads, .runlock l :: rest => l ∈ reads ∧ Ranked writes (reads.erase l) rest
  | writes, reads, .call :: rest =>
    (∀ held ∈ writes ++ reads, around held = true) ∧ Ranked writes reads rest

/-- A critical section. -/
def locked (l : ι) (body : List (Act ι)) : List (Act ι) := .lock l :: body ++ [.unlock l]

def rlocked (l : ι) (body : List (Act ι)) : List (Act ι) := .rlock l :: body ++ [.runlock l]

/-- A part of a program that leaves the locks as it finds them, wherever all that is held is
below the floor and, if it calls, may be held around calls. -/
def Balanced (floor : Nat) (calls : Bool) (body : List (Act ι)) : Prop :=
  ∀ writes reads rest,
    (∀ held ∈ writes ++ reads, rank held < floor ∧ (calls = true → around held = true)) →
    Ranked rank around writes reads rest → Ranked rank around writes reads (body ++ rest)

variable {rank around} {floor : Nat} {calls : Bool}

theorem balanced_nil : Balanced rank around floor calls ([] : List (Act ι)) :=
  fun _ _ _ _ ranked => ranked

theorem balanced_call : Balanced rank around floor true ([.call] : List (Act ι)) :=
  fun _ _ _ below ranked => ⟨fun held member => (below held member).2 rfl, ranked⟩

theorem Balanced.mono {higher : Nat} {body : List (Act ι)}
    (balanced : Balanced rank around higher calls body) (le : floor ≤ higher) :
    Balanced rank around floor calls body := by
  intro writes reads rest below ranked
  refine balanced writes reads rest (fun held member => ?_) ranked
  exact ⟨Nat.lt_of_lt_of_le (below held member).1 le, (below held member).2⟩

theorem Balanced.append {first second : List (Act ι)} (one : Balanced rank around floor calls first)
    (two : Balanced rank around floor calls second) :
    Balanced rank around floor calls (first ++ second) := by
  intro writes reads rest below ranked
  rw [List.append_assoc]
  exact one writes reads _ below (two writes reads rest below ranked)

theorem Balanced.flatten {bodies : List (List (Act ι))}
    (all : ∀ body ∈ bodies, Balanced rank around floor calls body) :
    Balanced rank around floor calls bodies.flatten := by
  induction bodies with
  | nil => exact balanced_nil
  | cons body later ih =>
    rw [List.flatten_cons]
    refine (all body List.mem_cons_self).append (ih fun other member => ?_)
    exact all other (List.mem_cons_of_mem _ member)

theorem Balanced.ite {body : List (Act ι)} (chosen : Bool)
    (balanced : Balanced rank around floor calls body) :
    Balanced rank around floor calls (if chosen then body else []) := by
  cases chosen
  · exact balanced_nil
  · exact balanced

section Sections
variable {l : ι} {body : List (Act ι)} {inside : Bool}

omit [DecidableEq ι] in
/-- What holds of the locks outside a section holds of those inside. -/
theorem below_of_section {held : List ι} (above : floor ≤ rank l)
    (allowed : inside = true → around l = true ∧ calls = true)
    (below : ∀ other ∈ held, rank other < floor ∧ (calls = true → around other = true)) :
    ∀ other ∈ l :: held, rank other < rank l + 1 ∧ (inside = true → around other = true) := by
  intro other member
  rcases List.mem_cons.mp member with rfl | old
  · exact ⟨Nat.lt_succ_self _, fun calling => (allowed calling).1⟩
  · obtain ⟨lower, fine⟩ := below other old
    exact ⟨by omega, fun calling => fine (allowed calling).2⟩

theorem Balanced.locked (above : floor ≤ rank l)
    (allowed : inside = true → around l = true ∧ calls = true)
    (inner : Balanced rank around (rank l + 1) inside body) :
    Balanced rank around floor calls (locked l body) := by
  intro writes reads rest below ranked
  have split : Locks.locked l body ++ rest = .lock l :: (body ++ .unlock l :: rest) := by
    simp [Locks.locked]
  rw [split]
  refine ⟨fun held member => Nat.lt_of_lt_of_le (below held member).1 above, ?_⟩
  refine inner (l :: writes) reads _ ?_ ⟨List.mem_cons_self, ?_⟩
  · exact below_of_section above allowed below
  · rwa [List.erase_cons_head]

theorem Balanced.rlocked (above : floor ≤ rank l)
    (allowed : inside = true → around l = true ∧ calls = true)
    (inner : Balanced rank around (rank l + 1) inside body) :
    Balanced rank around floor calls (rlocked l body) := by
  intro writes reads rest below ranked
  have split : Locks.rlocked l body ++ rest = .rlock l :: (body ++ .runlock l :: rest) := by
    simp [Locks.rlocked]
  rw [split]
  refine ⟨fun held member => Nat.lt_of_lt_of_le (below held member).1 above, ?_⟩
  refine inner writes (l :: reads) _ ?_ ⟨List.mem_cons_self, ?_⟩
  · intro held member
    refine below_of_section above allowed below held ?_
    simp only [List.mem_append, List.mem_cons] at member ⊢
    tauto
  · rwa [List.erase_cons_head]

end Sections

/-- A balanced program can start without locks. -/
theorem Balanced.ranked {body : List (Act ι)} (balanced : Balanced rank around floor calls body) :
    Ranked rank around [] [] body := by
  have whole := balanced [] [] [] nofun ⟨rfl, rfl⟩
  rwa [List.append_nil] at whole

end Ranked

/-! ## Some thread can always go on -/

section Work
variable {threads : List (Thread ι)} {thread : Thread ι}

/-- Taking a write lock is two steps, every other operation one. -/
def Thread.work (thread : Thread ι) : Nat :=
  2 * thread.program.length + (!thread.announced).toNat

def work (threads : List (Thread ι)) : Nat := (threads.map Thread.work).sum

theorem work_set {index : Nat} (changed : Thread ι) (here : threads[index]? = some thread) :
    work (threads.set index changed) + thread.work = work threads + changed.work := by
  induction threads generalizing index with
  | nil => cases here
  | cons first later ih =>
    cases index with
    | zero =>
      cases here
      simp only [work, List.set_cons_zero, List.map_cons, List.sum_cons]
      omega
    | succ index =>
      have rest := ih here
      simp only [work, List.set_cons_succ, List.map_cons, List.sum_cons] at rest ⊢
      omega

end Work

section Progress
variable [DecidableEq ι] {rank : ι → Nat} {around : ι → Bool}

/-- A thread that holds the locks its program counts on. -/
structure Thread.Sound (rank : ι → Nat) (around : ι → Bool) (thread : Thread ι) : Prop where
  ranked : Ranked rank around thread.writes thread.reads thread.program
  announced : thread.announced = true → ∃ l rest, thread.program = .lock l :: rest

variable {threads : List (Thread ι)} {thread : Thread ι}

theorem Thread.Sound.start {program : List (Act ι)} (ranked : Ranked rank around [] [] program) :
    Thread.Sound rank around { program } :=
  ⟨ranked, nofun⟩

/-- Only a writer announces itself. -/
theorem Thread.Sound.quiet (sound : thread.Sound rank around)
    (other : ∀ l rest, thread.program ≠ .lock l :: rest) : ¬thread.announced = true := by
  intro announced
  obtain ⟨l, rest, writer⟩ := sound.announced announced
  exact other l rest writer

theorem Thread.Sound.next (sound : thread.Sound rank around) {after : Thread ι}
    (stepped : thread.next threads = some after) : after.Sound rank around := by
  have ranked := sound.ranked
  unfold Thread.next at stepped
  split at stepped
  next => cases stepped
  next l rest program =>
    rw [program] at ranked
    split at stepped
    · obtain ⟨-, ⟨⟩⟩ := Option.ite_none_right_eq_some.mp stepped
      exact ⟨ranked.2, nofun⟩
    · obtain ⟨-, ⟨⟩⟩ := Option.ite_none_right_eq_some.mp stepped
      exact ⟨sound.ranked, fun _ => ⟨l, rest, program⟩⟩
  next l rest program =>
    rw [program] at ranked
    obtain ⟨-, ⟨⟩⟩ := Option.ite_none_right_eq_some.mp stepped
    exact ⟨ranked.2, fun announced => absurd announced (sound.quiet (by simp [program]))⟩
  next l rest program =>
    rw [program] at ranked
    obtain ⟨-, ⟨⟩⟩ := Option.ite_none_right_eq_some.mp stepped
    exact ⟨ranked.2, fun announced => absurd announced (sound.quiet (by simp [program]))⟩
  next l rest program =>
    rw [program] at ranked
    obtain ⟨-, ⟨⟩⟩ := Option.ite_none_right_eq_some.mp stepped
    exact ⟨ranked.2, fun announced => absurd announced (sound.quiet (by simp [program]))⟩
  next rest program =>
    rw [program] at ranked
    cases stepped
    exact ⟨ranked.2, fun announced => absurd announced (sound.quiet (by simp [program]))⟩

/-- A thread that holds something and cannot go on waits for a lock above it. -/
theorem Thread.Sound.wants_above (sound : thread.Sound rank around) (stuck : thread.next threads = none)
    {l : ι} (held : l ∈ thread.writes ++ thread.reads) :
    ∃ m, thread.wants = some m ∧ rank l < rank m := by
  have ranked := sound.ranked
  cases program : thread.program with
  | nil =>
    rw [program] at ranked
    obtain ⟨writes, reads⟩ := ranked
    simp [writes, reads] at held
  | cons act rest =>
    rw [program] at ranked
    cases act with
    | lock m | rlock m => exact ⟨m, by simp [Thread.wants, program], ranked.1 l held⟩
    | unlock m | runlock m => simp [Thread.next, program, ranked.1] at stuck
    | call => simp [Thread.next, program] at stuck

/-- A thread that waits is kept out by one that holds the lock, or by one that has announced
itself and is kept out by a reader. -/
theorem holder_of_stuck (sound : ∀ thread ∈ threads, thread.Sound rank around)
    (stuck : ∀ thread ∈ threads, thread.next threads = none) {l : ι} (member : thread ∈ threads)
    (wants : thread.wants = some l) :
    ∃ holder ∈ threads, l ∈ holder.writes ++ holder.reads := by
  -- A writer that has announced itself waits for a reader.
  have announced : ∀ writer ∈ threads, writer.announced = true → writer.wants = some l →
      ∃ holder ∈ threads, l ∈ holder.writes ++ holder.reads := by
    intro writer inside announced wants
    obtain ⟨m, rest, program⟩ := (sound writer inside).announced announced
    have same : m = l := by simpa [Thread.wants, program] using wants
    subst same
    have blocked := stuck writer inside
    simp only [Thread.next, program, announced, if_true, ite_eq_right_iff, reduceCtorEq,
      imp_false, List.all_eq_true, decide_eq_true_eq, not_forall, not_not] at blocked
    obtain ⟨holder, here, reads⟩ := blocked
    exact ⟨holder, here, List.mem_append_right _ reads⟩
  -- Whoever is not let in at all finds a claim.
  have claimed : threads.all (!·.claims l) = false →
      ∃ holder ∈ threads, l ∈ holder.writes ++ holder.reads := by
    intro blocked
    obtain ⟨writer, inside, claims⟩ := List.all_eq_false.mp blocked
    simp only [Thread.claims, Bool.not_eq_true', Bool.not_eq_false, Bool.or_eq_true,
      decide_eq_true_eq, Bool.and_eq_true] at claims
    rcases claims with holds | ⟨waits, head⟩
    · exact ⟨writer, inside, List.mem_append_left _ holds⟩
    · exact announced writer inside waits head
  have blocked := stuck thread member
  cases program : thread.program with
  | nil => simp [Thread.wants, program] at wants
  | cons act rest =>
    cases act with
    | unlock m | runlock m | call => simp [Thread.wants, program] at wants
    | lock m =>
      have same : m = l := by simpa [Thread.wants, program] using wants
      subst same
      by_cases waits : thread.announced = true
      · exact announced thread member waits wants
      · apply claimed
        simpa [Thread.next, program, waits] using blocked
    | rlock m =>
      have same : m = l := by simpa [Thread.wants, program] using wants
      subst same
      apply claimed
      simpa [Thread.next, program] using blocked

/-- A thread that cannot go on and is not done waits for a lock. -/
theorem Thread.Sound.wants_of_stuck (sound : thread.Sound rank around) (stuck : thread.next threads = none)
    (unfinished : thread.program ≠ []) : ∃ l, thread.wants = some l := by
  have ranked := sound.ranked
  cases program : thread.program with
  | nil => contradiction
  | cons act rest =>
    rw [program] at ranked
    cases act with
    | lock l | rlock l => exact ⟨l, by simp [Thread.wants, program]⟩
    | unlock l | runlock l => simp [Thread.next, program, ranked.1] at stuck
    | call => simp [Thread.next, program] at stuck

/-- If no thread could go on, whoever waits would wait for someone who waits for a lock of
higher rank; but only finitely many locks are waited for. -/
theorem exists_next (sound : ∀ thread ∈ threads, thread.Sound rank around) (member : thread ∈ threads)
    (unfinished : thread.program ≠ []) : ∃ other ∈ threads, (other.next threads).isSome = true := by
  by_contra dead
  have stuck : ∀ other ∈ threads, other.next threads = none := by
    intro other inside
    by_contra moves
    exact dead ⟨other, inside, Option.isSome_iff_ne_none.mpr moves⟩
  have higher : ∀ bound, ∃ other ∈ threads, ∃ l, other.wants = some l ∧ bound ≤ rank l := by
    intro bound
    induction bound with
    | zero =>
      obtain ⟨l, wants⟩ := (sound thread member).wants_of_stuck (stuck thread member) unfinished
      exact ⟨thread, member, l, wants, Nat.zero_le _⟩
    | succ bound ih =>
      obtain ⟨waiting, inside, l, wants, above⟩ := ih
      obtain ⟨holder, here, held⟩ := holder_of_stuck sound stuck inside wants
      obtain ⟨m, next, greater⟩ := (sound holder here).wants_above (stuck holder here) held
      exact ⟨holder, here, m, next, by omega⟩
  obtain ⟨other, inside, l, wants, above⟩ :=
    higher ((threads.map fun thread => (thread.wants.map rank).getD 0).sum + 1)
  have listed : rank l ∈ threads.map fun thread => (thread.wants.map rank).getD 0 :=
    List.mem_map.mpr ⟨other, inside, by simp [wants]⟩
  have bounded := List.single_le_sum (fun _ _ => Nat.zero_le _) _ listed
  omega

theorem step_eq_some {index : Nat} {after : List (Thread ι)} :
    step threads index = some after ↔ ∃ thread changed, threads[index]? = some thread ∧
      thread.next threads = some changed ∧ after = threads.set index changed := by
  unfold step
  rw [Option.bind_eq_some_iff]
  constructor
  · rintro ⟨thread, here, mapped⟩
    obtain ⟨changed, stepped, rfl⟩ := Option.map_eq_some_iff.mp mapped
    exact ⟨thread, changed, here, stepped, rfl⟩
  · rintro ⟨thread, changed, here, stepped, rfl⟩
    exact ⟨thread, here, Option.map_eq_some_iff.mpr ⟨changed, stepped, rfl⟩⟩

theorem sound_step {index : Nat} {after : List (Thread ι)}
    (sound : ∀ thread ∈ threads, thread.Sound rank around) (stepped : step threads index = some after) :
    ∀ thread ∈ after, thread.Sound rank around := by
  obtain ⟨thread, changed, here, next, rfl⟩ := step_eq_some.mp stepped
  intro other inside
  rcases List.mem_or_eq_of_mem_set inside with before | rfl
  · exact sound other before
  · exact (sound thread (List.mem_of_getElem? here)).next next

theorem Thread.work_next {after : Thread ι} (stepped : thread.next threads = some after) :
    after.work < thread.work := by
  have shorter : ∀ {act rest writes reads}, thread.program = act :: rest →
      ({ thread with program := rest, writes := writes, reads := reads } : Thread ι).work <
        thread.work := by
    intro act rest writes reads program
    simp only [Thread.work, program, List.length_cons]
    omega
  unfold Thread.next at stepped
  split at stepped
  next => cases stepped
  next l rest program =>
    split at stepped
    next announced =>
      obtain ⟨-, ⟨⟩⟩ := Option.ite_none_right_eq_some.mp stepped
      simp [Thread.work, program, announced]
      omega
    next waiting =>
      obtain ⟨-, ⟨⟩⟩ := Option.ite_none_right_eq_some.mp stepped
      simp [Thread.work, waiting]
  next l rest program =>
    obtain ⟨-, ⟨⟩⟩ := Option.ite_none_right_eq_some.mp stepped
    exact shorter program
  next l rest program =>
    obtain ⟨-, ⟨⟩⟩ := Option.ite_none_right_eq_some.mp stepped
    exact shorter program
  next l rest program =>
    obtain ⟨-, ⟨⟩⟩ := Option.ite_none_right_eq_some.mp stepped
    exact shorter program
  next rest program =>
    cases stepped
    exact shorter program

theorem sound_run (sound : ∀ thread ∈ threads, thread.Sound rank around) {schedule : List Nat}
    {last : List (Thread ι)} (runs : Machine.run step threads schedule = some last) :
    ∀ thread ∈ last, thread.Sound rank around :=
  Machine.run_invariant
    (fun _ _ _ sound (_ : True) stepped => sound_step sound stepped) runs (fun _ _ => trivial)
    sound

/-- A thread that is about to call holds only locks that may be held around calls. -/
theorem Thread.Sound.held_around (sound : thread.Sound rank around) {rest : List (Act ι)}
    (calls : thread.program = .call :: rest) :
    ∀ held ∈ thread.writes ++ thread.reads, around held = true := by
  have ranked := sound.ranked
  rw [calls] at ranked
  exact ranked.1

/-- Threads that respect the ranks never block each other for good: a run has a bounded
number of steps, and where it stands all threads are done or one of them can go on. -/
theorem completes (sound : ∀ thread ∈ threads, thread.Sound rank around) {schedule : List Nat}
    {last : List (Thread ι)} (runs : Machine.run step threads schedule = some last) :
    schedule.length ≤ work threads ∧
      ((∀ thread ∈ last, thread.program = []) ∨ ∃ index, (step last index).isSome = true) := by
  have kept := sound_run sound runs
  constructor
  · have bounded := Machine.run_bounded work (fun _ => false) 0 (fun _ _ _ (_ : True) (_ : True) _ => trivial)
      (fun threads index after _ _ stepped => by
        obtain ⟨thread, changed, here, next, rfl⟩ := step_eq_some.mp stepped
        have set := work_set changed here
        have lower := Thread.work_next next
        simp only [Bool.false_eq_true, if_false]
        omega) runs (fun _ _ => trivial) trivial
    omega
  · by_cases done : ∀ thread ∈ last, thread.program = []
    · exact .inl done
    · right
      obtain ⟨thread, member, unfinished⟩ : ∃ thread ∈ last, thread.program ≠ [] := by
        simpa using done
      obtain ⟨other, inside, moves⟩ := exists_next kept member unfinished
      obtain ⟨index, here⟩ := List.mem_iff_getElem?.mp inside
      obtain ⟨changed, next⟩ := Option.isSome_iff_exists.mp moves
      exact ⟨index, Option.isSome_iff_exists.mpr ⟨_, step_eq_some.mpr ⟨other, changed, here, next, rfl⟩⟩⟩

end Progress

end Seer.Lib.Locks
