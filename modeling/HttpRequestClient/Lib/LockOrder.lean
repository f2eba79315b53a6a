import HttpRequestClient.Lib.Runs
import Mathlib.Algebra.BigOperators.Group.List.Basic
import Mathlib.Algebra.Order.BigOperators.Group.List
import Mathlib.Algebra.Order.Group.Nat
import Mathlib.Algebra.Ring.Nat
import Mathlib.Logic.Relation

/-!
# Locks that are taken in order

Threads that lock, wait for conditions, call outside, start loops of their own
and join them, in any order of turns.  A thread whose next lock is held, by
another or by itself, waits, and so does one that joins a loop that has not
ended.

`Ordered` says of a program that it takes its locks in ascending order of a
rank and gives back all of them, and that it joins a loop only after it has
told it to stop, and under locks that are below those of the loop.  Threads
with ordered programs never wait for each other in a circle (`no_circle`):
whoever waits, waits in the end for a thread that can go on (`exists_ready`).
When nothing more comes in from outside and every call outside is answered,
all come to their end but the loops that nobody stops (`run_finishes`).

`Section` composes ordered programs: a section takes its locks at or above
its floor and leaves what is held as it finds it.
-/

namespace LockOrder

open Runs

/-- What a thread does.  `κ` names the calls outside and the loops. -/
inductive LockOp (α κ : Type) where
  | lock (l : α)
  | unlock (l : α)
  /-- To wait for a condition under a lock, which is given back meanwhile. -/
  | wait (l : α)
  | asleep (l : α)
  | outside (k : κ)
  /-- A thread of this name is started with its loop. -/
  | create (k : κ)
  /-- To clear the flag that the loop of this name looks at. -/
  | stop (k : κ)
  | join (k : κ)
  | loop (k : κ)
  deriving DecidableEq, Repr

/-- The locks that a thread holds, and what it has left to do. -/
structure Thread (α κ : Type) where
  name : Option κ
  held : List α
  todo : List (LockOp α κ)
  deriving DecidableEq, Repr

structure System (α κ : Type) where
  threads : List (Thread α κ)
  stopped : List κ
  deriving DecidableEq, Repr

inductive ThreadEvent (α κ : Type) where
  | start (todo : List (LockOp α κ))
  /-- The next step of a thread, if it can take it: a call outside is answered,
  a condition holds or the time for it is over. -/
  | turn (t : Nat)
  /-- Something comes in while a thread calls outside, or stands at its loop. -/
  | comes (t : Nat) (ops : κ → List (LockOp α κ))
  /-- A loop is left. -/
  | breaks (t : Nat) (ops : κ → List (LockOp α κ))
  /-- A thread is woken and has to wait again. -/
  | wakes (t : Nat)

variable {α κ : Type}

/-! ## Steps -/

section Steps

variable [DecidableEq α] [DecidableEq κ]

/-- The next step of a thread, as far as itself is concerned. -/
def Thread.advance (stopped : List κ) (thread : Thread α κ) : Thread α κ :=
  match thread.todo with
  | [] => thread
  | .lock l :: rest => { thread with held := l :: thread.held, todo := rest }
  | .unlock l :: rest => { thread with held := thread.held.erase l, todo := rest }
  | .wait l :: rest => { thread with held := thread.held.erase l, todo := .asleep l :: rest }
  | .asleep l :: rest => { thread with todo := .lock l :: rest }
  | .outside _ :: rest => { thread with todo := rest }
  | .create _ :: rest => { thread with todo := rest }
  | .stop _ :: rest => { thread with todo := rest }
  | .join _ :: rest => { thread with todo := rest }
  | .loop k :: rest => if k ∈ stopped then { thread with todo := rest } else thread

/-- The thread that the next step starts. -/
def Thread.created (thread : Thread α κ) : List (Thread α κ) :=
  match thread.todo with
  | .create k :: _ => [⟨some k, [], [.loop k]⟩]
  | _ => []

/-- The loop that the next step stops. -/
def Thread.stops (thread : Thread α κ) : List κ :=
  match thread.todo with
  | .stop k :: _ => [k]
  | _ => []

/-- Something comes in for a call outside, which goes on behind it, or for a
loop that nobody has stopped. -/
def Thread.takes (stopped : List κ) (ops : κ → List (LockOp α κ)) (thread : Thread α κ) :
    Thread α κ :=
  match thread.todo with
  | .outside k :: rest => { thread with todo := ops k ++ .outside k :: rest }
  | .loop k :: rest =>
    if k ∈ stopped then thread else { thread with todo := ops k ++ .loop k :: rest }
  | _ => thread

def Thread.leaves (stopped : List κ) (ops : κ → List (LockOp α κ)) (thread : Thread α κ) :
    Thread α κ :=
  match thread.todo with
  | .loop k :: rest => if k ∈ stopped then thread else { thread with todo := ops k ++ rest }
  | _ => thread

def Thread.woken (thread : Thread α κ) : Thread α κ :=
  match thread.todo with
  | .asleep l :: rest => { thread with todo := .lock l :: .wait l :: rest }
  | _ => thread

/-- The other thread holds the lock that this one takes next, or is the loop
that it joins. -/
def Thread.waitsFor (thread other : Thread α κ) : Bool :=
  match thread.todo with
  | .lock l :: _ => l ∈ other.held
  | .join k :: _ => other.name = some k ∧ other.todo ≠ []
  | _ => false

variable (system : System α κ)

/-- Whether a thread can take its next step. -/
def ready (thread : Thread α κ) : Bool :=
  thread.todo ≠ [] ∧ ∀ other ∈ system.threads, thread.waitsFor other = false

/-- A loop that has nothing to do and that nobody has stopped. -/
def idle (thread : Thread α κ) : Bool :=
  match thread.todo with
  | .loop k :: _ => k ∉ system.stopped
  | _ => false

def turn (t : Nat) : System α κ :=
  match system.threads[t]? with
  | none => system
  | some thread =>
    if ready system thread then
      ⟨system.threads.set t (thread.advance system.stopped) ++ thread.created,
        thread.stops ++ system.stopped⟩
    else system

def change (t : Nat) (f : Thread α κ → Thread α κ) : System α κ :=
  match system.threads[t]? with
  | none => system
  | some thread => { system with threads := system.threads.set t (f thread) }

def stepThreads : ThreadEvent α κ → System α κ
  | .start todo => { system with threads := system.threads ++ [⟨none, [], todo⟩] }
  | .turn t => turn system t
  | .comes t ops => change system t (Thread.takes system.stopped ops)
  | .breaks t ops => change system t (Thread.leaves system.stopped ops)
  | .wakes t => change system t Thread.woken

/-- A lock has one holder at most. -/
def Exclusive : Prop :=
  ∀ (i j : Nat) (a b : Thread α κ) (l : α), system.threads[i]? = some a →
    system.threads[j]? = some b → l ∈ a.held → l ∈ b.held → i = j

def WaitsFor (i j : Nat) : Prop :=
  ∃ thread other, system.threads[i]? = some thread ∧ system.threads[j]? = some other ∧
    thread.waitsFor other = true

def Ready (i : Nat) : Prop := ∃ thread, system.threads[i]? = some thread ∧ ready system thread

end Steps

/-! ## Programs in order -/

section Ordered

variable [DecidableEq α] (rank : α → Nat) (level : κ → Nat)

/-- Where the locks of a thread begin: those of a loop are above its level. -/
def base : Option κ → Nat
  | none => 0
  | some k => level k + 1

def Above (name : Option κ) (held : List α) (n : Nat) : Prop :=
  base level name ≤ n ∧ ∀ h ∈ held, rank h < n

/-- What a thread with some locks has left to do: every lock is above those it
holds, it unlocks only these, and none is left at the end.  It joins the loops
that were stopped, with locks below their level. -/
def Ordered (name : Option κ) : List κ → List α → List (LockOp α κ) → Prop
  | _, held, [] => held = []
  | stopped, held, .lock l :: rest =>
    Above rank level name held (rank l) ∧ Ordered name stopped (l :: held) rest
  | stopped, held, .unlock l :: rest => l ∈ held ∧ Ordered name stopped (held.erase l) rest
  | stopped, held, .wait l :: rest =>
    l ∈ held ∧ Above rank level name (held.erase l) (rank l) ∧
      Ordered name stopped (l :: held.erase l) rest
  | stopped, held, .asleep l :: rest =>
    Above rank level name held (rank l) ∧ Ordered name stopped (l :: held) rest
  | stopped, held, .outside k :: rest =>
    Above rank level name held (level k + 1) ∧ Ordered name stopped held rest
  | stopped, held, .create _ :: rest => Ordered name stopped held rest
  | stopped, held, .stop k :: rest => Ordered name (k :: stopped) held rest
  | stopped, held, .join k :: rest =>
    k ∈ stopped ∧ Above rank level name held (level k) ∧ Ordered name stopped held rest
  | _, held, .loop k :: rest => name = some k ∧ held = [] ∧ rest = []

/-- A part of a program that takes its locks at or above a floor and holds at
its end what it held at its start. -/
def Section (floor : Nat) (ops : List (LockOp α κ)) : Prop :=
  ∀ name stopped held rest, Above rank level name held floor →
    Ordered rank level name stopped held rest → Ordered rank level name stopped held (ops ++ rest)

end Ordered

/-- A part of a program under a lock. -/
def locked (l : α) (ops : List (LockOp α κ)) : List (LockOp α κ) :=
  .lock l :: (ops ++ [.unlock l])

/-- The first lock is given back under the second. -/
def handedOver (first second : α) (ops : List (LockOp α κ)) : List (LockOp α κ) :=
  .lock first :: .lock second :: .unlock first :: (ops ++ [.unlock second])

section Section

variable {rank : α → Nat} {level : κ → Nat} {floor : Nat} {name : Option κ} {held : List α}

theorem Above.mono {m n : Nat} (h : Above rank level name held m) (hle : m ≤ n) :
    Above rank level name held n :=
  ⟨Nat.le_trans h.1 hle, fun l hl => Nat.lt_of_lt_of_le (h.2 l hl) hle⟩

theorem Above.cons {l : α} (h : Above rank level name held (rank l)) :
    Above rank level name (l :: held) (rank l + 1) := by
  refine ⟨Nat.le_succ_of_le h.1, fun k hk => ?_⟩
  rcases List.mem_cons.mp hk with rfl | hk
  · exact Nat.lt_succ_self _
  · exact Nat.lt_succ_of_lt (h.2 k hk)

variable [DecidableEq α] {ops : List (LockOp α κ)}

/-- More loops may be stopped meanwhile. -/
theorem Ordered.mono {stopped more : List κ} (h : Ordered rank level name stopped held ops)
    (hmore : stopped ⊆ more) : Ordered rank level name more held ops := by
  induction ops generalizing stopped more held with
  | nil => exact h
  | cons op rest ih =>
    cases op with
    | lock l => exact ⟨h.1, ih h.2 hmore⟩
    | unlock l => exact ⟨h.1, ih h.2 hmore⟩
    | wait l => exact ⟨h.1, h.2.1, ih h.2.2 hmore⟩
    | asleep l => exact ⟨h.1, ih h.2 hmore⟩
    | outside k => exact ⟨h.1, ih h.2 hmore⟩
    | create k => exact ih h hmore
    | stop k => exact ih h (List.cons_subset_cons k hmore)
    | join k => exact ⟨hmore h.1, h.2.1, ih h.2.2 hmore⟩
    | loop k => exact h

namespace Section

theorem nil : Section rank level floor ([] : List (LockOp α κ)) := fun _ _ _ _ _ h => h

theorem append {more : List (LockOp α κ)} (h : Section rank level floor ops)
    (hmore : Section rank level floor more) : Section rank level floor (ops ++ more) := by
  intro name stopped held rest habove hrest
  rw [List.append_assoc]
  exact h name stopped held _ habove (hmore name stopped held rest habove hrest)

theorem mono {higher : Nat} (h : Section rank level higher ops) (hle : floor ≤ higher) :
    Section rank level floor ops :=
  fun name stopped held rest habove hrest => h name stopped held rest (habove.mono hle) hrest

theorem flatMap {β : Type} {xs : List β} {f : β → List (LockOp α κ)}
    (h : ∀ x ∈ xs, Section rank level floor (f x)) : Section rank level floor (xs.flatMap f) := by
  induction xs with
  | nil => exact nil
  | cons x xs ih =>
    rw [List.flatMap_cons]
    exact (h x List.mem_cons_self).append (ih fun y hy => h y (List.mem_cons_of_mem _ hy))

theorem replicate (n : Nat) (h : Section rank level floor ops) :
    Section rank level floor (List.replicate n ops).flatten := by
  induction n with
  | zero => exact nil
  | succ n ih =>
    rw [List.replicate_succ, List.flatten_cons]
    exact h.append ih

/-- What is done under a lock is above it. -/
theorem locked {l : α} (h : Section rank level (rank l + 1) ops) (hfloor : floor ≤ rank l) :
    Section rank level floor (LockOrder.locked l ops) := by
  intro name stopped held rest habove hrest
  have hbelow : Above rank level name held (rank l) := habove.mono hfloor
  have hopened : Ordered rank level name stopped (l :: held) (.unlock l :: rest) := by
    refine ⟨List.mem_cons_self, ?_⟩
    rw [List.erase_cons_head]
    exact hrest
  refine ⟨hbelow, ?_⟩
  show Ordered rank level name stopped (l :: held) ((ops ++ [.unlock l]) ++ rest)
  rw [List.append_assoc]
  exact h name stopped (l :: held) _ hbelow.cons hopened

theorem handedOver {first second : α} (h : Section rank level (rank second + 1) ops)
    (hfloor : floor ≤ rank first) (hlt : rank first < rank second) :
    Section rank level floor (LockOrder.handedOver first second ops) := by
  intro name stopped held rest habove hrest
  have hne : second ≠ first := fun heq => Nat.lt_irrefl _ (heq ▸ hlt)
  have hfirst : Above rank level name held (rank first) := habove.mono hfloor
  have hsecond : Above rank level name (first :: held) (rank second) := hfirst.cons.mono hlt
  have herase : (second :: first :: held).erase first = second :: held := by
    rw [List.erase_cons_tail (by simpa using hne), List.erase_cons_head]
  have hopened : Ordered rank level name stopped (second :: held) (.unlock second :: rest) := by
    refine ⟨List.mem_cons_self, ?_⟩
    rw [List.erase_cons_head]
    exact hrest
  refine ⟨hfirst, hsecond, List.mem_cons_of_mem _ List.mem_cons_self, ?_⟩
  show Ordered rank level name stopped ((second :: first :: held).erase first)
    ((ops ++ [.unlock second]) ++ rest)
  rw [herase, List.append_assoc]
  refine h name stopped (second :: held) _ ?_ hopened
  exact (hfirst.mono (Nat.le_of_lt hlt)).cons

/-- A condition is waited for under its own lock alone. -/
theorem waited {l : α} (hfloor : floor ≤ rank l) :
    Section rank level floor ([.lock l, .wait l, .unlock l] : List (LockOp α κ)) := by
  intro name stopped held rest habove hrest
  have hbelow : Above rank level name held (rank l) := habove.mono hfloor
  refine ⟨hbelow, List.mem_cons_self, ?_, List.mem_cons_self, ?_⟩
  · rw [List.erase_cons_head]
    exact hbelow
  · rw [List.erase_cons_head, List.erase_cons_head]
    exact hrest

theorem outside (k : κ) :
    Section rank level (level k + 1) ([.outside k] : List (LockOp α κ)) :=
  fun _ _ _ _ habove hrest => ⟨habove, hrest⟩

theorem create (k : κ) : Section rank level floor ([.create k] : List (LockOp α κ)) :=
  fun _ _ _ _ _ hrest => hrest

theorem joined (k : κ) : Section rank level (level k) ([.stop k, .join k] : List (LockOp α κ)) :=
  fun _ _ _ _ habove hrest =>
    ⟨List.mem_cons_self, habove, hrest.mono (List.subset_cons_self _ _)⟩

/-- A section is a program. -/
theorem ordered {stopped : List κ} (h : Section rank level 0 ops) :
    Ordered rank level none stopped [] ops := by
  have hprogram := h none stopped [] [] ⟨Nat.le_refl _, nofun⟩ rfl
  rwa [List.append_nil] at hprogram

end Section

end Section

/-! ## Waiting -/

section Waiting

variable [DecidableEq α] [DecidableEq κ] {rank : α → Nat} {level : κ → Nat}
  {system : System α κ} {thread other : Thread α κ}

/-- The rank of what a thread waits for, if it has to wait. -/
def Thread.wants (rank : α → Nat) (level : κ → Nat) (thread : Thread α κ) : Option Nat :=
  match thread.todo with
  | .lock l :: _ => some (rank l)
  | .join k :: _ => some (level k)
  | _ => none

theorem waitsFor_cases (h : thread.waitsFor other = true) :
    (∃ l rest, thread.todo = .lock l :: rest ∧ l ∈ other.held) ∨
      ∃ k rest, thread.todo = .join k :: rest ∧ other.name = some k ∧ other.todo ≠ [] := by
  unfold Thread.waitsFor at h
  split at h
  · rename_i l rest htodo
    exact .inl ⟨l, rest, htodo, by simpa using h⟩
  · rename_i k rest htodo
    exact .inr ⟨k, rest, htodo, by simpa using h⟩
  · cases h

omit [DecidableEq κ] in
theorem above_wants {n : Nat}
    (h : Ordered rank level thread.name system.stopped thread.held thread.todo)
    (hwants : thread.wants rank level = some n) :
    Above rank level thread.name thread.held n := by
  unfold Thread.wants at hwants
  split at hwants
  · rename_i l rest htodo
    cases hwants
    rw [htodo] at h
    exact h.1
  · rename_i k rest htodo
    cases hwants
    rw [htodo] at h
    exact h.2.1
  · cases hwants

/-- Whoever waits wants less than the thread that it waits for. -/
theorem wants_lt {n : Nat} (h : thread.waitsFor other = true)
    (hother : Ordered rank level other.name system.stopped other.held other.todo)
    (hwants : other.wants rank level = some n) :
    ∃ m, thread.wants rank level = some m ∧ m < n := by
  have habove := above_wants hother hwants
  rcases waitsFor_cases h with ⟨l, rest, htodo, hheld⟩ | ⟨k, rest, htodo, hname, -⟩
  · refine ⟨rank l, ?_, habove.2 l hheld⟩
    rw [Thread.wants, htodo]
  · refine ⟨level k, ?_, ?_⟩
    · rw [Thread.wants, htodo]
    · have hbase := habove.1
      rw [hname] at hbase
      exact hbase

theorem wants_of_waitsFor (h : thread.waitsFor other = true) :
    ∃ n, thread.wants rank level = some n := by
  rcases waitsFor_cases h with ⟨l, rest, htodo, -⟩ | ⟨k, rest, htodo, -⟩
  · exact ⟨rank l, by rw [Thread.wants, htodo]⟩
  · exact ⟨level k, by rw [Thread.wants, htodo]⟩

theorem todo_of_waitsFor (h : thread.waitsFor other = true)
    (hother : Ordered rank level other.name system.stopped other.held other.todo) :
    other.todo ≠ [] := by
  rcases waitsFor_cases h with ⟨l, rest, -, hheld⟩ | ⟨k, rest, -, -, hleft⟩
  · intro hnil
    rw [hnil] at hother
    have hnone : other.held = [] := hother
    rw [hnone] at hheld
    cases hheld
  · exact hleft

theorem not_ready (htodo : thread.todo ≠ []) (h : ready system thread = false) :
    ∃ other ∈ system.threads, thread.waitsFor other = true := by
  simpa [ready, htodo] using h

theorem todo_of_ready (h : ready system thread = true) :
    thread.todo ≠ [] ∧ ∀ other ∈ system.threads, thread.waitsFor other = false := by
  simpa [ready] using h

/-- Every thread of a system is within an ordered program. -/
def AllOrdered (rank : α → Nat) (level : κ → Nat) (system : System α κ) : Prop :=
  ∀ thread ∈ system.threads,
    Ordered rank level thread.name system.stopped thread.held thread.todo

theorem wants_lt_of_transGen (h : AllOrdered rank level system) {i j : Nat}
    (hwaits : Relation.TransGen (WaitsFor system) i j) :
    ∀ other n, system.threads[j]? = some other → other.wants rank level = some n →
      ∃ thread m, system.threads[i]? = some thread ∧ thread.wants rank level = some m ∧ m < n := by
  induction hwaits with
  | single hlast =>
    intro other n hother hwants
    obtain ⟨thread, other', hthread, hother', hfor⟩ := hlast
    cases hother.symm.trans hother'
    obtain ⟨m, hm, hlt⟩ := wants_lt hfor (h other (List.mem_of_getElem? hother)) hwants
    exact ⟨thread, m, hthread, hm, hlt⟩
  | tail _ hlast ih =>
    intro other n hother hwants
    obtain ⟨between, other', hbetween, hother', hfor⟩ := hlast
    cases hother.symm.trans hother'
    obtain ⟨m, hm, hlt⟩ := wants_lt hfor (h other (List.mem_of_getElem? hother)) hwants
    obtain ⟨thread, k, hthread, hk, hless⟩ := ih between m hbetween hm
    exact ⟨thread, k, hthread, hk, Nat.lt_trans hless hlt⟩

/-- No thread waits for itself, not even through others. -/
theorem no_circle (h : AllOrdered rank level system) (i : Nat) :
    ¬Relation.TransGen (WaitsFor system) i i := by
  intro hcircle
  obtain ⟨j, hfirst, -⟩ := Relation.TransGen.head'_iff.mp hcircle
  obtain ⟨thread, other, hthread, -, hfor⟩ := hfirst
  obtain ⟨n, hn⟩ : ∃ n, thread.wants rank level = some n := wants_of_waitsFor hfor
  obtain ⟨thread', m, hthread', hm, hlt⟩ := wants_lt_of_transGen h hcircle thread n hthread hn
  cases hthread.symm.trans hthread'
  cases hn.symm.trans hm
  exact Nat.lt_irrefl _ hlt

omit [DecidableEq α] [DecidableEq κ] in
theorem wants_le_sum {n : Nat} (hmem : thread ∈ system.threads)
    (hwants : thread.wants rank level = some n) :
    n ≤ (system.threads.filterMap (Thread.wants rank level)).sum :=
  List.single_le_sum (fun _ _ => Nat.zero_le _) n
    (List.mem_filterMap.mpr ⟨thread, hmem, hwants⟩)

/-- A thread with something left to do can go on, or waits in the end for one
that can. -/
theorem exists_ready (h : AllOrdered rank level system) {i : Nat}
    (hthread : system.threads[i]? = some thread) (htodo : thread.todo ≠ []) :
    ∃ j, Relation.ReflTransGen (WaitsFor system) i j ∧ Ready system j := by
  -- the rank of what is waited for goes up from thread to thread, and is bounded
  induction hleft : (system.threads.filterMap (Thread.wants rank level)).sum -
      (thread.wants rank level).getD 0 using Nat.strong_induction_on generalizing i thread with
  | _ left ih =>
  cases hready : ready system thread with
  | true => exact ⟨i, .refl, thread, hthread, hready⟩
  | false =>
    obtain ⟨other, hother, hfor⟩ := not_ready htodo hready
    obtain ⟨j, hj⟩ := List.mem_iff_getElem?.mp hother
    have hwaits : WaitsFor system i j := ⟨thread, other, hthread, hj, hfor⟩
    have hordered := h other hother
    cases hnext : ready system other with
    | true => exact ⟨j, .single hwaits, other, hj, hnext⟩
    | false =>
      obtain ⟨third, -, hthird⟩ := not_ready (todo_of_waitsFor hfor hordered) hnext
      obtain ⟨n, hn⟩ : ∃ n, other.wants rank level = some n := wants_of_waitsFor hthird
      obtain ⟨m, hm, hlt⟩ := wants_lt hfor hordered hn
      have hbound := wants_le_sum hother hn
      have hless : (system.threads.filterMap (Thread.wants rank level)).sum -
          (other.wants rank level).getD 0 < left := by
        rw [← hleft, hn, hm, Option.getD_some, Option.getD_some]
        omega
      obtain ⟨k, hchain, hk⟩ := ih _ hless hj (todo_of_waitsFor hfor hordered) rfl
      exact ⟨k, .head hwaits hchain, hk⟩

end Waiting

/-! ## What a run keeps -/

section Invariant

variable [DecidableEq α] [DecidableEq κ] {rank : α → Nat} {level : κ → Nat}
  {system : System α κ} {thread : Thread α κ} {stopped : List κ}

/-- What the threads of a run keep. -/
structure ThreadsInv (rank : α → Nat) (level : κ → Nat) (system : System α κ) : Prop where
  ordered : AllOrdered rank level system
  exclusive : Exclusive system

/-- The programs that are started, or come in, are sections. -/
def InOrder (rank : α → Nat) (level : κ → Nat) : ThreadEvent α κ → Prop
  | .start todo => Section rank level 0 todo
  | .comes _ ops | .breaks _ ops => ∀ k, Section rank level (level k + 1) (ops k)
  | .turn _ | .wakes _ => True

theorem advance_name (stopped : List κ) (thread : Thread α κ) :
    (thread.advance stopped).name = thread.name := by
  unfold Thread.advance
  split
  all_goals first | rfl | skip
  split
  · rfl
  · rfl

theorem advance_ordered (h : Ordered rank level thread.name stopped thread.held thread.todo) :
    Ordered rank level thread.name (thread.stops ++ stopped) (thread.advance stopped).held
      (thread.advance stopped).todo := by
  obtain ⟨name, held, todo⟩ := thread
  cases todo with
  | nil => exact h
  | cons op rest =>
    cases op with
    | lock l => exact h.2
    | unlock l => exact h.2
    | wait l => exact h.2
    | asleep l => exact h
    | outside k => exact h.2
    | create k => exact h
    | stop k => exact h
    | join k => exact h.2.2
    | loop k =>
      obtain ⟨hname, hheld, hrest⟩ := h
      simp only [Thread.advance, Thread.stops, List.nil_append]
      split
      · rw [hrest]
        exact hheld
      · exact ⟨hname, hheld, hrest⟩

/-- What a thread holds behind its next step. -/
theorem mem_advance {l : α} (hl : l ∈ (thread.advance stopped).held) :
    l ∈ thread.held ∨ ∃ rest, thread.todo = .lock l :: rest := by
  obtain ⟨name, held, todo⟩ := thread
  cases todo with
  | nil => exact .inl hl
  | cons op rest =>
    cases op with
    | lock k =>
      rcases List.mem_cons.mp hl with rfl | hl
      · exact .inr ⟨rest, rfl⟩
      · exact .inl hl
    | unlock k => exact .inl (List.mem_of_mem_erase hl)
    | wait k => exact .inl (List.mem_of_mem_erase hl)
    | loop k =>
      simp only [Thread.advance] at hl
      split at hl
      · exact .inl hl
      · exact .inl hl
    | asleep k => exact .inl hl
    | outside k => exact .inl hl
    | create k => exact .inl hl
    | stop k => exact .inl hl
    | join k => exact .inl hl

omit [DecidableEq α] [DecidableEq κ] in
theorem mem_created {other : Thread α κ} (h : other ∈ thread.created) :
    ∃ k, other = ⟨some k, [], [.loop k]⟩ := by
  unfold Thread.created at h
  split at h
  · rename_i k rest htodo
    exact ⟨k, List.mem_singleton.mp h⟩
  · cases h

omit [DecidableEq α] in
theorem takes_held (stopped : List κ) (ops : κ → List (LockOp α κ)) (thread : Thread α κ) :
    (thread.takes stopped ops).name = thread.name ∧
      (thread.takes stopped ops).held = thread.held := by
  unfold Thread.takes
  split
  · exact ⟨rfl, rfl⟩
  · split
    · exact ⟨rfl, rfl⟩
    · exact ⟨rfl, rfl⟩
  · exact ⟨rfl, rfl⟩

theorem takes_ordered {ops : κ → List (LockOp α κ)}
    (hops : ∀ k, Section rank level (level k + 1) (ops k))
    (h : Ordered rank level thread.name stopped thread.held thread.todo) :
    Ordered rank level thread.name stopped thread.held (thread.takes stopped ops).todo := by
  unfold Thread.takes
  split
  · rename_i k rest htodo
    rw [htodo] at h
    exact hops k _ _ _ _ h.1 h
  · rename_i k rest htodo
    split
    · exact h
    · rw [htodo] at h
      refine hops k _ _ _ _ ⟨?_, ?_⟩ h
      · rw [h.1]
        exact Nat.le_refl _
      · rw [h.2.1]
        exact nofun
  · exact h

omit [DecidableEq α] in
theorem leaves_held (stopped : List κ) (ops : κ → List (LockOp α κ)) (thread : Thread α κ) :
    (thread.leaves stopped ops).name = thread.name ∧
      (thread.leaves stopped ops).held = thread.held := by
  unfold Thread.leaves
  split
  · split
    · exact ⟨rfl, rfl⟩
    · exact ⟨rfl, rfl⟩
  · exact ⟨rfl, rfl⟩

theorem leaves_ordered {ops : κ → List (LockOp α κ)}
    (hops : ∀ k, Section rank level (level k + 1) (ops k))
    (h : Ordered rank level thread.name stopped thread.held thread.todo) :
    Ordered rank level thread.name stopped thread.held (thread.leaves stopped ops).todo := by
  unfold Thread.leaves
  split
  · rename_i k rest htodo
    split
    · exact h
    · rw [htodo] at h
      obtain ⟨hname, hheld, hrest⟩ := h
      refine hops k _ _ _ _ ⟨?_, ?_⟩ ?_
      · rw [hname]
        exact Nat.le_refl _
      · rw [hheld]
        exact nofun
      · rw [hrest]
        exact hheld
  · exact h

omit [DecidableEq α] [DecidableEq κ] in
theorem woken_held (thread : Thread α κ) :
    thread.woken.name = thread.name ∧ thread.woken.held = thread.held := by
  unfold Thread.woken
  split
  · exact ⟨rfl, rfl⟩
  · exact ⟨rfl, rfl⟩

omit [DecidableEq κ] in
theorem woken_ordered (h : Ordered rank level thread.name stopped thread.held thread.todo) :
    Ordered rank level thread.name stopped thread.held thread.woken.todo := by
  unfold Thread.woken
  split
  · rename_i l rest htodo
    rw [htodo] at h
    obtain ⟨habove, hrest⟩ := h
    refine ⟨habove, List.mem_cons_self, ?_, ?_⟩
    · rw [List.erase_cons_head]
      exact habove
    · rw [List.erase_cons_head]
      exact hrest
  · exact h

omit [DecidableEq κ] in
/-- A thread changes what it has left to do, and neither its name nor its
locks. -/
theorem ThreadsInv.change (h : ThreadsInv rank level system) {t : Nat}
    {f : Thread α κ → Thread α κ}
    (hkept : ∀ thread, (f thread).name = thread.name ∧ (f thread).held = thread.held)
    (hordered : ∀ thread,
      Ordered rank level thread.name system.stopped thread.held thread.todo →
        Ordered rank level thread.name system.stopped thread.held (f thread).todo) :
    ThreadsInv rank level (change system t f) := by
  unfold LockOrder.change
  cases hthread : system.threads[t]? with
  | none => exact h
  | some thread =>
    obtain ⟨hname, hheld⟩ := hkept thread
    constructor
    · intro other hother
      rcases List.mem_or_eq_of_mem_set hother with hmem | rfl
      · exact h.ordered other hmem
      · rw [hname, hheld]
        exact hordered thread (h.ordered thread (List.mem_of_getElem? hthread))
    · -- every lock is where it was
      have hold : ∀ {k : Nat} {c : Thread α κ} {l : α},
          (system.threads.set t (f thread))[k]? = some c → l ∈ c.held →
            ∃ c', system.threads[k]? = some c' ∧ l ∈ c'.held := by
        intro k c l hc hl
        rw [List.getElem?_set] at hc
        split at hc
        · rename_i hk
          split at hc
          · cases hc
            rw [hheld] at hl
            exact ⟨thread, hk ▸ hthread, hl⟩
          · cases hc
        · exact ⟨c, hc, hl⟩
      intro i j a b l ha hb hla hlb
      obtain ⟨a', ha', hla'⟩ := hold ha hla
      obtain ⟨b', hb', hlb'⟩ := hold hb hlb
      exact h.exclusive i j a' b' l ha' hb' hla' hlb'

omit [DecidableEq α] [DecidableEq κ] in
/-- Threads that hold nothing come in. -/
theorem Exclusive.append {threads new : List (Thread α κ)} (h : Exclusive ⟨threads, stopped⟩)
    (hnew : ∀ thread ∈ new, thread.held = []) : Exclusive ⟨threads ++ new, stopped⟩ := by
  have hold : ∀ {k : Nat} {c : Thread α κ} {l : α}, (threads ++ new)[k]? = some c → l ∈ c.held →
      threads[k]? = some c := by
    intro k c l hc hl
    rw [List.getElem?_append] at hc
    split at hc
    · exact hc
    · rw [hnew c (List.mem_of_getElem? hc)] at hl
      cases hl
  intro i j a b l ha hb hla hlb
  exact h i j a b l (hold ha hla) (hold hb hlb) hla hlb

theorem ThreadsInv.start (h : ThreadsInv rank level system) {todo : List (LockOp α κ)}
    (htodo : Section rank level 0 todo) :
    ThreadsInv rank level (stepThreads system (.start todo)) where
  ordered thread hmem := by
    rcases List.mem_append.mp hmem with hmem | hnew
    · exact h.ordered thread hmem
    · rw [List.mem_singleton.mp hnew]
      exact htodo.ordered
  exclusive := by
    refine Exclusive.append h.exclusive fun thread hnew => ?_
    rw [List.mem_singleton.mp hnew]

/-- A turn is a step of its thread, if that can take it. -/
theorem turn_cases (system : System α κ) (t : Nat) :
    turn system t = system ∧
        (∀ thread, system.threads[t]? = some thread → ready system thread = false) ∨
      ∃ thread, system.threads[t]? = some thread ∧ ready system thread = true ∧
        turn system t =
          ⟨system.threads.set t (thread.advance system.stopped) ++ thread.created,
            thread.stops ++ system.stopped⟩ := by
  unfold turn
  cases hthread : system.threads[t]? with
  | none => exact .inl ⟨rfl, nofun⟩
  | some thread =>
    cases hready : ready system thread with
    | false => exact .inl ⟨by simp [hready], by simpa using hready⟩
    | true => exact .inr ⟨thread, rfl, hready, by simp [hready]⟩

/-- A lock of a thread behind its step is held by no other. -/
theorem ThreadsInv.own (h : ThreadsInv rank level system) {t k : Nat} {other : Thread α κ} {l : α}
    (hthread : system.threads[t]? = some thread) (hready : ready system thread = true)
    (hother : system.threads[k]? = some other) (hl : l ∈ other.held)
    (hheld : l ∈ (thread.advance system.stopped).held) : k = t := by
  rcases mem_advance hheld with hheld | ⟨rest, htodo⟩
  · exact h.exclusive k t other thread l hother hthread hl hheld
  · have hnone := (todo_of_ready hready).2 other (List.mem_of_getElem? hother)
    rw [Thread.waitsFor, htodo] at hnone
    exact absurd hl (by simpa using hnone)

theorem ThreadsInv.turn (h : ThreadsInv rank level system) (t : Nat) :
    ThreadsInv rank level (turn system t) := by
  rcases turn_cases system t with ⟨hsame, -⟩ | ⟨thread, hthread, hready, hmoved⟩
  · rw [hsame]
    exact h
  rw [hmoved]
  constructor
  · intro other hother
    rcases List.mem_append.mp hother with hother | hnew
    · rcases List.mem_or_eq_of_mem_set hother with hmem | rfl
      · exact (h.ordered other hmem).mono (List.subset_append_right _ _)
      · rw [advance_name]
        exact advance_ordered (h.ordered thread (List.mem_of_getElem? hthread))
    · obtain ⟨k, rfl⟩ := mem_created hnew
      exact ⟨rfl, rfl, rfl⟩
  · refine Exclusive.append ?_ fun other hnew => ?_
    · intro i j a b l ha hb hla hlb
      rw [List.getElem?_set] at ha hb
      split at ha
      · rename_i hi
        split at hb
        · rename_i hj
          exact hi.symm.trans hj
        · split at ha
          · cases ha
            exact hi.symm.trans (h.own hthread hready hb hlb hla).symm
          · cases ha
      · split at hb
        · rename_i hj
          split at hb
          · cases hb
            exact (h.own hthread hready ha hla hlb).trans hj
          · cases hb
        · exact h.exclusive i j a b l ha hb hla hlb
    · obtain ⟨k, rfl⟩ := mem_created hnew
      rfl

theorem ThreadsInv.step (h : ThreadsInv rank level system) {event : ThreadEvent α κ}
    (hevent : InOrder rank level event) : ThreadsInv rank level (stepThreads system event) := by
  cases event with
  | start todo => exact h.start hevent
  | turn t => exact h.turn t
  | comes t ops => exact h.change (takes_held _ ops) fun _ => takes_ordered hevent
  | breaks t ops => exact h.change (leaves_held _ ops) fun _ => leaves_ordered hevent
  | wakes t => exact h.change woken_held fun _ => woken_ordered

theorem run_threadsInv {events : List (ThreadEvent α κ)}
    (hevents : ∀ event ∈ events, InOrder rank level event) (h : ThreadsInv rank level system) :
    ThreadsInv rank level (run stepThreads system events) := by
  induction events generalizing system with
  | nil => exact h
  | cons event events ih =>
    refine ih (fun later hlater => hevents later (List.mem_cons_of_mem _ hlater)) ?_
    exact h.step (hevents event List.mem_cons_self)

omit [DecidableEq κ] in
theorem threadsInv_nil : ThreadsInv rank level (⟨[], []⟩ : System α κ) where
  ordered := nofun
  exclusive := nofun

end Invariant

/-! ## Every thread comes to its end -/

section Ending

variable [DecidableEq α] [DecidableEq κ]

/-- How many steps an operation is worth.  To start a loop is worth more than
the loop, and a loop that is stopped less than one that is not. -/
def cost (stopped : List κ) : LockOp α κ → Nat
  | .lock _ | .unlock _ | .outside _ | .stop _ | .join _ => 1
  | .asleep _ => 2
  | .wait _ | .create _ => 3
  | .loop k => if k ∈ stopped then 1 else 2

def Thread.left (stopped : List κ) (thread : Thread α κ) : Nat :=
  (thread.todo.map (cost stopped)).sum

/-- The steps that are left, when nothing comes in. -/
def remaining (system : System α κ) : Nat :=
  (system.threads.map (Thread.left system.stopped)).sum

/-- A thread that can take a step and is not just at its loop. -/
def Active (system : System α κ) (thread : Thread α κ) : Prop :=
  ready system thread = true ∧ idle system thread = false

def turns (ts : List Nat) : List (ThreadEvent α κ) := ts.map .turn

/-- In a round each thread has a turn, and maybe more than one. -/
def Round (n : Nat) (ts : List Nat) : Prop := ∀ t < n, t ∈ ts

/-- In each round the threads that there are at its start have their turns. -/
def Rounds : System α κ → List (List Nat) → Prop
  | _, [] => True
  | system, ts :: rounds =>
    Round system.threads.length ts ∧ Rounds (run stepThreads system (turns ts)) rounds

instance decidableRounds : ∀ (system : System α κ) rounds, Decidable (Rounds system rounds)
  | _, [] => inferInstanceAs (Decidable True)
  | system, ts :: rounds =>
    have := decidableRounds (run stepThreads system (turns ts)) rounds
    inferInstanceAs (Decidable ((∀ t < system.threads.length, t ∈ ts) ∧
      Rounds (run stepThreads system (turns ts)) rounds))

variable {rank : α → Nat} {level : κ → Nat} {system : System α κ} {thread : Thread α κ}
  {stopped more : List κ}

omit [DecidableEq α] in
theorem cost_le (hmore : stopped ⊆ more) (op : LockOp α κ) : cost more op ≤ cost stopped op := by
  cases op with
  | loop k =>
    simp only [cost]
    by_cases hk : k ∈ stopped
    · rw [if_pos hk, if_pos (hmore hk)]
    · rw [if_neg hk]
      split
      · omega
      · exact Nat.le_refl _
  | lock l => exact Nat.le_refl _
  | unlock l => exact Nat.le_refl _
  | wait l => exact Nat.le_refl _
  | asleep l => exact Nat.le_refl _
  | outside k => exact Nat.le_refl _
  | create k => exact Nat.le_refl _
  | stop k => exact Nat.le_refl _
  | join k => exact Nat.le_refl _

omit [DecidableEq α] in
theorem left_le (hmore : stopped ⊆ more) (thread : Thread α κ) :
    thread.left more ≤ thread.left stopped :=
  List.sum_le_sum fun op _ => cost_le hmore op

omit [DecidableEq α] in
theorem remaining_le (hmore : stopped ⊆ more) (threads : List (Thread α κ)) :
    remaining ⟨threads, more⟩ ≤ remaining ⟨threads, stopped⟩ :=
  List.sum_le_sum fun thread _ => left_le hmore thread

omit [DecidableEq α] in
theorem left_loop_le (k : κ) : Thread.left stopped (⟨some k, [], [.loop k]⟩ : Thread α κ) ≤ 2 := by
  simp only [Thread.left, List.map_cons, List.map_nil, List.sum_cons, List.sum_nil, cost]
  split
  · omega
  · omega

/-- A step leaves less, with what it starts. -/
theorem left_advance (htodo : thread.todo ≠ []) (hidle : idle system thread = false) :
    (thread.advance system.stopped).left system.stopped +
        (thread.created.map (Thread.left system.stopped)).sum <
      thread.left system.stopped := by
  obtain ⟨name, held, todo⟩ := thread
  cases todo with
  | nil => exact absurd rfl htodo
  | cons op rest =>
    rw [Thread.left, Thread.left, List.map_cons, List.sum_cons]
    cases op with
    | lock l => simp [Thread.advance, Thread.created, cost]
    | unlock l => simp [Thread.advance, Thread.created, cost]
    | wait l => simp [Thread.advance, Thread.created, cost]
    | asleep l => simp [Thread.advance, Thread.created, cost]
    | outside k => simp [Thread.advance, Thread.created, cost]
    | stop k => simp [Thread.advance, Thread.created, cost]
    | join k => simp [Thread.advance, Thread.created, cost]
    | create k =>
      have hloop : Thread.left system.stopped (⟨some k, [], [.loop k]⟩ : Thread α κ) ≤ 2 :=
        left_loop_le k
      simp only [Thread.advance, Thread.created, List.map_cons, List.map_nil, List.sum_cons,
        List.sum_nil, cost]
      omega
    | loop k =>
      have hstopped : k ∈ system.stopped := by simpa [idle] using hidle
      simp [Thread.advance, Thread.created, cost, hstopped]

omit [DecidableEq α] in
theorem remaining_set {threads : List (Thread α κ)} {t : Nat} {after : Thread α κ}
    (hthread : threads[t]? = some thread) :
    remaining ⟨threads.set t after, stopped⟩ + thread.left stopped =
      remaining ⟨threads, stopped⟩ + after.left stopped := by
  induction threads generalizing t with
  | nil => cases hthread
  | cons first rest ih =>
    cases t with
    | zero =>
      cases hthread
      simp only [remaining, List.set_cons_zero, List.map_cons, List.sum_cons]
      omega
    | succ t =>
      have hrest := ih hthread
      simp only [remaining, List.set_cons_succ, List.map_cons, List.sum_cons] at hrest ⊢
      omega

/-- A loop that has nothing to do stays where it is. -/
theorem advance_idle (hidle : idle system thread = true) :
    thread.advance system.stopped = thread ∧ thread.created = [] ∧ thread.stops = [] := by
  unfold idle at hidle
  split at hidle
  · rename_i k rest htodo
    have hrunning : k ∉ system.stopped := by simpa using hidle
    simp [Thread.advance, Thread.created, Thread.stops, htodo, hrunning]
  · cases hidle

/-- A turn changes nothing, or it is a step of an active thread and leaves
less. -/
theorem turn_active (system : System α κ) (t : Nat) :
    turn system t = system ∧
        (∀ thread, system.threads[t]? = some thread → ¬Active system thread) ∨
      ∃ thread, system.threads[t]? = some thread ∧ Active system thread ∧
        remaining (turn system t) < remaining system := by
  rcases turn_cases system t with ⟨hsame, hblocked⟩ | ⟨thread, hthread, hready, hmoved⟩
  · refine .inl ⟨hsame, fun thread hthread hactive => ?_⟩
    have hready := hblocked thread hthread
    rw [hactive.1] at hready
    cases hready
  cases hidle : idle system thread with
  | true =>
    refine .inl ⟨?_, fun other hother hactive => ?_⟩
    · obtain ⟨hstays, hcreated, hstops⟩ := advance_idle hidle
      obtain ⟨hlt, hget⟩ := List.getElem?_eq_some_iff.mp hthread
      rw [hmoved, hstays, hcreated, hstops, List.append_nil, List.nil_append, ← hget,
        List.set_getElem_self]
    · cases hthread.symm.trans hother
      have hbusy := hactive.2
      rw [hidle] at hbusy
      cases hbusy
  | false =>
    refine .inr ⟨thread, hthread, ⟨hready, hidle⟩, ?_⟩
    have hleft := left_advance (todo_of_ready hready).1 hidle
    have hset : remaining ⟨system.threads.set t (thread.advance system.stopped), system.stopped⟩ +
        thread.left system.stopped = _ := remaining_set hthread
    have hmono := remaining_le (List.subset_append_right thread.stops system.stopped)
      (system.threads.set t (thread.advance system.stopped) ++ thread.created)
    rw [hmoved]
    refine Nat.lt_of_le_of_lt hmono ?_
    simp only [remaining, List.map_append, List.sum_append] at hset ⊢
    omega

theorem remaining_turn_le (system : System α κ) (t : Nat) :
    remaining (turn system t) ≤ remaining system := by
  rcases turn_active system t with ⟨hsame, -⟩ | ⟨thread, -, -, hless⟩
  · rw [hsame]
  · exact Nat.le_of_lt hless

theorem remaining_turns_le (system : System α κ) (ts : List Nat) :
    remaining (run stepThreads system (turns ts)) ≤ remaining system := by
  induction ts generalizing system with
  | nil => exact Nat.le_refl _
  | cons t ts ih => exact Nat.le_trans (ih _) (remaining_turn_le system t)

/-- If an active thread gets a turn, some thread takes a step. -/
theorem remaining_turns_lt {t : Nat} {ts : List Nat} (hthread : system.threads[t]? = some thread)
    (hactive : Active system thread) (ht : t ∈ ts) :
    remaining (run stepThreads system (turns ts)) < remaining system := by
  induction ts with
  | nil => cases ht
  | cons u ts ih =>
    show remaining (run stepThreads (turn system u) (turns ts)) < remaining system
    rcases turn_active system u with ⟨hsame, hnone⟩ | ⟨other, -, -, hless⟩
    · rcases List.mem_cons.mp ht with rfl | ht
      · exact absurd hactive (hnone thread hthread)
      · rw [hsame]
        exact ih ht
    · exact Nat.lt_of_le_of_lt (remaining_turns_le (turn system u) ts) hless

theorem idle_cases (h : ThreadsInv rank level system) (hmem : thread ∈ system.threads)
    (hidle : idle system thread = true) :
    thread.held = [] ∧ ∃ k, thread.name = some k ∧ thread.todo = [.loop k] ∧
      k ∉ system.stopped := by
  have hordered := h.ordered thread hmem
  unfold idle at hidle
  split at hidle
  · rename_i k rest htodo
    rw [htodo] at hordered
    obtain ⟨hname, hheld, hrest⟩ := hordered
    refine ⟨hheld, k, hname, ?_, by simpa using hidle⟩
    rw [htodo, hrest]
  · cases hidle

/-- No thread waits for a loop that has nothing to do: it holds nothing, and
who joins it has stopped it. -/
theorem not_waitsFor_idle (h : ThreadsInv rank level system) {other : Thread α κ}
    (hthread : thread ∈ system.threads) (hother : other ∈ system.threads)
    (hidle : idle system other = true) : thread.waitsFor other = false := by
  obtain ⟨hheld, k, hname, -, hrunning⟩ := idle_cases h hother hidle
  rw [Bool.eq_false_iff]
  intro hwaits
  rcases waitsFor_cases hwaits with ⟨l, rest, -, hl⟩ | ⟨k', rest, htodo, hname', -⟩
  · rw [hheld] at hl
    cases hl
  · cases hname.symm.trans hname'
    have hordered := h.ordered thread hthread
    rw [htodo] at hordered
    exact hrunning hordered.1

/-- While a thread has something left to do other than to stand at its loop,
some thread is active. -/
theorem exists_active (h : ThreadsInv rank level system) (hmem : thread ∈ system.threads)
    (htodo : thread.todo ≠ []) (hbusy : idle system thread = false) :
    ∃ (t : Nat) (other : Thread α κ), system.threads[t]? = some other ∧ Active system other := by
  obtain ⟨i, hi⟩ := List.mem_iff_getElem?.mp hmem
  obtain ⟨j, hchain, other, hj, hready⟩ := exists_ready h.ordered hi htodo
  refine ⟨j, other, hj, hready, ?_⟩
  rcases Relation.ReflTransGen.cases_tail hchain with rfl | ⟨k, -, waiting, last, hk, hlast, hfor⟩
  · cases hi.symm.trans hj
    exact hbusy
  · cases hj.symm.trans hlast
    rw [Bool.eq_false_iff]
    intro hidle
    rw [not_waitsFor_idle h (List.mem_of_getElem? hk) (List.mem_of_getElem? hj) hidle] at hfor
    cases hfor

omit [DecidableEq κ] in
theorem inOrder_turns (ts : List Nat) :
    ∀ event ∈ turns ts, InOrder rank level (event : ThreadEvent α κ) := by
  intro event hevent
  obtain ⟨t, -, rfl⟩ := List.mem_map.mp hevent
  trivial

/-- A thread at its end, or a loop that nobody has stopped, at its head. -/
def Done (system : System α κ) (thread : Thread α κ) : Prop :=
  thread.held = [] ∧
    (thread.todo = [] ∨ ∃ k, thread.name = some k ∧ thread.todo = [.loop k] ∧ k ∉ system.stopped)

/-- A thread that is not done leaves one that is active. -/
theorem done_or_active (h : ThreadsInv rank level system) :
    (∀ thread ∈ system.threads, Done system thread) ∨
      ∃ (t : Nat) (other : Thread α κ),
        system.threads[t]? = some other ∧ Active system other := by
  by_cases hall : ∀ thread ∈ system.threads, Done system thread
  · exact .inl hall
  · right
    push Not at hall
    obtain ⟨thread, hmem, hnot⟩ := hall
    refine exists_active h hmem (fun hnil => hnot ⟨?_, .inl hnil⟩) ?_
    · have hordered := h.ordered thread hmem
      rw [hnil] at hordered
      exact hordered
    · rw [Bool.eq_false_iff]
      intro hidle
      obtain ⟨hheld, hloop⟩ := idle_cases h hmem hidle
      exact hnot ⟨hheld, .inr hloop⟩

theorem Done.not_active (h : Done system thread) : ¬Active system thread := by
  rintro ⟨hready, hbusy⟩
  rcases h.2 with hnil | ⟨k, -, hloop, hrunning⟩
  · exact (todo_of_ready hready).1 hnil
  · simp [idle, hloop, hrunning] at hbusy

/-- When all are done, turns change nothing. -/
theorem turns_done (h : ∀ thread ∈ system.threads, Done system thread) (ts : List Nat) :
    run stepThreads system (turns ts) = system := by
  induction ts with
  | nil => rfl
  | cons t ts ih =>
    show run stepThreads (turn system t) (turns ts) = system
    rcases turn_active system t with ⟨hsame, -⟩ | ⟨thread, hthread, hactive, -⟩
    · rw [hsame]
      exact ih
    · exact absurd hactive (h thread (List.mem_of_getElem? hthread)).not_active

/-- When nothing comes in, and as many rounds have passed as there are steps
left, every thread is done. -/
theorem run_finishes (h : ThreadsInv rank level system) {rounds : List (List Nat)}
    (hrounds : Rounds system rounds) (hmany : remaining system ≤ rounds.length) :
    ∀ thread ∈ (run stepThreads system (turns rounds.flatten)).threads,
      Done (run stepThreads system (turns rounds.flatten)) thread := by
  induction rounds generalizing system with
  | nil =>
    rcases done_or_active h with hdone | ⟨t, other, hother, hactive⟩
    · exact hdone
    · have hless := remaining_turns_lt hother hactive (List.mem_singleton.mpr rfl)
      rw [List.length_nil] at hmany
      omega
  | cons ts rounds ih =>
    rcases done_or_active h with hdone | ⟨t, other, hother, hactive⟩
    · rw [turns_done hdone]
      exact hdone
    · have hsplit : turns (α := α) (κ := κ) (ts :: rounds).flatten =
          turns ts ++ turns rounds.flatten := by
        rw [turns, List.flatten_cons, List.map_append]
        rfl
      have hturn : t ∈ ts := hrounds.1 t (List.getElem?_eq_some_iff.mp hother).1
      have hless := remaining_turns_lt hother hactive hturn
      rw [List.length_cons] at hmany
      rw [hsplit, run_append]
      exact ih (run_threadsInv (inOrder_turns ts) h) hrounds.2 (by omega)

end Ending

end LockOrder
