import CriticalCss.Browser.Pool
import Mathlib.Data.List.Nodup

/-! Slots under every interleaving.

Any number of calls can be under way at once. Between two points where a call has to wait, what it
does to the slots is done in one step, so a schedule is a sequence of such steps in any order.
Launching and closing do not touch the slots; what they do, how long they take and what happens to
the browsers meanwhile is left open. What the invariant says is kept by every step, so it holds at
every moment of every schedule: each slot is free, or a page is open on it, or somebody holds it who
has no page yet.
-/

namespace CriticalCss.Browser

--------------------------------------------------------------------------------
-- Schedules
--------------------------------------------------------------------------------

/-- A pool, and who has gone on with a slot and waits for a page to be opened. -/
structure Scene where
  pool : Pool
  opening : List Profile := []

/-- The slots of two pools are used in the same way. -/
structure Pool.SameSlots (pool other : Pool) : Prop where
  free : other.free = pool.free
  queue : other.queue = pool.queue
  woken : other.woken = pool.woken
  openPages : other.openPages = pool.openPages

/-- Whoever goes on with a slot gives the next one to the first in the queue, if one is free. -/
def Pool.wakeIfFree (pool : Pool) : Pool :=
  if 0 < pool.free then pool.wakeNext else pool

/-- What can happen to the slots next. -/
inductive Step : Scene → Scene → Prop where
  /-- Something happens that is not about slots: a launch, a closing, the loss of a connection. -/
  | beside {scene : Scene} {other : Pool} (same : scene.pool.SameSlots other)
      : Step scene { scene with pool := other }
  /-- Somebody asks for a slot and has to queue up. -/
  | queueUp {scene : Scene} (profile : Profile) (full : scene.pool.isFull = true)
      : Step scene
          { scene with pool := { scene.pool with queue := scene.pool.queue ++ [profile] } }
  /-- Somebody asks for a slot and gets one. -/
  | take {scene : Scene} (profile : Profile) (vacant : scene.pool.isFull = false)
      : Step scene
          { pool := { scene.pool with free := scene.pool.free - 1 }
            opening := scene.opening ++ [profile] }
  /-- The first who has been given a slot goes on with it. -/
  | resume {scene : Scene} {profile : Profile} {rest : List Profile}
      (found : scene.pool.woken = profile :: rest)
      : Step scene
          { pool := { scene.pool with woken := rest }.wakeIfFree
            opening := scene.opening ++ [profile] }
  /-- A page is opened that has not been opened before. -/
  | opened {scene : Scene} {profile : Profile} (page : Page) (waits : profile ∈ scene.opening)
      (new : page ∉ scene.pool.openPages)
      : Step scene
          { pool := { scene.pool with openPages := scene.pool.openPages ++ [page] }
            opening := scene.opening.erase profile }
  /-- A page cannot be opened, or whoever waits for it is cut off. -/
  | failed {scene : Scene} {profile : Profile} (waits : profile ∈ scene.opening)
      : Step scene
          { pool := scene.pool.giveBack, opening := scene.opening.erase profile }
  /-- The slot of an open page is given back. -/
  | release {scene : Scene} {page : Page} (isOpen : page ∈ scene.pool.openPages)
      : Step scene
          { scene with
            pool :=
              { scene.pool with openPages := scene.pool.openPages.erase page }.giveBack }
  /-- Somebody in the queue is cut off. -/
  | leave {scene : Scene} (profile : Profile)
      : Step scene
          { scene with pool := { scene.pool with queue := scene.pool.queue.erase profile } }
  /-- Somebody is cut off who has been given a slot and has not gone on yet. -/
  | resign {scene : Scene} {profile : Profile} (waits : profile ∈ scene.pool.woken)
      : Step scene
          { scene with
            pool := { scene.pool with woken := scene.pool.woken.erase profile }.giveBack }

/-- The scenes that a pool with the slots of a configuration can come to. -/
inductive Moment (config : Config) : Scene → Prop where
  | fresh (engine : Engine) (log : List Event)
      : Moment config { pool := Pool.fresh config engine log }
  | next {scene next : Scene} (moment : Moment config scene) (step : Step scene next)
      : Moment config next

--------------------------------------------------------------------------------
-- Waking and giving back
--------------------------------------------------------------------------------

namespace Pool

section Waking

variable (pool : Pool)

@[simp] theorem wakeNext_openPages : pool.wakeNext.openPages = pool.openPages := by
  unfold wakeNext
  split <;> rfl

/-- Somebody who is woken still waits. -/
@[simp] theorem wakeNext_waiting : pool.wakeNext.waiting = pool.waiting := by
  unfold wakeNext waiting
  split
  · rfl
  · rename_i queued
    simp only [queued, List.length_append, List.length_cons, List.length_nil]
    omega

/-- A free slot is passed on or stays free. -/
theorem wakeNext_slots (vacant : 0 < pool.free)
    : pool.wakeNext.free + pool.wakeNext.woken.length = pool.free + pool.woken.length := by
  unfold wakeNext
  split
  · rfl
  · simp only [List.length_append, List.length_singleton]
    omega

/-- Where somebody queues, somebody is woken. -/
theorem wakeNext_woken_ne_nil (queued : pool.queue ≠ []) : pool.wakeNext.woken ≠ [] := by
  unfold wakeNext
  split
  · contradiction
  · simp

/-- The queue only gets shorter. -/
theorem queue_ne_nil_of_wakeNext (queued : pool.wakeNext.queue ≠ []) : pool.queue ≠ [] := by
  unfold wakeNext at queued
  split at queued
  · exact queued
  · simp_all

@[simp] theorem giveBack_openPages : pool.giveBack.openPages = pool.openPages :=
  wakeNext_openPages _

@[simp] theorem giveBack_waiting : pool.giveBack.waiting = pool.waiting :=
  wakeNext_waiting _

/-- A slot that is given back is there again. -/
theorem giveBack_slots
    : pool.giveBack.free + pool.giveBack.woken.length = pool.free + pool.woken.length + 1 := by
  have := wakeNext_slots { pool with free := pool.free + 1 } (Nat.succ_pos _)
  unfold giveBack
  dsimp only at this ⊢
  omega

/-- When a slot has been given back, nobody queues unless somebody goes on. -/
theorem giveBack_woken_ne_nil (queued : pool.giveBack.queue ≠ []) : pool.giveBack.woken ≠ [] :=
  wakeNext_woken_ne_nil _ (queue_ne_nil_of_wakeNext _ queued)

@[simp] theorem wakeIfFree_openPages : pool.wakeIfFree.openPages = pool.openPages := by
  unfold wakeIfFree
  split
  · exact wakeNext_openPages pool
  · rfl

@[simp] theorem wakeIfFree_waiting : pool.wakeIfFree.waiting = pool.waiting := by
  unfold wakeIfFree
  split
  · exact wakeNext_waiting pool
  · rfl

theorem wakeIfFree_slots
    : pool.wakeIfFree.free + pool.wakeIfFree.woken.length = pool.free + pool.woken.length := by
  unfold wakeIfFree
  split
  · exact wakeNext_slots pool ‹_›
  · rfl

/-- Nobody queues beside a free slot unless somebody goes on. -/
theorem wakeIfFree_vacant (queued : pool.wakeIfFree.queue ≠ [])
    : pool.wakeIfFree.free = 0 ∨ pool.wakeIfFree.woken ≠ [] := by
  unfold wakeIfFree at queued ⊢
  split
  · rename_i vacant
    rw [if_pos vacant] at queued
    exact .inr (wakeNext_woken_ne_nil pool (queue_ne_nil_of_wakeNext pool queued))
  · exact .inl (by omega)

end Waking

end Pool

--------------------------------------------------------------------------------
-- Balance
--------------------------------------------------------------------------------

/-- How many hold a slot and have no page yet. -/
def Scene.holders (scene : Scene) : Nat :=
  scene.pool.woken.length + scene.opening.length

/-- No slot is lost and none is there twice; a page is open on one slot only; and nobody queues for
a free slot, unless somebody with a slot is about to go on and to pass it on. -/
structure Scene.Balanced (config : Config) (scene : Scene) : Prop where
  slots : scene.pool.free + scene.pool.openCount + scene.holders = capacity config
  distinct : scene.pool.openPages.Nodup
  passedOn : scene.pool.queue ≠ [] → scene.pool.free = 0 ∨ scene.pool.woken ≠ []

namespace Scene.Balanced

variable {config : Config} {scene next : Scene} {profile : Profile} {page : Page}

/-- In the beginning all slots are free. -/
theorem fresh (engine : Engine) (log : List Event)
    : Scene.Balanced config { pool := Pool.fresh config engine log } where
  slots := rfl
  distinct := List.nodup_nil
  passedOn queued := absurd rfl queued

/-- A slot comes back from somebody who has no page.
Only the count is asked of the scene before, as the slot is on neither side in between.
-/
theorem giveBack {pool : Pool} {opening : List Profile} (distinct : pool.openPages.Nodup)
    (slots
      : pool.free + pool.openCount + (pool.woken.length + opening.length) + 1 = capacity config)
    : Scene.Balanced config { pool := pool.giveBack, opening := opening } where
  slots := by
    have back := pool.giveBack_slots
    simp only [holders, Pool.openCount, Pool.giveBack_openPages] at slots ⊢
    omega
  distinct := by simpa using distinct
  passedOn queued := .inr (pool.giveBack_woken_ne_nil queued)

/-- Whoever finds a slot vacant can take it. -/
theorem take (balanced : scene.Balanced config) (vacant : scene.pool.isFull = false)
    : Scene.Balanced config
        { pool := { scene.pool with free := scene.pool.free - 1 }
          opening := scene.opening ++ [profile] } := by
  obtain ⟨⟨some, queue⟩, -⟩
      : (scene.pool.free ≠ 0 ∧ scene.pool.queue = []) ∧ scene.pool.woken = [] := by
    simpa [Pool.isFull] using vacant
  refine { slots := ?slots, distinct := balanced.distinct, passedOn := ?passedOn }
  case slots =>
    have slots := balanced.slots
    simp only [holders, Pool.openCount, List.length_append, List.length_singleton] at slots ⊢
    omega
  case passedOn => exact fun queued => absurd queue queued

/-- Whoever was woken can go on. -/
theorem resume {rest : List Profile} (balanced : scene.Balanced config)
    (found : scene.pool.woken = profile :: rest)
    : Scene.Balanced config
        { pool := { scene.pool with woken := rest }.wakeIfFree
          opening := scene.opening ++ [profile] } where
  slots := by
    have slots := balanced.slots
    have same := Pool.wakeIfFree_slots { scene.pool with woken := rest }
    simp only [holders, Pool.openCount, Pool.wakeIfFree_openPages, List.length_append, found,
      List.length_cons, List.length_nil] at slots same ⊢
    omega
  distinct := by simpa using balanced.distinct
  passedOn := Pool.wakeIfFree_vacant _

/-- Whoever holds a slot can have a page opened on it. -/
theorem opened (balanced : scene.Balanced config) (waits : profile ∈ scene.opening)
    (new : page ∉ scene.pool.openPages)
    : Scene.Balanced config
        { pool := { scene.pool with openPages := scene.pool.openPages ++ [page] }
          opening := scene.opening.erase profile } where
  slots := by
    have slots := balanced.slots
    have one := List.length_erase_add_one waits
    simp only [holders, Pool.openCount, List.length_append, List.length_singleton] at slots ⊢
    omega
  distinct := List.nodup_append.mpr
    ⟨balanced.distinct, List.nodup_singleton page, fun other member same found => by
      rw [List.mem_singleton.mp found]
      rintro rfl
      exact new member⟩
  passedOn := balanced.passedOn

/-- Every step keeps the balance. -/
theorem step (balanced : scene.Balanced config) (step : Step scene next)
    : next.Balanced config := by
  have slots := balanced.slots
  cases step with
  | @beside other same =>
    obtain ⟨free, queue, woken, openPages⟩ := same
    refine { slots := ?slots, distinct := ?distinct, passedOn := ?passedOn }
    case slots =>
      simpa only [holders, Pool.openCount, free, woken, openPages] using slots
    case distinct => simpa only [openPages] using balanced.distinct
    case passedOn => simpa only [free, queue, woken] using balanced.passedOn
  | queueUp profile full =>
    refine { balanced with passedOn := fun _ => ?passedOn }
    rcases Classical.em (scene.pool.queue = []) with empty | queued
    · have : scene.pool.free = 0 ∨ scene.pool.woken ≠ [] := by
        simpa [Pool.isFull, empty] using full
      exact this
    · exact balanced.passedOn queued
  | take profile vacant => exact balanced.take vacant
  | resume found => exact balanced.resume found
  | opened page waits new => exact balanced.opened waits new
  | @failed profile waits =>
    refine giveBack balanced.distinct ?_
    have one := List.length_erase_add_one waits
    simp only [holders] at slots ⊢
    omega
  | @release page isOpen =>
    refine giveBack (balanced.distinct.erase page) ?_
    have one := List.length_erase_add_one isOpen
    simp only [holders, Pool.openCount] at slots ⊢
    omega
  | leave profile =>
    refine { balanced with passedOn := fun queued => balanced.passedOn ?_ }
    rintro empty
    exact queued (by simp [empty])
  | @resign profile waits =>
    refine giveBack balanced.distinct ?_
    have one := List.length_erase_add_one waits
    simp only [holders, Pool.openCount] at slots ⊢
    omega

end Scene.Balanced

/-- The balance is kept at every moment of every schedule.
Witness: induction on the schedule.
-/
theorem Moment.balanced {config : Config} {scene : Scene} (moment : Moment config scene)
    : scene.Balanced config := by
  induction moment with
  | fresh engine log => exact .fresh engine log
  | next _ step ih => exact ih.step step

end CriticalCss.Browser
