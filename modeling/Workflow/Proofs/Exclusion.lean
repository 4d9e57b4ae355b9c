import Workflow.Proofs.Runs
import Workflow.Scheduler

/-!
The lock of the ticks and its guards. A refused attempt frees the lock, so guards exclude each other
in just those runs in which nobody tries for the lock while a guard is live
(`excludes_iff_uncontended`).
-/
namespace Workflow

open Time (Instant)
open Engine Engine.Action

/-! ### What a tick does to the lock -/

namespace Scheduler

variable {s : Scheduler} {now : Instant} {w : World} {a : Ambient}

theorem ends_visitAll (r : TickReport) (is : List Instance) :
    Ends (fun o => o ≠ .ok .skipped) (visitAll s now r is) := by
  induction is generalizing r with
  | nil => exact ends_pure (by simp)
  | cons i is ih =>
    unfold visitAll
    refine ends_bind (by simp) fun v => ?_
    split
    · exact ends_pure (by simp)
    · exact ih _

theorem run_tick_of_held (h : w.lock.held = true) :
    Action.run w a (s.tick now) = ((.ok .skipped, a), { w with lock := .free }) := by
  have hask : Action.run w a (ask .acquire) = ((.ok false, a), { w with lock := .free }) := by
    rw [run_ask]
    simp [World.answer, Lock.acquire, Lock.tryLock, Lock.unlock, h]
  unfold tick
  rw [run_bind_ok hask]
  rfl

theorem run_tick_of_free (h : w.lock.held = false) :
    Action.run w a (s.tick now) =
      ((Action.run { w with lock := ⟨true⟩ } a (s.pass now)).1,
        { (Action.run { w with lock := ⟨true⟩ } a (s.pass now)).2 with lock := .free }) := by
  have hask : Action.run w a (ask .acquire) = ((.ok true, a), { w with lock := ⟨true⟩ }) := by
    rw [run_ask]
    simp [World.answer, Lock.acquire, Lock.tryLock, h]
  unfold tick
  rw [run_bind_ok hask]
  simp only [if_true]
  rw [run_bind_ok (run_outcome _), run_bind_ok (run_ask _), run_resume]
  rfl

theorem tick_skipped_iff :
    (Action.run w a (s.tick now)).1.1 = .ok .skipped ↔ w.lock.held = true := by
  cases h : w.lock.held with
  | true => simp [run_tick_of_held h]
  | false =>
    have hends : Ends (fun o => o ≠ .ok .skipped) (s.pass now) :=
      ends_bind (by simp) fun _ => ends_bind (by simp) fun is => ends_visitAll _ is
    rw [run_tick_of_free h]
    simpa using hends.run

theorem lock_run_tick : (Action.run w a (s.tick now)).2.lock = .free := by
  cases h : w.lock.held with
  | true => rw [run_tick_of_held h]
  | false => rw [run_tick_of_free h]

end Scheduler

/-! ### Guards -/

/-- What callers do with one lock, one use after another. A guard goes by the number of the attempt
that made it. A tick that other uses overlap counts as an attempt and a drop. -/
inductive LockUse where
  | attempt
  | drop (guard : Nat)
  | tick (s : Scheduler) (now : Instant)

/-- Whether a use tries for the lock. -/
def LockUse.tries : LockUse → Bool
  | drop _ => false
  | _ => true

/-- The lock of a world, and the guards of it that are live. -/
structure LockSite where
  world : World
  ambient : Ambient
  attempts : Nat
  live : List Nat

namespace LockSite

def start (w : World) (a : Ambient) : LockSite := ⟨{ w with lock := .free }, a, 0, []⟩

def isLocked (x : LockSite) : Bool := x.world.lock.held

/-- A guard that is not live cannot be dropped any more. -/
def use (x : LockSite) : LockUse → LockSite
  | .attempt =>
    { x with
      world := (x.world.answer .acquire).2
      attempts := x.attempts + 1
      live := if (x.world.answer .acquire).1 then x.attempts :: x.live else x.live }
  | .drop g =>
    if g ∈ x.live then
      { x with world := (x.world.answer .release).2, live := x.live.erase g }
    else x
  | .tick s now =>
    { x with
      world := (Action.run x.world x.ambient (s.tick now)).2
      ambient := (Action.run x.world x.ambient (s.tick now)).1.2 }

def run (x : LockSite) (us : List LockUse) : LockSite := us.foldl use x

def Refuses (x : LockSite) : LockUse → Prop
  | .attempt => (x.world.answer .acquire).1 = false
  | .drop _ => False
  | .tick s now => (Action.run x.world x.ambient (s.tick now)).1.1 = .ok .skipped

/-- Guards exclude each other. `ticking` is about the guard that a tick has while it runs, and
`refused` about the holder that a refused caller runs into. -/
structure Excludes (x : LockSite) (us : List LockUse) : Prop where
  one : ∀ vs, vs <+: us → (x.run vs).live.length ≤ 1
  locked : ∀ vs, vs <+: us → ((x.run vs).isLocked = true ↔ (x.run vs).live ≠ [])
  ticking : ∀ vs s now, vs ++ [.tick s now] <+: us → ¬ (x.run vs).Refuses (.tick s now) →
    (x.run vs).live = []
  refused : ∀ vs u, vs ++ [u] <+: us → (x.run vs).Refuses u → ∃ g ∈ (x.run vs).live,
    ∀ ws, vs ++ u :: ws <+: us → .drop g ∉ ws →
      (x.run (vs ++ u :: ws)).isLocked = true ∧ g ∈ (x.run (vs ++ u :: ws)).live ∧
        ∀ v : LockUse, v.tries = true → (x.run (vs ++ u :: ws)).Refuses v

/-- Nobody tries for the lock while a guard is live. -/
def Uncontended (x : LockSite) (us : List LockUse) : Prop :=
  ∀ vs u, vs ++ [u] <+: us → u.tries = true → (x.run vs).live = []

theorem run_concat (x : LockSite) (us : List LockUse) (u : LockUse) :
    x.run (us ++ [u]) = (x.run us).use u := by
  simp [run]

theorem refuses_iff {x : LockSite} {u : LockUse} (h : u.tries = true) :
    x.Refuses u ↔ x.isLocked = true := by
  cases u with
  | attempt =>
    simp only [Refuses, World.answer, Lock.acquire, Lock.tryLock, isLocked]
    cases x.world.lock.held <;> simp
  | drop g => cases h
  | tick s now => exact Scheduler.tick_skipped_iff

theorem live_use_of_refuses {x : LockSite} {u : LockUse} (h : x.Refuses u) :
    (x.use u).live = x.live := by
  cases u with
  | attempt =>
    have hr : (x.world.answer .acquire).1 = false := h
    simp [use, hr]
  | drop g => cases h
  | tick s now => rfl

/-- The guard of a refused attempt is dropped at once, and frees the lock. -/
theorem not_isLocked_use_of_refuses {x : LockSite} {u : LockUse} (h : x.Refuses u) :
    (x.use u).isLocked = false := by
  cases u with
  | attempt =>
    have hr : (!x.world.lock.held) = false := h
    simp [use, isLocked, World.answer, Lock.acquire, Lock.tryLock, Lock.unlock, Lock.free, hr]
  | drop g => cases h
  | tick s now => exact congrArg Lock.held Scheduler.lock_run_tick

/-- One holder at most, and the lock tells whether there is one. -/
structure Sound (x : LockSite) : Prop where
  one : x.live.length ≤ 1
  locked : x.isLocked = true ↔ x.live ≠ []

theorem Sound.use {x : LockSite} (h : x.Sound) {u : LockUse} (hu : u.tries = true → x.live = []) :
    (x.use u).Sound := by
  cases u with
  | attempt =>
    have hlive := hu rfl
    have hfree : x.world.lock.held = false := by
      have := h.locked.1
      simp only [hlive] at this
      simpa [isLocked] using this
    constructor <;>
      simp [LockSite.use, isLocked, World.answer, Lock.acquire, Lock.tryLock, hfree, hlive]
  | drop g =>
    by_cases hg : g ∈ x.live
    · have hlive : x.live = [g] := by
        rcases hl : x.live with _ | ⟨g', _ | _⟩
        · simp [hl] at hg
        · simpa [hl, eq_comm] using hg
        · have := h.one
          simp [hl] at this
      constructor <;> simp [LockSite.use, isLocked, World.answer, Lock.unlock, Lock.free, hlive]
    · simpa [LockSite.use, hg] using h
  | tick s now =>
    have hlive := hu rfl
    have hlock : (x.use (.tick s now)).isLocked = false :=
      congrArg Lock.held Scheduler.lock_run_tick
    refine ⟨h.one, ?_⟩
    rw [hlock]
    simp [LockSite.use, hlive]

theorem Uncontended.sound_run {x : LockSite} {us : List LockUse} (hx : x.Sound)
    (h : x.Uncontended us) : (x.run us).Sound := by
  induction us generalizing x with
  | nil => exact hx
  | cons u us ih =>
    refine ih (hx.use fun hu => h [] u (by simp) hu) fun vs v hv => ?_
    exact h (u :: vs) v (by simpa using hv)

theorem Uncontended.of_prefix {x : LockSite} {us vs : List LockUse} (h : x.Uncontended us)
    (hv : vs <+: us) : x.Uncontended vs :=
  fun ws u hw => h ws u (hw.trans hv)

theorem sound_start (w : World) (a : Ambient) : (start w a).Sound :=
  ⟨by simp [start], by simp [start, isLocked, Lock.free]⟩

/-- Guards of a lock exclude each other in a run just when nobody tries for the lock in it while a
guard is live. -/
theorem excludes_iff_uncontended (w : World) (a : Ambient) (us : List LockUse) :
    (start w a).Excludes us ↔ (start w a).Uncontended us := by
  constructor
  · intro h vs u hu htries
    by_cases hlive : ((start w a).run vs).live = []
    · exact hlive
    · -- a try over the head of a live guard is refused, which frees the lock
      have hlocked := (h.locked vs ((List.prefix_append _ _).trans hu)).2 hlive
      have hrefused := (refuses_iff htries).2 hlocked
      have hafter := h.locked _ hu
      rw [run_concat, live_use_of_refuses hrefused, not_isLocked_use_of_refuses hrefused] at hafter
      exact absurd (hafter.2 hlive) (by simp)
  · intro h
    have hsound : ∀ vs, vs <+: us → ((start w a).run vs).Sound := fun vs hv =>
      (h.of_prefix hv).sound_run (sound_start w a)
    refine ⟨fun vs hv => (hsound vs hv).one, fun vs hv => (hsound vs hv).locked,
      fun vs s now hv _ => h vs _ hv rfl, fun vs u hu hrefused => ?_⟩
    -- nobody is refused: the lock is free whenever somebody tries for it
    have htries : u.tries = true := by cases u <;> first | rfl | cases hrefused
    have hlocked := (refuses_iff htries).1 hrefused
    exact absurd (h vs u hu htries)
      ((hsound vs ((List.prefix_append _ _).trans hu)).locked.1 hlocked)

/-- The second of two attempts is refused and frees the lock over the head of the guard that the first
one made; a third attempt then gets a guard too. -/
theorem not_excludes_of_second_attempt :
    let x := start .empty (.ofSupply (.ofMoment ⟨0, 0⟩ 0))
    ¬ x.Excludes [.attempt, .attempt] ∧
      (x.run [.attempt, .attempt]).isLocked = false ∧ (x.run [.attempt, .attempt]).live = [0] ∧
      (x.run [.attempt, .attempt, .attempt]).live = [2, 0] := by
  refine ⟨fun h => ?_, rfl, rfl, rfl⟩
  have hlive : ((start .empty (.ofSupply (.ofMoment ⟨0, 0⟩ 0))).run [.attempt, .attempt]).live = [0] :=
    rfl
  have hlocked := (h.locked [.attempt, .attempt] List.prefix_rfl).2 (by rw [hlive]; simp)
  exact absurd hlocked Bool.false_ne_true

end LockSite

end Workflow
