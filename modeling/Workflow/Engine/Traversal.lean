import Workflow.Config
import Workflow.Engine.Attempt
import Workflow.Engine.Routing
import Workflow.Engine.Starvation
import Workflow.Engine.Step
import Workflow.Handler

/-!
The way of tokens through a definition, from one write to the next. Tokens enter and leave nodes in
the order in which they were queued; when none is queued any more, a starved join lets its tokens go
on. The number of nodes entered is bounded, and between two entries only finitely many tokens leave
and joins are released.
-/
namespace Workflow

/-- What an engine works with. -/
structure Engine where
  evaluator : Guard.Evaluator
  registry : Registry
  bus : Bus
  config : Config

namespace Engine

open Engine.Attempt

def node (d : Definition) (id : String) : Attempt Node :=
  match d.node? id with
  | some n => return n
  | none => throw (.configuration (.unknownNode d.id id))

/-- How many tokens make a join fire. -/
def expectedArrivals (d : Definition) (n : Node) (declared : Option UInt32) : UInt32 :=
  let expected := declared.getD (UInt32.ofNat (min (d.incomingCount n.id) (UInt32.size - 1)))
  if expected = 0 then 1 else expected

def execution (d : Definition) (n : Node) (s : Step) : Execution :=
  ⟨s.record.id, d, n, s.record.vars, s.now⟩

/-- Lets the flow handler of a node change the variables. -/
def runFlowHandler (e : Engine) (d : Definition) (n : Node) (s : Step) : Attempt Step :=
  match n.handler with
  | none => return s
  | some name => do
    let h ← configured (e.registry.flowHandler name)
    let vars ← handle n.id fun earlier supply => (h earlier (execution d n s), supply)
    return { s with record.vars := vars }

/-- Creates tasks one after another; each has to be one of this instance at this node. -/
def createTasks (e : Engine) (n : Node) (s : Step) : List Task → Attempt Step
  | [] => return s
  | t :: ts => do
    if t.instanceId ≠ s.record.id ∨ t.node ≠ n.id then
      throw (.handler n.id s!"task {t.id} belongs to another node")
    remark (.taskCreated s.record.id n.id t.id)
    notify e.bus (.task (.created t))
    createTasks e n (s.create t) ts

def enterTask (e : Engine) (d : Definition) (n : Node) (handler : Option String) (s : Step) :
    Attempt (Step × List Token) := do
  let h ← configured (e.registry.taskHandler handler)
  let tasks ← handle n.id fun earlier => h earlier (execution d n s)
  if tasks.isEmpty then
    remark (.passing s.record.id n.id)
    return (s, [.leave n.id])
  let s ← createTasks e n (s.wait n.id) tasks
  return (s, [])

def enterJoin (d : Definition) (n : Node) (declared : Option UInt32) (s : Step) :
    Attempt (Step × List Token) := do
  let expected := expectedArrivals d n declared
  let (arrivals, s) := s.arrive n.id
  remark (.arrived s.record.id n.id arrivals expected)
  if expected ≤ arrivals then return (s.release n.id, [.leave n.id])
  else return (s.wait n.id, [])

/-- Lets a token enter a node; the tokens that this queues come back too. -/
def enter (e : Engine) (d : Definition) (n : Node) (s : Step) : Attempt (Step × List Token) := do
  remark (.entering s.record.id n.id n.kind.name)
  let s ← runFlowHandler e d n s
  match n.kind with
  | .start | .condition => return (s, [.leave n.id])
  | .task _ handler _ => enterTask e d n handler s
  | .join declared => enterJoin d n declared s
  | .stop =>
    remark (.branchEnded s.record.id n.id)
    return (s, [])

/-- Where a token goes from a node. -/
def targets (e : Engine) (n : Node) (s : Step) : Attempt (List String) :=
  decided (route e.evaluator n s.record.vars)

/-- A step after a token left a node towards these targets, or stayed for want of one. -/
def leave (n : Node) (targets : List String) (s : Step) : Step :=
  if targets.isEmpty then s.flag n.id else s

def leaves (queue : List Token) : Nat := (queue.filter Token.isLeave).length

theorem leaves_append_enter (queue : List Token) (targets : List String) :
    leaves (queue ++ targets.map .enter) = leaves queue := by
  simp [leaves, Token.isLeave]

theorem joinArrivals_leave (n : Node) (targets : List String) (s : Step) :
    (leave n targets s).record.joinArrivals = s.record.joinArrivals := by
  unfold leave
  split <;> rfl

theorem size_release_lt {s : Step} {join : String}
    (h : s.record.joinArrivals.contains join = true) :
    (s.release join).record.joinArrivals.size < s.record.joinArrivals.size :=
  Dict.size_erase_lt h

/-- Tokens on their way: how many nodes they entered, what is next for them, and what came of it. -/
structure Walk where
  entered : Nat
  queue : List Token
  step : Step
deriving DecidableEq, Repr

/-- What is next for the tokens: the first of the queue moves on, or else a starved join lets its tokens
go. A walk without either is over. -/
def move (e : Engine) (d : Definition) (x : Walk) : Attempt (Option Walk) :=
  match x.queue with
  | .enter id :: queue =>
    if x.entered < e.config.maxVisits.toNat then do
      let n ← node d id
      let (s, more) ← enter e d n x.step
      return some ⟨x.entered + 1, queue ++ more, s⟩
    else throw (.execution (.tooManyVisits x.step.record.id e.config.maxVisits))
  | .leave id :: queue => do
    let n ← node d id
    let targets ← targets e n x.step
    if targets.isEmpty then remark (.noWayOut x.step.record.id n.id)
    return some ⟨x.entered, queue ++ targets.map .enter, leave n targets x.step⟩
  | [] =>
    match starvedJoin? d x.step.record with
    | none => return none
    | some join => do
      let arrivals := (x.step.record.joinArrivals.get? join).getD 0
      remark (.releasing x.step.record.id join arrivals)
      return some ⟨x.entered, [.leave join], x.step.release join⟩

def Walk.remaining (e : Engine) (x : Walk) : Nat × Nat × Nat :=
  (e.config.maxVisits.toNat - x.entered, x.step.record.joinArrivals.size, leaves x.queue)

theorem remaining_move {e : Engine} {d : Definition} {x y : Walk} {a a' : Ambient}
    (h : move e d x a = (.ok (some y), a')) :
    WellFoundedRelation.rel (y.remaining e) (x.remaining e) := by
  obtain ⟨entered, queue, s⟩ := x
  rcases queue with _ | ⟨id | id, queue⟩
  · simp only [move] at h
    cases hs : starvedJoin? d s.record with
    | none =>
      rw [hs] at h
      cases h
    | some join =>
      rw [hs] at h
      cases h
      exact Prod.Lex.right _ (Prod.Lex.left _ _
        (size_release_lt (mem_starvedJoins (mem_starvedJoins_of_starvedJoin? hs))))
  · simp only [move] at h
    split at h
    · obtain ⟨n, a₁, -, h⟩ := of_bind_ok h
      obtain ⟨⟨s', more⟩, a₂, -, h⟩ := of_bind_ok h
      cases h
      exact Prod.Lex.left _ _ (Nat.sub_succ_lt_self _ _ ‹_›)
    · cases h
  · simp only [move] at h
    obtain ⟨n, a₁, -, h⟩ := of_bind_ok h
    obtain ⟨targets, a₂, -, h⟩ := of_bind_ok h
    have hlt : leaves (queue ++ targets.map .enter) < leaves (.leave id :: queue) := by
      rw [leaves_append_enter, leaves, leaves, List.filter_cons_of_pos rfl]
      exact Nat.lt_succ_self _
    split at h <;> cases h <;> refine Prod.Lex.right _ ?_ <;> rw [joinArrivals_leave] <;>
      exact Prod.Lex.right _ hlt

/-- Lets the tokens of a walk move until it is over. -/
def advance (e : Engine) (d : Definition) (x : Walk) : Attempt Step := fun a =>
  match _h : move e d x a with
  | (.ok (some y), a) => advance e d y a
  | (.ok none, a) => (.ok x.step, a)
  | (.error err, a) => (.error err, a)
  termination_by x.remaining e
  decreasing_by exact remaining_move _h

end Engine

end Workflow
