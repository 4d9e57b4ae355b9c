import Workflow.Proofs.Lookup

/-!
What a definition has that passed the checks. It has a start node, every transition leads to a node, all
handlers are there, and its guards and reminders were accepted (`usable_of_check`). None of this depends
on the work times of reminders, so that whoever finds the definition in a cache has it too
(`Definition.Usable.of_anytime`).
-/
namespace Workflow

open Engine

def ReminderParam.Compiles (p : ReminderParam) : Prop := ∃ rule, Reminder.Rule.compile p = .ok rule

/-- Whether the handlers that a node names are there. -/
structure Node.Handled (r : Registry) (n : Node) : Prop where
  flow : ∀ {name}, n.handler = some name → ∃ h, r.flowHandler name = .ok h
  task : ∀ {assignees handler reminder}, n.kind = .task assignees handler reminder →
    ∃ h, r.taskHandler handler = .ok h

/-- What a node needs so that tokens can enter and leave it, and people be reminded of it. -/
structure Node.Usable (e : Engine) (d : Definition) (n : Node) : Prop extends
    n.Handled e.registry where
  targets : ∀ m ∈ n.targets, d.hasNode m = true
  guards : ∀ t ∈ n.transitions, ∀ c, t.condition = some c →
    ∀ a ∈ c.atoms, e.evaluator.check a = .ok ()
  reminder : ∀ p, n.reminder = some p → p.Compiles

/-- What a definition needs so that instances of it can run. -/
structure Definition.Usable (e : Engine) (d : Definition) : Prop where
  start : ∃ n, d.startNode? = some n
  nodes : ∀ n ∈ d.nodes, n.Usable e d
  reminder : ∀ p, d.reminder = some p → p.Compiles

variable {e : Engine} {d d' : Definition} {n : Node}

/-! ### The checks one by one -/

namespace Definition

theorem startNode?_of_soleStart (h : d.soleStart = .ok n) : d.startNode? = some n := by
  rw [startNode?, ← List.head?_filter]
  unfold soleStart at h
  split at h <;> rename_i hstarts
  · rw [hstarts, ← Except.ok.inj h]
    rfl
  · cases h
  · cases h

theorem of_refuseIf {bad : Bool} {err : DefinitionError} (h : refuseIf bad err = .ok ()) :
    bad = false := by
  cases bad with
  | false => rfl
  | true => cases h

theorem hasNode_of_checkTransitions {ts : List Transition}
    (h : d.checkTransitions n ts = .ok ()) : ∀ t ∈ ts, d.hasNode t.target = true := by
  induction ts with
  | nil => exact fun t ht => nomatch ht
  | cons t ts ih =>
    obtain ⟨u, hfirst, hrest⟩ := of_bind_eq_ok h
    obtain ⟨u, htarget, -⟩ := of_bind_eq_ok hfirst
    intro m hm
    rcases List.mem_cons.1 hm with rfl | hm
    · simpa using of_refuseIf htarget
    · exact ih hrest m hm

theorem hasNode_of_checkNodes {ns : List Node} (h : d.checkNodes ns = .ok ()) :
    ∀ n ∈ ns, ∀ m ∈ n.targets, d.hasNode m = true := by
  induction ns with
  | nil => exact fun n hn => nomatch hn
  | cons n ns ih =>
    obtain ⟨u, -, hrest⟩ := of_bind_eq_ok h
    obtain ⟨u, hfirst, hrest⟩ := of_bind_eq_ok hrest
    intro m hm
    rcases List.mem_cons.1 hm with rfl | hm
    · intro target htarget
      obtain ⟨t, ht, rfl⟩ := List.mem_map.1 htarget
      exact hasNode_of_checkTransitions hfirst t ht
    · exact ih hrest m hm

theorem check_of_checkGuards {ev : Guard.Evaluator} {guards : List (Node × String)}
    (h : checkGuards ev guards = .ok ()) : ∀ g ∈ guards, ev.check g.2 = .ok () := by
  induction guards with
  | nil => exact fun g hg => nomatch hg
  | cons g guards ih =>
    unfold checkGuards at h
    intro k hk
    split at h
    · rename_i hfirst
      rcases List.mem_cons.1 hk with rfl | hk
      · exact hfirst
      · exact ih h k hk
    · cases h

theorem mem_guards {t : Transition} {c : Condition} {a : String} (hn : n ∈ d.nodes)
    (ht : t ∈ n.transitions) (hc : t.condition = some c) (ha : a ∈ c.atoms) : (n, a) ∈ d.guards := by
  refine List.mem_flatMap.2 ⟨n, hn, List.mem_flatMap.2 ⟨t, ht, ?_⟩⟩
  rw [hc]
  exact List.mem_map_of_mem ha

theorem compiles_of_checkReminder {place : Option String} {r : Option ReminderParam}
    (h : checkReminder place r = .ok ()) :
    ∀ p, r = some p → p.Compiles := by
  rintro p rfl
  cases hrule : Reminder.Rule.compile p with
  | ok rule => exact ⟨rule, hrule⟩
  | error cause =>
    rw [checkReminder, hrule] at h
    cases h

theorem compiles_of_checkNodeReminders {ns : List Node} (h : checkNodeReminders ns = .ok ()) :
    ∀ n ∈ ns, ∀ p, n.reminder = some p → p.Compiles := by
  induction ns with
  | nil => exact fun n hn => nomatch hn
  | cons n ns ih =>
    obtain ⟨u, hfirst, hrest⟩ := of_bind_eq_ok h
    intro m hm
    rcases List.mem_cons.1 hm with rfl | hm
    · exact compiles_of_checkReminder hfirst
    · exact ih hrest m hm

end Definition

/-- The flow handler is looked for first, then the task handler. -/
theorem Node.flow_of_checkHandlers_cons {r : Registry} {ns : List Node}
    (h : checkHandlers r (n :: ns) = .ok ()) :
    (∀ {name}, n.handler = some name → ∃ f, r.flowHandler name = .ok f) ∧
      (match n.kind with
        | .task _ handler _ => discard (r.taskHandler handler) >>= fun _ => checkHandlers r ns
        | _ => checkHandlers r ns) = .ok () := by
  unfold checkHandlers at h
  cases hname : n.handler with
  | none =>
    rw [hname] at h
    refine ⟨?_, h⟩
    rintro _ ⟨⟩
  | some name =>
    rw [hname] at h
    by_cases hthere : r.hasFlow name = true
    · simp only [hthere] at h
      refine ⟨?_, h⟩
      rintro _ ⟨⟩
      obtain ⟨f, hf⟩ := Option.isSome_iff_exists.1 hthere
      exact ⟨f, by rw [Registry.flowHandler, hf]⟩
    · simp only [hthere] at h
      cases h

theorem Node.handled_of_checkHandlers_cons {r : Registry} {ns : List Node}
    (h : checkHandlers r (n :: ns) = .ok ()) : n.Handled r ∧ checkHandlers r ns = .ok () := by
  obtain ⟨hflow, h⟩ := flow_of_checkHandlers_cons h
  cases hkind : n.kind with
  | task assignees handler reminder =>
    rw [hkind] at h
    obtain ⟨u, hthere, hrest⟩ := of_bind_eq_ok h
    obtain ⟨f, hf, -⟩ := of_bind_eq_ok hthere
    refine ⟨⟨hflow, fun hkind' => ?_⟩, hrest⟩
    cases hkind.symm.trans hkind'
    exact ⟨f, hf⟩
  | _ =>
    rw [hkind] at h
    refine ⟨⟨hflow, fun hkind' => ?_⟩, h⟩
    cases hkind.symm.trans hkind'

theorem Node.handled_of_checkHandlers {r : Registry} {ns : List Node}
    (h : checkHandlers r ns = .ok ()) : ∀ n ∈ ns, n.Handled r := by
  induction ns with
  | nil => exact fun n hn => nomatch hn
  | cons n ns ih =>
    obtain ⟨hfirst, hrest⟩ := handled_of_checkHandlers_cons h
    intro m hm
    rcases List.mem_cons.1 hm with rfl | hm
    · exact hfirst
    · exact ih hrest m hm

/-! ### All checks together -/

namespace Definition

/-- What `validate` guarantees that walks rely on. -/
theorem start_of_validate (h : d.validate = .ok ()) :
    (∃ n, d.startNode? = some n) ∧ ∀ n ∈ d.nodes, ∀ m ∈ n.targets, d.hasNode m = true := by
  obtain ⟨u, -, h⟩ := of_bind_eq_ok h
  obtain ⟨u, -, h⟩ := of_bind_eq_ok h
  obtain ⟨u, -, h⟩ := of_bind_eq_ok h
  obtain ⟨start, hstart, h⟩ := of_bind_eq_ok h
  obtain ⟨u, -, h⟩ := of_bind_eq_ok h
  obtain ⟨u, -, h⟩ := of_bind_eq_ok h
  obtain ⟨u, hnodes, -⟩ := of_bind_eq_ok h
  exact ⟨⟨start, startNode?_of_soleStart hstart⟩, hasNode_of_checkNodes hnodes⟩

/-- A definition that passed the checks can be used. -/
theorem usable_of_check (h : check e d = .ok ()) : d.Usable e := by
  obtain ⟨u, hvalid, huse⟩ := of_bind_eq_ok h
  obtain ⟨hstart, htargets⟩ := start_of_validate (of_mapError_eq_ok hvalid)
  obtain ⟨u, hguards, huse⟩ := of_bind_eq_ok huse
  obtain ⟨u, hreminders, hhandlers⟩ := of_bind_eq_ok huse
  obtain ⟨u, hreminder, hnodes⟩ := of_bind_eq_ok (of_mapError_eq_ok hreminders)
  have hchecked := check_of_checkGuards (of_mapError_eq_ok hguards)
  refine ⟨hstart, fun n hn => ?_, compiles_of_checkReminder hreminder⟩
  exact ⟨Node.handled_of_checkHandlers hhandlers n hn, htargets n hn,
    fun t ht c hc a ha => hchecked (n, a) (mem_guards hn ht hc ha),
    compiles_of_checkNodeReminders hnodes n hn⟩

end Definition

/-! ### Apart from work times -/

namespace ReminderParam

variable {p p' : ReminderParam}

theorem compile_anytime : Reminder.Rule.compile p.anytime =
    (Reminder.Rule.compile p).map fun rule => { rule with param := p.anytime } := by
  have hweekday : Reminder.Rule.badWeekday? p.anytime = Reminder.Rule.badWeekday? p := rfl
  have hcadence : p.anytime.cadence = p.cadence := rfl
  unfold Reminder.Rule.compile
  rw [hweekday, hcadence]
  cases Reminder.Rule.badWeekday? p with
  | some day => rfl
  | none =>
    cases Reminder.normalize p.cadence with
    | error cause => rfl
    | ok line =>
      dsimp only
      cases Reminder.Cron.parse line <;> rfl

theorem compiles_anytime : p.anytime.Compiles ↔ p.Compiles := by
  rw [Compiles, Compiles, compile_anytime]
  constructor
  · rintro ⟨rule, hrule⟩
    cases hp : Reminder.Rule.compile p with
    | ok rule' => exact ⟨rule', rfl⟩
    | error cause =>
      rw [hp] at hrule
      cases hrule
  · rintro ⟨rule, hrule⟩
    exact ⟨_, by rw [hrule]; rfl⟩

theorem compiles_of_anytime {r r' : Option ReminderParam} (h : r'.map anytime = r.map anytime)
    (hr : ∀ p, r = some p → p.Compiles) : ∀ p, r' = some p → p.Compiles := by
  rintro p' rfl
  obtain ⟨p, hp, hsame⟩ := Option.map_eq_some_iff.1 h.symm
  rw [← compiles_anytime, ← hsame, compiles_anytime]
  exact hr p hp

end ReminderParam

namespace Node

theorem reminder_anytime : n.anytime.reminder = n.reminder.map ReminderParam.anytime := by
  obtain ⟨id, name, kind, handler, transitions⟩ := n
  cases kind <;> rfl

theorem handled_anytime {r : Registry} : n.anytime.Handled r ↔ n.Handled r := by
  have hkind : n.anytime.kind = n.kind.anytime := rfl
  constructor
  · rintro ⟨hflow, htask⟩
    refine ⟨hflow, fun {assignees handler reminder} hk => ?_⟩
    rw [hkind, hk] at htask
    exact htask rfl
  · rintro ⟨hflow, htask⟩
    refine ⟨hflow, fun {assignees handler reminder} hk => ?_⟩
    rw [hkind] at hk
    cases hk' : n.kind with
    | task assignees' handler' reminder' =>
      rw [hk'] at hk
      injection hk with _ hhandler _
      exact hhandler ▸ htask hk'
    | _ =>
      rw [hk'] at hk
      cases hk

theorem Usable.of_anytime {n' : Node} (hn : n.Usable e d) (h : n'.anytime = n.anytime)
    (hd : ∀ a, d'.hasNode a = d.hasNode a) : n'.Usable e d' := by
  have htransitions : n'.transitions = n.transitions := (congrArg Node.transitions h :)
  refine ⟨?_, fun m hm => ?_, htransitions ▸ hn.guards, ?_⟩
  · rw [← handled_anytime, h, handled_anytime]
    exact hn.toHandled
  · rw [Node.targets, htransitions] at hm
    rw [hd]
    exact hn.targets m hm
  · refine ReminderParam.compiles_of_anytime ?_ hn.reminder
    rw [← reminder_anytime, h, reminder_anytime]

end Node

namespace Definition

theorem Usable.of_anytime (hd : d.Usable e) (h : d'.anytime = d.anytime) : d'.Usable e where
  start := by
    obtain ⟨start, hstart⟩ := hd.start
    obtain ⟨start', hstart', -⟩ := startNode?_of_anytime h.symm hstart
    exact ⟨start', hstart'⟩
  nodes n' hn' := by
    have hnodes : d'.nodes.map Node.anytime = d.nodes.map Node.anytime :=
      congrArg Definition.nodes h
    have hmem : n'.anytime ∈ d.nodes.map Node.anytime := hnodes ▸ List.mem_map_of_mem hn'
    obtain ⟨n, hn, hsame⟩ := List.mem_map.1 hmem
    exact (hd.nodes n hn).of_anytime hsame.symm fun a => hasNode_of_anytime h
  reminder := ReminderParam.compiles_of_anytime (congrArg Definition.reminder h) hd.reminder

end Definition

end Workflow
