import Mathlib.Logic.Function.Basic
import Mathlib.Logic.Relation
import Fingerprint.Event.Bus
import Fingerprint.TaskQueue

/-!
# The delivery of events

What happens at a bus is written down: publications that are delivered or
suppressed, calls, subscriptions, failures. To deliver an event is to call those
who can be called of the ones that were subscribed when it was published, one
after the other, up to the first that fails. Whatever one of them publishes
while being called is suppressed.

A bus may be used by many threads, which publish and subscribe at the same time.
They share the subscribers, and each has a flag of its own that tells whether it
is publishing. What happens at one go is a step of one thread. The steps do not
ask whether a thread is in a publication already; that is for the flag, and
whoever leaves a publication takes the flag down. It turns out that a thread is
never in more than one, with its flag up exactly as long.

* `EventBus.Delivers`: how an event is delivered to subscribers;
* `EventBus.delivered_publish`: what is computed is a delivery;
* `EventBus.Traffic`, `EventBus.Traffic.Step`: a bus that is used by many threads;
* `EventBus.Traffic.Step.minds`: what a thread does is in order;
* `EventBus.Traffic.steps_delivers`: a thread that is left alone delivers its event;
* `EventBus.delivers_in_order`.
-/

namespace Fingerprint

namespace EventBus

variable {β : Type}

/-! ## What happens -/

/-- What happens at a bus. -/
inductive Happening (β : Type) where
  /-- The delivery of an event begins, to those who are subscribed. -/
  | published (event : Event) (targets : List (Option β))
  /-- A subscriber is called, and will do certain things in return. -/
  | called (name : β) (event : Event) (reactions : List (Reaction β))
  /-- A publication is suppressed, with one line that complains. -/
  | suppressed (event : Event)
  | subscribed (name : Option β)
  /-- The subscriber that was called last fails. -/
  | failed (fault : Fault)
  /-- The delivery ends. -/
  | ended (outcome : Except Fault Unit)
  | reset

/-- What a happening changes. -/
def Happening.note (bus : EventBus β) : Happening β → EventBus β
  | called name event _ => { bus with calls := bus.calls ++ [(name, event)] }
  | suppressed _ => { bus with suppressed := bus.suppressed + 1 }
  | subscribed name => bus.subscribe name
  | reset => bus.reset
  | published .. | failed _ | ended _ => bus

/-- What all that has happened changes. -/
def noting (bus : EventBus β) (log : List (Happening β)) : EventBus β := log.foldl Happening.note bus

/-- What one who is called does: whatever is published is suppressed, and the first failure is the end. -/
def performed : List (Reaction β) → List (Happening β) × Except Fault Unit
  | [] => ([], .ok ())
  | .publish event :: rest => (.suppressed event :: (performed rest).1, (performed rest).2)
  | .subscribe name :: rest => (.subscribed name :: (performed rest).1, (performed rest).2)
  | .fail fault :: _ => ([.failed fault], .error fault)

/-- An event is delivered: those are called who can be, one after the other, up to the first that fails,
    whose fault is the outcome. -/
inductive Delivers (event : Event) : List (Option β) → List (Happening β) → Except Fault Unit → Prop
  | done : Delivers event [] [] (.ok ())
  | skipped {rest : List (Option β)} {log : List (Happening β)} {outcome : Except Fault Unit}
      (h : Delivers event rest log outcome) : Delivers event (none :: rest) log outcome
  | returned {name : β} {rest : List (Option β)} {log : List (Happening β)} {outcome : Except Fault Unit}
      (reactions : List (Reaction β)) (hreturns : (performed reactions).2 = .ok ())
      (h : Delivers event rest log outcome) :
      Delivers event (some name :: rest) (.called name event reactions :: (performed reactions).1 ++ log) outcome
  | failed {name : β} {rest : List (Option β)} {fault : Fault} (reactions : List (Reaction β))
      (hfails : (performed reactions).2 = .error fault) :
      Delivers event (some name :: rest) (.called name event reactions :: (performed reactions).1) (.error fault)

/-- Those who were called have reacted as a table says. -/
def Reacts (behaviour : β → Event → List (Reaction β)) (log : List (Happening β)) : Prop :=
  ∀ name event reactions, .called name event reactions ∈ log → reactions = behaviour name event

/-- An event was delivered to those who were subscribed, and nothing else has happened. -/
def Delivered (behaviour : β → Event → List (Reaction β)) (event : Event) (bus : EventBus β)
    (result : EventBus β × Except Fault Unit) : Prop :=
  ∃ log, Delivers event bus.subscribers log result.2 ∧ Reacts behaviour log ∧ result.1 = bus.noting log

/-! ## One publication -/

variable {bus : EventBus β} {log more : List (Happening β)} {event : Event} {outcome : Except Fault Unit}
  {behaviour : β → Event → List (Reaction β)} {reactions did : List (Reaction β)}
  {nested : Event → EventBus β → EventBus β × Except Fault Unit}

theorem noting_append : bus.noting (log ++ more) = (bus.noting log).noting more := List.foldl_append

theorem note_publishing (happening : Happening β) (flag : Bool) :
    happening.note { bus with publishing := flag } = { happening.note bus with publishing := flag } := by
  cases happening <;> rfl

/-- Nothing that happens touches the flag. -/
theorem noting_publishing (flag : Bool) :
    ({ bus with publishing := flag } : EventBus β).noting log = { bus.noting log with publishing := flag } := by
  induction log generalizing bus with
  | nil => rfl
  | cons happening rest ih =>
    rw [noting, List.foldl_cons, note_publishing]
    exact ih

theorem publishing_noting : (bus.noting log).publishing = bus.publishing := by
  have hsame : bus.noting log = { bus.noting log with publishing := bus.publishing } := noting_publishing _
  rw [hsame]

/-- Before somebody fails, all is done without a failure. -/
theorem exists_of_performed_error {fault : Fault} (h : (performed reactions).2 = .error fault) :
    ∃ did doing, reactions = did ++ .fail fault :: doing ∧ (performed did).2 = .ok () ∧
      (performed reactions).1 = (performed did).1 ++ [.failed fault] := by
  induction reactions with
  | nil => cases h
  | cons reaction rest ih =>
    cases reaction with
    | publish event =>
      obtain ⟨did, doing, rfl, hdid, hperformed⟩ := ih h
      exact ⟨.publish event :: did, doing, rfl, hdid, congrArg _ hperformed⟩
    | subscribe name =>
      obtain ⟨did, doing, rfl, hdid, hperformed⟩ := ih h
      exact ⟨.subscribe name :: did, doing, rfl, hdid, congrArg _ hperformed⟩
    | fail =>
      cases h
      exact ⟨[], rest, rfl, rfl, rfl⟩

theorem performed_append (hdid : (performed did).2 = .ok ()) (doing : List (Reaction β)) :
    performed (did ++ doing) = ((performed did).1 ++ (performed doing).1, (performed doing).2) := by
  induction did with
  | nil => rfl
  | cons reaction rest ih =>
    cases reaction with
    | publish | subscribe =>
      simp only [performed] at hdid ⊢
      rw [List.cons_append, performed, ih hdid]
      rfl
    | fail => cases hdid

/-- What somebody has done in return is no call. -/
theorem reacts_performed (reactions : List (Reaction β)) : Reacts behaviour (performed reactions).1 := by
  induction reactions with
  | nil => nofun
  | cons reaction rest ih =>
    intro name event reactions hmem
    cases reaction with
    | publish | subscribe =>
      rcases List.mem_cons.1 hmem with heq | hmem
      · cases heq
      · exact ih name event reactions hmem
    | fail => simp [performed] at hmem

theorem Reacts.append (h : Reacts behaviour log) (hmore : Reacts behaviour more) : Reacts behaviour (log ++ more) :=
  fun name event reactions hmem => (List.mem_append.1 hmem).elim (h name event reactions) (hmore name event reactions)

theorem Reacts.cons_called {name : β} (h : Reacts behaviour log) :
    Reacts behaviour (.called name event (behaviour name event) :: log) := by
  intro name' event' reactions hmem
  rcases List.mem_cons.1 hmem with heq | hmem
  · cases heq
    rfl
  · exact h name' event' reactions hmem

section

variable (hnested : ∀ event (bus : EventBus β), bus.publishing = true →
  nested event bus = (bus.noting [.suppressed event], .ok ()))

include hnested

/-- While an event is delivered, the reactions of a subscriber are performed, and what it publishes is
    suppressed. -/
theorem react_eq (hbus : bus.publishing = true) :
    react nested reactions bus = (bus.noting (performed reactions).1, (performed reactions).2) := by
  induction reactions generalizing bus with
  | nil => rfl
  | cons reaction rest ih =>
    cases reaction with
    | publish event =>
      rw [react, hnested event bus hbus]
      exact ih (publishing_noting.trans hbus)
    | subscribe name =>
      rw [react]
      exact ih hbus
    | fail fault => rfl

/-- Those are called who can be, up to the first that fails. -/
theorem exists_deliver_eq (behaviour : β → Event → List (Reaction β)) (targets : List (Option β))
    (hbus : bus.publishing = true) :
    ∃ log outcome, Delivers event targets log outcome ∧ Reacts behaviour log ∧
      deliver behaviour nested event targets bus = (bus.noting log, outcome) := by
  induction targets generalizing bus with
  | nil => exact ⟨[], .ok (), .done, nofun, rfl⟩
  | cons target rest ih =>
    cases target with
    | none =>
      obtain ⟨log, outcome, hdelivers, hreacts, heq⟩ := ih hbus
      exact ⟨log, outcome, .skipped hdelivers, hreacts, heq⟩
    | some name =>
      let reactions := behaviour name event
      have hcalled : (bus.noting [.called name event reactions]).publishing = true := publishing_noting.trans hbus
      have hreact : react nested reactions { bus with calls := bus.calls ++ [(name, event)] } =
          ((bus.noting [.called name event reactions]).noting (performed reactions).1, (performed reactions).2) :=
        react_eq hnested hcalled
      rw [deliver, hreact, ← noting_append]
      cases hreturns : (performed reactions).2 with
      | ok =>
        have hgoing : (bus.noting ([.called name event reactions] ++ (performed reactions).1)).publishing = true :=
          publishing_noting.trans hbus
        obtain ⟨log, outcome, hdelivers, hreacts, heq⟩ := ih hgoing
        refine ⟨_, outcome, .returned _ hreturns hdelivers, (reacts_performed _).cons_called.append hreacts, heq.trans ?_⟩
        rw [← noting_append]
        rfl
      | error fault => exact ⟨_, .error fault, .failed _ hreturns, (reacts_performed _).cons_called, rfl⟩

end

/-- A publication that is made outside any other delivers its event. -/
theorem delivered_publish (behaviour : β → Event → List (Reaction β)) (event : Event) (hbus : bus.publishing = false) :
    Delivered behaviour event bus (bus.publish behaviour event) := by
  have hnested (event : Event) (bus : EventBus β) (hbus : bus.publishing = true) :
      publishAt behaviour 0 event bus = (bus.noting [.suppressed event], .ok ()) := by
    rw [publishAt, publishWith, if_pos hbus]
    rfl
  have hmarked : ({ bus with publishing := true } : EventBus β).publishing = true := rfl
  obtain ⟨log, outcome, hdelivers, hreacts, heq⟩ :=
    exists_deliver_eq hnested behaviour bus.subscribers hmarked
  rw [publish, publishAt, publishWith, if_neg (by simp [hbus]), heq]
  refine ⟨log, hdelivers, hreacts, ?_⟩
  have hflag : bus.noting log = { bus.noting log with publishing := bus.publishing } := noting_publishing _
  rw [noting_publishing, hflag, hbus]

/-! ## One use after the other -/

/-- What is done with a bus from outside. -/
inductive Use (β : Type) where
  /-- An event is published, while subscribers react as a table says. -/
  | publish (behaviour : β → Event → List (Reaction β)) (event : Event)
  | subscribe (name : Option β)
  | reset

/-- What a use makes of a bus. -/
def Use.act (bus : EventBus β) : Use β → EventBus β
  | publish behaviour event => (bus.publish behaviour event).1
  | subscribe name => bus.subscribe name
  | reset => bus.reset

/-- The bus after some uses, with the subscribers that it began with. -/
def after (initial : List (Option β)) (uses : List (Use β)) : EventBus β := uses.foldl Use.act { initial }

/-- Whatever has been done, no publication is going on. -/
theorem publishing_after (initial : List (Option β)) (uses : List (Use β)) :
    (after initial uses).publishing = false := by
  have hkept {bus : EventBus β} (hbus : bus.publishing = false) : (uses.foldl Use.act bus).publishing = false := by
    induction uses generalizing bus with
    | nil => exact hbus
    | cons use rest ih =>
      refine ih ?_
      cases use with
      | publish behaviour event =>
        obtain ⟨log, -, -, hresult⟩ := delivered_publish behaviour event hbus
        rw [Use.act, hresult, publishing_noting, hbus]
      | subscribe | reset => exact hbus
  exact hkept rfl

/-! ## Threads -/

/-- A delivery that is going on. -/
structure Delivery (β : Type) where
  event : Event
  /-- Those who have not been called yet. -/
  waiting : List (Option β)
  /-- What the one who was called last has still to do. -/
  doing : List (Reaction β)

/-- A bus that is used by many threads. Whether a publication is going on is known to each of its own. -/
structure Traffic (β : Type) where
  /-- What the threads share. -/
  bus : EventBus β
  publishing : Thread → Bool := fun _ => false
  /-- The deliveries that a thread is in, the innermost first. -/
  deliveries : Thread → List (Delivery β) := fun _ => []
  /-- What has happened so far, and on which thread. -/
  history : List (Thread × Happening β) := []

namespace Traffic

/-- The bus as a thread sees it. -/
def seen (t : Traffic β) (thread : Thread) : EventBus β := { t.bus with publishing := t.publishing thread }

/-- What has happened on a thread. -/
def logOf (t : Traffic β) (thread : Thread) : List (Happening β) := (t.history.filter (·.1 = thread)).map (·.2)

def note (t : Traffic β) (thread : Thread) (happening : Happening β) : Traffic β :=
  { t with bus := happening.note t.bus, history := t.history ++ [(thread, happening)] }

/-- A thread goes on in a delivery. -/
def proceed (t : Traffic β) (thread : Thread) (deliveries : List (Delivery β)) : Traffic β :=
  { t with deliveries := Function.update t.deliveries thread deliveries }

/-- Marks on a thread whether a publication is going on. -/
def mark (t : Traffic β) (thread : Thread) (flag : Bool) : Traffic β :=
  { t with publishing := Function.update t.publishing thread flag }

/-- A thread publishes an event. -/
def publish (t : Traffic β) (thread : Thread) (event : Event) : Traffic β :=
  if t.publishing thread then t.note thread (.suppressed event)
  else
    ((t.note thread (.published event t.bus.subscribers)).mark thread true).proceed thread
      (⟨event, t.bus.subscribers, []⟩ :: t.deliveries thread)

/-- A fault goes on to the one whose publication it was. -/
def propagate : Except Fault Unit → List (Delivery β) → List (Delivery β)
  | .error fault, delivery :: rest => { delivery with doing := [.fail fault] } :: rest
  | _, outer => outer

/-- A delivery ends that a thread is in within others. -/
def leave (t : Traffic β) (thread : Thread) (outcome : Except Fault Unit) (outer : List (Delivery β)) : Traffic β :=
  ((t.note thread (.ended outcome)).mark thread false).proceed thread (propagate outcome outer)

/-- What happens at one go. -/
inductive Step : Traffic β → Traffic β → Prop
  | published {t : Traffic β} {thread : Thread} (h : t.deliveries thread = []) (event : Event) :
      Step t (t.publish thread event)
  | subscribed {t : Traffic β} {thread : Thread} (h : t.deliveries thread = []) (name : Option β) :
      Step t (t.note thread (.subscribed name))
  | reset {t : Traffic β} (h : ∀ thread, t.deliveries thread = []) (thread : Thread) : Step t (t.note thread .reset)
  /-- The one who was called publishes. -/
  | publishes {t : Traffic β} {thread : Thread} {event other : Event} {waiting : List (Option β)}
      {doing : List (Reaction β)} {outer : List (Delivery β)}
      (h : t.deliveries thread = ⟨event, waiting, .publish other :: doing⟩ :: outer) :
      Step t ((t.proceed thread (⟨event, waiting, doing⟩ :: outer)).publish thread other)
  | subscribes {t : Traffic β} {thread : Thread} {event : Event} {waiting : List (Option β)} {name : Option β}
      {doing : List (Reaction β)} {outer : List (Delivery β)}
      (h : t.deliveries thread = ⟨event, waiting, .subscribe name :: doing⟩ :: outer) :
      Step t ((t.proceed thread (⟨event, waiting, doing⟩ :: outer)).note thread (.subscribed name))
  | fails {t : Traffic β} {thread : Thread} {event : Event} {waiting : List (Option β)} {fault : Fault}
      {doing : List (Reaction β)} {outer : List (Delivery β)}
      (h : t.deliveries thread = ⟨event, waiting, .fail fault :: doing⟩ :: outer) :
      Step t ((t.note thread (.failed fault)).leave thread (.error fault) outer)
  | skips {t : Traffic β} {thread : Thread} {event : Event} {waiting : List (Option β)} {outer : List (Delivery β)}
      (h : t.deliveries thread = ⟨event, none :: waiting, []⟩ :: outer) :
      Step t (t.proceed thread (⟨event, waiting, []⟩ :: outer))
  /-- The next one is called, whatever that one will do. -/
  | calls {t : Traffic β} {thread : Thread} {event : Event} {name : β} {waiting : List (Option β)}
      {outer : List (Delivery β)} (h : t.deliveries thread = ⟨event, some name :: waiting, []⟩ :: outer)
      (reactions : List (Reaction β)) :
      Step t ((t.proceed thread (⟨event, waiting, reactions⟩ :: outer)).note thread (.called name event reactions))
  | returns {t : Traffic β} {thread : Thread} {event : Event} {outer : List (Delivery β)}
      (h : t.deliveries thread = ⟨event, [], []⟩ :: outer) : Step t (t.leave thread (.ok ()) outer)

/-- What is left of a delivery completes it. -/
inductive Underway (d : Delivery β) (targets : List (Option β)) : List (Happening β) → Prop
  | between {steps : List (Happening β)} (hdoing : d.doing = [])
      (h : ∀ more outcome, Delivers d.event d.waiting more outcome → Delivers d.event targets (steps ++ more) outcome) :
      Underway d targets steps
  | within {before : List (Happening β)} {name : β} (did : List (Reaction β)) (hdid : (performed did).2 = .ok ())
      (h : ∀ more outcome, Delivers d.event (some name :: d.waiting) more outcome →
        Delivers d.event targets (before ++ more) outcome) :
      Underway d targets (before ++ .called name d.event (did ++ d.doing) :: (performed did).1)

/-- What a thread does outside publications, and publications that are complete. -/
inductive Orderly : List (Happening β) → Prop
  | nil : Orderly []
  | subscribed {log : List (Happening β)} (h : Orderly log) (name : Option β) : Orderly (log ++ [.subscribed name])
  | reset {log : List (Happening β)} (h : Orderly log) : Orderly (log ++ [.reset])
  | delivered {log steps : List (Happening β)} {event : Event} {targets : List (Option β)}
      {outcome : Except Fault Unit} (h : Orderly log) (hdelivers : Delivers event targets steps outcome) :
      Orderly (log ++ .published event targets :: (steps ++ [.ended outcome]))

/-- A thread is outside every publication, or in one that is under way. -/
inductive Minds (t : Traffic β) (thread : Thread) : Prop
  | outside (hdeliveries : t.deliveries thread = []) (hflag : t.publishing thread = false)
      (hlog : Orderly (t.logOf thread))
  | inside {d : Delivery β} {past steps : List (Happening β)} {targets : List (Option β)}
      (hdeliveries : t.deliveries thread = [d]) (hflag : t.publishing thread = true) (hpast : Orderly past)
      (hlog : t.logOf thread = past ++ .published d.event targets :: steps) (h : Underway d targets steps)

variable {t t' : Traffic β} {thread other : Thread} {happening : Happening β} {d : Delivery β}
  {targets : List (Option β)} {steps : List (Happening β)} {deliveries : List (Delivery β)} {flag : Bool}

@[simp] theorem logOf_note_self : (t.note thread happening).logOf thread = t.logOf thread ++ [happening] := by
  simp [logOf, note]

@[simp] theorem logOf_note_of_ne (h : other ≠ thread) : (t.note thread happening).logOf other = t.logOf other := by
  simp [logOf, note, h.symm]

@[simp] theorem logOf_proceed : (t.proceed thread deliveries).logOf other = t.logOf other := rfl

@[simp] theorem logOf_mark : (t.mark thread flag).logOf other = t.logOf other := rfl

@[simp] theorem deliveries_note : (t.note thread happening).deliveries = t.deliveries := rfl

@[simp] theorem deliveries_mark : (t.mark thread flag).deliveries = t.deliveries := rfl

@[simp] theorem deliveries_proceed_self : (t.proceed thread deliveries).deliveries thread = deliveries :=
  Function.update_self ..

@[simp] theorem deliveries_proceed_of_ne (h : other ≠ thread) :
    (t.proceed thread deliveries).deliveries other = t.deliveries other :=
  Function.update_of_ne h ..

@[simp] theorem publishing_note : (t.note thread happening).publishing = t.publishing := rfl

@[simp] theorem publishing_proceed : (t.proceed thread deliveries).publishing = t.publishing := rfl

@[simp] theorem publishing_mark_self : (t.mark thread flag).publishing thread = flag := Function.update_self ..

@[simp] theorem publishing_mark_of_ne (h : other ≠ thread) : (t.mark thread flag).publishing other = t.publishing other :=
  Function.update_of_ne h ..

theorem propagate_nil (outcome : Except Fault Unit) : propagate outcome ([] : List (Delivery β)) = [] := by
  cases outcome <;> rfl

theorem publish_of_flag (h : t.publishing thread = true) (event : Event) :
    t.publish thread event = t.note thread (.suppressed event) := if_pos h

theorem publish_of_not_flag (h : t.publishing thread = false) (event : Event) :
    t.publish thread event =
      ((t.note thread (.published event t.bus.subscribers)).mark thread true).proceed thread
        (⟨event, t.bus.subscribers, []⟩ :: t.deliveries thread) :=
  if_neg (by simp [h])

namespace Underway

/-- When the one who was called has nothing left to do, it is the turn of the others. -/
theorem rest (h : Underway d targets steps) (hdoing : d.doing = []) {more : List (Happening β)}
    {outcome : Except Fault Unit} (hmore : Delivers d.event d.waiting more outcome) :
    Delivers d.event targets (steps ++ more) outcome := by
  cases h with
  | between _ h => exact h _ _ hmore
  | within did hdid h =>
    rw [hdoing, List.append_nil, List.append_assoc]
    exact h _ _ (.returned did hdid hmore)

section

variable {event : Event} {waiting : List (Option β)} {reaction : Reaction β} {doing : List (Reaction β)} {name : β}

theorem begins (event : Event) (targets : List (Option β)) : Underway ⟨event, targets, []⟩ targets [] :=
  .between rfl fun _ _ h => h

/-- The one who was called has done one thing more, and goes on. -/
theorem performs (h : Underway ⟨event, waiting, reaction :: doing⟩ targets steps)
    (hreaction : performed [reaction] = ([happening], .ok ())) :
    Underway ⟨event, waiting, doing⟩ targets (steps ++ [happening]) := by
  cases h with
  | between hdoing => cases hdoing
  | @within before name did hdid h =>
    have hmore := performed_append hdid [reaction]
    rw [hreaction] at hmore
    have hwithin : Underway ⟨event, waiting, doing⟩ targets
        (before ++ .called name event (did ++ [reaction] ++ doing) :: (performed (did ++ [reaction])).1) :=
      .within _ (by rw [hmore]) h
    rw [hmore, List.append_assoc] at hwithin
    rwa [List.append_assoc]

theorem fails {fault : Fault} (h : Underway ⟨event, waiting, .fail fault :: doing⟩ targets steps) :
    Delivers event targets (steps ++ [.failed fault]) (.error fault) := by
  cases h with
  | between hdoing => cases hdoing
  | @within before name did hdid h =>
    have hall : performed (did ++ .fail fault :: doing) = ((performed did).1 ++ [.failed fault], .error fault) :=
      performed_append hdid _
    have hfailed := h _ _ (.failed _ (by rw [hall]))
    rw [hall] at hfailed
    rwa [List.append_assoc]

theorem skips (h : Underway ⟨event, none :: waiting, []⟩ targets steps) : Underway ⟨event, waiting, []⟩ targets steps :=
  .between rfl fun _ _ hmore => h.rest rfl (.skipped hmore)

theorem calls (h : Underway ⟨event, some name :: waiting, []⟩ targets steps) (reactions : List (Reaction β)) :
    Underway ⟨event, waiting, reactions⟩ targets (steps ++ [.called name event reactions]) :=
  .within [] rfl fun _ _ hmore => h.rest rfl hmore

theorem returns (h : Underway ⟨event, [], []⟩ targets steps) : Delivers event targets steps (.ok ()) := by
  have hdone := h.rest rfl .done
  rwa [List.append_nil] at hdone

end

/-- There is always a way to the end. -/
theorem exists_delivers (h : Underway d targets steps) :
    ∃ more outcome, Delivers d.event targets (steps ++ more) outcome := by
  have hothers (waiting : List (Option β)) : ∃ more, Delivers d.event waiting more (.ok ()) := by
    induction waiting with
    | nil => exact ⟨[], .done⟩
    | cons target rest ih =>
      obtain ⟨more, hmore⟩ := ih
      cases target with
      | none => exact ⟨more, .skipped hmore⟩
      | some name => exact ⟨_, .returned [] rfl hmore⟩
  obtain ⟨more, hmore⟩ := hothers d.waiting
  cases h with
  | between _ h => exact ⟨more, _, h _ _ hmore⟩
  | @within before name did hdid h =>
    have hall := performed_append hdid d.doing
    cases hdoing : (performed d.doing).2 with
    | ok =>
      have hreturned := h _ _ (.returned _ (by rw [hall, hdoing]) hmore)
      rw [hall] at hreturned
      refine ⟨(performed d.doing).1 ++ more, .ok (), ?_⟩
      simpa [List.append_assoc] using hreturned
    | error fault =>
      have hfailed := h _ _ (.failed _ (by rw [hall, hdoing]))
      rw [hall] at hfailed
      refine ⟨(performed d.doing).1, .error fault, ?_⟩
      simpa [List.append_assoc] using hfailed

end Underway

/-- Nothing happens on other threads. -/
theorem minds_of (thread : Thread) (h : ∀ thread, t.Minds thread)
    (hothers : ∀ other, other ≠ thread → t'.deliveries other = t.deliveries other ∧
      t'.publishing other = t.publishing other ∧ t'.logOf other = t.logOf other)
    (hown : t'.Minds thread) (other : Thread) : t'.Minds other := by
  by_cases hother : other = thread
  · rw [hother]
    exact hown
  · obtain ⟨hdeliveries, hflag, hlog⟩ := hothers other hother
    cases h other with
    | outside hd hf hl => exact .outside (hdeliveries.trans hd) (hflag.trans hf) (hlog ▸ hl)
    | inside hd hf hpast hl h => exact .inside (hdeliveries.trans hd) (hflag.trans hf) hpast (hlog.trans hl) h

namespace Minds

theorem of_outside (h : t.Minds thread) (houtside : t.deliveries thread = []) :
    t.publishing thread = false ∧ Orderly (t.logOf thread) := by
  cases h with
  | outside _ hflag hlog => exact ⟨hflag, hlog⟩
  | inside hdeliveries =>
    rw [houtside] at hdeliveries
    cases hdeliveries

/-- Deliveries are never nested. -/
theorem of_inside (h : t.Minds thread) (hinside : t.deliveries thread = d :: deliveries) :
    deliveries = [] ∧ t.publishing thread = true ∧ ∃ past targets steps, Orderly past ∧
      t.logOf thread = past ++ .published d.event targets :: steps ∧ Underway d targets steps := by
  cases h with
  | outside hdeliveries =>
    rw [hinside] at hdeliveries
    cases hdeliveries
  | @inside d' past steps targets hdeliveries hflag hpast hlog h =>
    rw [hinside] at hdeliveries
    obtain ⟨rfl, rfl⟩ := List.cons.inj hdeliveries
    exact ⟨rfl, hflag, past, targets, steps, hpast, hlog, h⟩

theorem leave {event : Event} {outcome : Except Fault Unit} {past : List (Happening β)} (hpast : Orderly past)
    (hlog : t.logOf thread = past ++ .published event targets :: steps)
    (hdelivers : Delivers event targets steps outcome) : (t.leave thread outcome []).Minds thread := by
  have hnone : (t.leave thread outcome []).deliveries thread = [] := by
    rw [Traffic.leave, deliveries_proceed_self]
    exact propagate_nil outcome
  refine .outside hnone (by simp [Traffic.leave]) ?_
  have hleft : (t.leave thread outcome []).logOf thread =
      past ++ .published event targets :: (steps ++ [.ended outcome]) := by
    simp [Traffic.leave, hlog]
  rw [hleft]
  exact hpast.delivered hdelivers

end Minds

/-- What a thread does is in order, whatever the others do. -/
theorem Step.minds (hstep : Step t t') (h : ∀ thread, t.Minds thread) : ∀ thread, t'.Minds thread := by
  cases hstep with
  | @published thread houtside event =>
    obtain ⟨hflag, hlog⟩ := (h thread).of_outside houtside
    rw [publish_of_not_flag hflag, houtside]
    refine minds_of thread h (fun other hother => by simp [hother]) ?_
    exact .inside (deliveries_proceed_self ..) (by simp) hlog (by simp) (.begins event _)
  | @subscribed thread houtside name =>
    obtain ⟨hflag, hlog⟩ := (h thread).of_outside houtside
    refine minds_of thread h (fun other hother => by simp [hother]) (.outside houtside hflag ?_)
    rw [logOf_note_self]
    exact hlog.subscribed name
  | @reset houtside thread =>
    obtain ⟨hflag, hlog⟩ := (h thread).of_outside (houtside thread)
    refine minds_of thread h (fun other hother => by simp [hother]) (.outside (houtside thread) hflag ?_)
    rw [logOf_note_self]
    exact hlog.reset
  | @publishes thread event other waiting doing outer hinside =>
    obtain ⟨rfl, hflag, past, targets, steps, hpast, hlog, hunder⟩ := (h thread).of_inside hinside
    have hmarked : (t.proceed thread [⟨event, waiting, doing⟩]).publishing thread = true := hflag
    rw [publish_of_flag hmarked]
    refine minds_of thread h (fun other hother => by simp [hother]) ?_
    exact .inside (deliveries_proceed_self ..) hflag hpast (by simp [hlog]) (hunder.performs rfl)
  | @subscribes thread event waiting name doing outer hinside =>
    obtain ⟨rfl, hflag, past, targets, steps, hpast, hlog, hunder⟩ := (h thread).of_inside hinside
    refine minds_of thread h (fun other hother => by simp [hother]) ?_
    exact .inside (deliveries_proceed_self ..) hflag hpast (by simp [hlog]) (hunder.performs rfl)
  | @fails thread event waiting fault doing outer hinside =>
    obtain ⟨rfl, hflag, past, targets, steps, hpast, hlog, hunder⟩ := (h thread).of_inside hinside
    refine minds_of thread h (fun other hother => by simp [Traffic.leave, hother]) ?_
    exact .leave hpast (by simp [hlog]) hunder.fails
  | @skips thread event waiting outer hinside =>
    obtain ⟨rfl, hflag, past, targets, steps, hpast, hlog, hunder⟩ := (h thread).of_inside hinside
    refine minds_of thread h (fun other hother => by simp [hother]) ?_
    exact .inside (deliveries_proceed_self ..) hflag hpast hlog hunder.skips
  | @calls thread event name waiting outer hinside reactions =>
    obtain ⟨rfl, hflag, past, targets, steps, hpast, hlog, hunder⟩ := (h thread).of_inside hinside
    refine minds_of thread h (fun other hother => by simp [hother]) ?_
    exact .inside (deliveries_proceed_self ..) hflag hpast (by simp [hlog]) (hunder.calls reactions)
  | @returns thread event outer hinside =>
    obtain ⟨rfl, hflag, past, targets, steps, hpast, hlog, hunder⟩ := (h thread).of_inside hinside
    refine minds_of thread h (fun other hother => by simp [Traffic.leave, hother]) ?_
    exact .leave hpast hlog hunder.returns

/-! ## Everything that happens -/

/-- What is come to from a bus with the subscribers that it begins with. -/
inductive Reached (initial : List (Option β)) : Traffic β → Prop
  | fresh : Reached initial { bus := { initial } }
  | step {t t' : Traffic β} (h : Reached initial t) (hstep : Step t t') : Reached initial t'

/-- Those who are subscribed after something has happened. -/
def subscribed (initial : List (Option β)) (history : List (Thread × Happening β)) : List (Option β) :=
  (noting { initial } (history.map (·.2))).subscribers

/-- The bus is what has become of it, and each event is delivered to those who were subscribed when it was
    published. -/
structure Traced (initial : List (Option β)) (t : Traffic β) : Prop where
  bus : t.bus = noting { initial } (t.history.map (·.2))
  targets {before after : List (Thread × Happening β)} {thread : Thread} {event : Event} {targets : List (Option β)}
    (h : t.history = before ++ (thread, .published event targets) :: after) : targets = subscribed initial before

variable {initial : List (Option β)}

theorem Reached.minds (h : Reached initial t) (thread : Thread) : t.Minds thread := by
  induction h generalizing thread with
  | fresh => exact .outside rfl rfl .nil
  | step _ hstep ih => exact hstep.minds ih thread

namespace Traced

theorem note (h : Traced initial t)
    (hpublished : ∀ event targets, happening = .published event targets → targets = t.bus.subscribers) :
    Traced initial (t.note thread happening) where
  bus := by
    change happening.note t.bus = noting { initial } ((t.history ++ [(thread, happening)]).map (·.2))
    rw [h.bus, List.map_append, noting_append]
    rfl
  targets {before after thread' event targets} hsplit := by
    change t.history ++ [(thread, happening)] = _ at hsplit
    rcases List.eq_nil_or_concat after with rfl | ⟨rest, last, rfl⟩
    · obtain ⟨rfl, hlast⟩ := List.append_inj' hsplit rfl
      obtain ⟨-, hlast⟩ := Prod.mk.inj (List.cons.inj hlast).1
      rw [hpublished event targets hlast, h.bus]
      rfl
    · rw [List.concat_eq_append, ← List.cons_append, ← List.append_assoc] at hsplit
      exact h.targets (List.append_inj' hsplit rfl).1

theorem publish (h : Traced initial t) (event : Event) : Traced initial (t.publish thread event) := by
  rw [Traffic.publish]
  split
  · exact h.note nofun
  · have hnoted : Traced initial (t.note thread (.published event t.bus.subscribers)) :=
      h.note fun _ _ heq => (Happening.published.inj heq).2.symm
    exact ⟨hnoted.bus, hnoted.targets⟩

theorem leave (h : Traced initial t) (outcome : Except Fault Unit) :
    Traced initial (t.leave thread outcome deliveries) := by
  have hnoted : Traced initial (t.note thread (.ended outcome)) := h.note nofun
  exact ⟨hnoted.bus, hnoted.targets⟩

theorem step (h : Traced initial t) (hstep : Step t t') : Traced initial t' := by
  have hproceed (thread : Thread) (deliveries : List (Delivery β)) : Traced initial (t.proceed thread deliveries) :=
    ⟨h.bus, h.targets⟩
  cases hstep with
  | published _ event => exact h.publish event
  | publishes => exact (hproceed _ _).publish _
  | subscribed | reset => exact h.note nofun
  | subscribes | calls => exact (hproceed _ _).note nofun
  | fails =>
    have hfailed {fault : Fault} {thread : Thread} : Traced initial (t.note thread (.failed fault)) := h.note nofun
    exact hfailed.leave _
  | skips => exact hproceed _ _
  | returns => exact h.leave _

end Traced

theorem Reached.traced (h : Reached initial t) : Traced initial t := by
  induction h with
  | fresh => exact ⟨rfl, fun hsplit => absurd hsplit (by simp)⟩
  | step _ hstep ih => exact ih.step hstep

/-! ## A thread that is left alone -/

/-- What can happen from one moment to a later one. -/
abbrev Steps : Traffic β → Traffic β → Prop := Relation.ReflTransGen Step

/-- One thing after the other happens on a thread. -/
def notes (t : Traffic β) (thread : Thread) (log : List (Happening β)) : Traffic β :=
  { t with bus := t.bus.noting log, history := t.history ++ log.map (thread, ·) }

theorem notes_nil : t.notes thread [] = t := by
  simp [notes, noting]

theorem notes_note (log : List (Happening β)) :
    (t.note thread happening).notes thread log = t.notes thread (happening :: log) := by
  simp [notes, note, noting]

theorem notes_notes (log more : List (Happening β)) :
    (t.notes thread log).notes thread more = t.notes thread (log ++ more) := by
  simp [notes, noting]

theorem proceed_notes (log : List (Happening β)) :
    (t.proceed thread deliveries).notes thread log = (t.notes thread log).proceed thread deliveries := rfl

theorem proceed_note_notes (log : List (Happening β)) :
    ((t.proceed thread deliveries).note thread happening).notes thread log =
      (t.notes thread (happening :: log)).proceed thread deliveries := by
  rw [← notes_note]
  rfl

theorem leave_proceed (outcome : Except Fault Unit) (outer : List (Delivery β)) :
    (t.proceed thread deliveries).leave thread outcome outer = t.leave thread outcome outer := by
  simp [leave, proceed, note, mark]

theorem proceed_self (h : t.deliveries thread = deliveries) : t.proceed thread deliveries = t := by
  rw [proceed, ← h, Function.update_eq_self]

theorem proceed_proceed (deliveries' : List (Delivery β)) :
    (t.proceed thread deliveries).proceed thread deliveries' = t.proceed thread deliveries' := by
  simp [proceed]

section

variable {event : Event} {waiting : List (Option β)}

/-- A thread that is left alone performs the reactions of the one who was called. -/
theorem steps_performed {did doing : List (Reaction β)} (hdid : (performed did).2 = .ok ())
    (hinside : t.deliveries thread = [⟨event, waiting, did ++ doing⟩]) (hflag : t.publishing thread = true) :
    Steps t ((t.notes thread (performed did).1).proceed thread [⟨event, waiting, doing⟩]) := by
  induction did generalizing t with
  | nil =>
    have hsame : (t.notes thread (performed []).1).proceed thread [⟨event, waiting, doing⟩] = t := by
      rw [performed, notes_nil]
      exact proceed_self hinside
    rw [hsame]
  | cons reaction rest ih =>
    have hgoing {happening : Happening β} (hrest : (performed rest).2 = .ok ()) :
        Steps ((t.proceed thread [⟨event, waiting, rest ++ doing⟩]).note thread happening)
          ((t.notes thread (happening :: (performed rest).1)).proceed thread [⟨event, waiting, doing⟩]) := by
      have hsteps := ih (t := (t.proceed thread [⟨event, waiting, rest ++ doing⟩]).note thread happening) hrest
        (deliveries_proceed_self ..) hflag
      rwa [proceed_note_notes, proceed_proceed] at hsteps
    rw [List.cons_append] at hinside
    cases reaction with
    | publish other =>
      refine .head (.publishes hinside) ?_
      have hmarked : (t.proceed thread [⟨event, waiting, rest ++ doing⟩]).publishing thread = true := hflag
      rw [publish_of_flag hmarked]
      exact hgoing hdid
    | subscribe name => exact .head (.subscribes hinside) (hgoing hdid)
    | fail fault => cases hdid

/-- The next one is called, and does what there is to do up to some point. -/
theorem steps_called {name : β} {did : List (Reaction β)} (hdid : (performed did).2 = .ok ())
    (doing : List (Reaction β)) (hinside : t.deliveries thread = [⟨event, some name :: waiting, []⟩])
    (hflag : t.publishing thread = true) :
    Steps t ((t.notes thread (.called name event (did ++ doing) :: (performed did).1)).proceed thread
      [⟨event, waiting, doing⟩]) := by
  let called := (t.proceed thread [⟨event, waiting, did ++ doing⟩]).note thread (.called name event (did ++ doing))
  have hmore := steps_performed (t := called) hdid (deliveries_proceed_self ..) hflag
  rw [proceed_note_notes, proceed_proceed] at hmore
  exact .head (.calls hinside _) hmore

/-- A thread that is left alone delivers the rest of an event. -/
theorem steps_delivers {log : List (Happening β)} {outcome : Except Fault Unit} (h : Delivers event waiting log outcome)
    (hinside : t.deliveries thread = [⟨event, waiting, []⟩]) (hflag : t.publishing thread = true) :
    Steps t ((t.notes thread log).leave thread outcome []) := by
  induction h generalizing t with
  | done =>
    rw [notes_nil]
    exact .single (.returns hinside)
  | @skipped rest log outcome _ ih =>
    have hothers := ih (t := t.proceed thread [⟨event, rest, []⟩]) (deliveries_proceed_self ..) hflag
    rw [proceed_notes, leave_proceed] at hothers
    exact .head (.skips hinside) hothers
  | @returned name rest log outcome reactions hreturns _ ih =>
    have hcalled := steps_called hreturns [] hinside hflag
    rw [List.append_nil] at hcalled
    let called := t.notes thread (.called name event reactions :: (performed reactions).1)
    have hothers := ih (t := called.proceed thread [⟨event, rest, []⟩]) (deliveries_proceed_self ..) hflag
    rw [proceed_notes, leave_proceed, notes_notes] at hothers
    exact hcalled.trans hothers
  | @failed name rest fault reactions hfails =>
    obtain ⟨did, doing, hsplit, hdid, hperformed⟩ := exists_of_performed_error hfails
    have hcalled := steps_called hdid (.fail fault :: doing) hinside hflag
    let called := t.notes thread (.called name event reactions :: (performed did).1)
    have hfailed : Step (called.proceed thread [⟨event, rest, .fail fault :: doing⟩]) _ :=
      .fails (deliveries_proceed_self ..)
    rw [← hsplit] at hcalled
    have hlast : ((called.proceed thread [⟨event, rest, .fail fault :: doing⟩]).note thread (.failed fault)).leave thread
        (.error fault) [] = (t.notes thread (.called name event reactions :: (performed reactions).1)).leave thread
          (.error fault) [] := by
      have hnoted : (called.proceed thread [⟨event, rest, .fail fault :: doing⟩]).note thread (.failed fault) =
          (called.notes thread [.failed fault]).proceed thread [⟨event, rest, .fail fault :: doing⟩] := rfl
      rw [hnoted, leave_proceed, notes_notes, hperformed]
      rfl
    rw [hlast] at hfailed
    exact hcalled.trans (.single hfailed)

end

/-- A thread is outside all publications. What it makes of the bus by publishing, if it is left alone, is what
    is computed of the bus as it sees it. -/
structure Outside (t : Traffic β) (thread : Thread) : Prop where
  flag : t.publishing thread = false
  orderly : Orderly (t.logOf thread)
  publishes (behaviour : β → Event → List (Reaction β)) (event : Event) :
    ∃ t' log outcome, Steps t t' ∧ t'.deliveries thread = [] ∧
      (t.seen thread).publish behaviour event = (t'.seen thread, outcome) ∧ Reacts behaviour log ∧
      t'.history = t.history ++ (.published event t.bus.subscribers :: (log ++ [.ended outcome])).map (thread, ·)

/-- A thread is in a publication, which is not complete yet. -/
structure Inside (t : Traffic β) (thread : Thread) : Prop where
  flag : t.publishing thread = true
  underway : ∃ past event targets steps more outcome, Orderly past ∧
    t.logOf thread = past ++ .published event targets :: steps ∧ Delivers event targets (steps ++ more) outcome

namespace Minds

theorem inside_of (h : t.Minds thread) (hinside : t.deliveries thread ≠ []) : t.Inside thread := by
  cases h with
  | outside hdeliveries => exact absurd hdeliveries hinside
  | inside _ hflag hpast hlog h =>
    obtain ⟨more, outcome, hdelivers⟩ := h.exists_delivers
    exact ⟨hflag, _, _, _, _, more, outcome, hpast, hlog, hdelivers⟩

theorem outside_of (h : t.Minds thread) (houtside : t.deliveries thread = []) : t.Outside thread := by
  obtain ⟨hflag, horderly⟩ := h.of_outside houtside
  refine ⟨hflag, horderly, fun behaviour event => ?_⟩
  have hunmarked : (t.seen thread).publishing = false := hflag
  obtain ⟨log, hdelivers, hreacts, hresult⟩ := delivered_publish behaviour event hunmarked
  let published := (t.note thread (.published event t.bus.subscribers)).mark thread true
  let begun := published.proceed thread [⟨event, t.bus.subscribers, []⟩]
  have hbegun : Step t begun := by
    have hstep : Step t (t.publish thread event) := .published houtside event
    rwa [publish_of_not_flag hflag, houtside] at hstep
  let outcome := ((t.seen thread).publish behaviour event).2
  let left := (begun.notes thread log).leave thread outcome []
  have hsteps : Steps begun left := steps_delivers hdelivers (deliveries_proceed_self ..) publishing_mark_self
  refine ⟨left, log, outcome, .head hbegun hsteps, ?_, Prod.ext (hresult.trans ?_) rfl, hreacts, ?_⟩
  · exact (deliveries_proceed_self ..).trans (propagate_nil outcome)
  · -- What the thread sees at the end is not marked, as it was not at the beginning.
    have hleft : left.seen thread = { t.bus.noting log with publishing := false } :=
      congrArg (fun flag => { t.bus.noting log with publishing := flag }) publishing_mark_self
    rw [hleft, seen, noting_publishing, hflag]
  · change (t.history ++ [(thread, .published event t.bus.subscribers)] ++ log.map (thread, ·)) ++
      [(thread, .ended outcome)] = _
    simp

end Minds

end Traffic

/-- One who publishes and subscribes another while being called, one who fails, and others who do nothing. -/
def chatter : Nat → Event → List (Reaction Nat)
  | 0, event => [.publish event, .subscribe (some 2), .publish event]
  | 1, _ => [.fail (.plain "full")]
  | _, _ => []

/-- Two publications are suppressed, and nobody is called after the one who fails. -/
example :
    let ping : Event := { id := "ping" }
    let result := (after [some 0, none, some 1, some 3] []).publish chatter ping
    result.1.calls = [(0, ping), (1, ping)] ∧ result.1.suppressed = 2 ∧
      result.1.subscribers = [some 0, none, some 1, some 3, some 2] ∧ result.1.publishing = false ∧
      result.2 = .error (.plain "full") := by
  exact ⟨rfl, rfl, rfl, rfl, rfl⟩

end EventBus

end Fingerprint
