import Fingerprint.Proofs.Bookkeeping
import Fingerprint.Proofs.Likeness

/-!
# Events from other devices

An event of the driver may come from a device other than the one that is open.
That is told to observers, and to the sink of the session that the event is
for, and it makes no difference besides: as long as those who are told make
nothing of it, the same becomes of the event as if it came from any other
device.

* `Host.Blind`: a host to which it does not matter where events come from;
* `Host.Blind.dispatch`: then it does not matter to the coordinator;
* `Record.Reachable.routes`: where an event leads, from whatever device.
-/

namespace Fingerprint

variable {ω κ : Type}

/-- A host that makes nothing of the device that a sink is told of, or of events from a device that is
    not the open one. What may be different in its world is up to `W`. -/
structure Host.Blind (host : Host ω κ) (W : ω → ω → Prop) : Prop where
  observe (event : Event) {s : System ω κ} {world : ω} (h : W s.world world) :
    W (host.observe event s) (host.observe event { s with world })
  overlook {event : Event} (hevent : event.id = "driver_device_mismatch") {s : System ω κ} {world : ω}
    (h : W s.world world) : W (host.observe event s) world ∧ W s.world (host.observe event { s with world })
  answer (call : Call) (h : call.isSink = false) : (host.answer call).Likewise (.id κ) W (host.answer call)
  sink (name : SinkName) (callback : Callback) (device : UInt64) :
    Op.Likewise (.id κ) W (host.answer (.sink name callback)) (host.answer (.sink name (callback.fromDevice device)))

namespace Host.Blind

variable {host : Host ω κ} {W : ω → ω → Prop} (h : host.Blind W)

include h

/-- The host is its own likeness, whatever the devices. -/
theorem likeness : host.Likeness host (.id κ) (fun _ _ => True) W := by
  refine .of_answer rfl ?_ (fun call _ hsink => h.answer call hsink) (fun _ => trivial)
    fun name callback device _ => h.sink name callback device
  intro event event' hevent
  obtain rfl := hevent.eq
  refine .modified fun s s' hs => ?_
  obtain ⟨world, hworld, rfl⟩ := System.disguised_id_iff.1 hs
  exact System.disguised_id_iff.2 ⟨_, h.observe _ hworld, rfl⟩

/-- Whether it is noted where an event comes from makes no difference. -/
theorem checkDevice (event : DriverEvent) (device : UInt64) :
    (host.checkDevice event).Likewise (.id κ) W (host.checkDevice (event.fromDevice device)) := by
  have hnoted {event : Event} (hevent : event.id = "driver_device_mismatch") :
      Op.Likewise (.id κ) W (host.publish event) (pure ()) := by
    intro s s' hs
    obtain ⟨world, hworld, rfl⟩ := System.disguised_id_iff.1 hs
    exact ⟨.ok rfl, System.disguised_id_iff.2 ⟨world, (h.overlook hevent hworld).1, rfl⟩⟩
  have hnoted' {event : Event} (hevent : event.id = "driver_device_mismatch") :
      Op.Likewise (.id κ) W (pure ()) (host.publish event) := by
    intro s s' hs
    obtain ⟨world, hworld, rfl⟩ := System.disguised_id_iff.1 hs
    exact ⟨.ok rfl, System.disguised_id_iff.2 ⟨_, (h.overlook hevent hworld).2, rfl⟩⟩
  refine .get_bind fun s s' _ => ?_
  dsimp only
  -- It may be noted from either device, or from both, one note being overlooked after the other.
  split <;> split
  · exact fun s s' hs => ⟨.ok rfl, (hnoted' rfl _ _ (hnoted rfl s s' hs).2).2⟩
  · exact hnoted rfl
  · exact hnoted' rfl
  · exact .result ()

/-- An event comes to the same from any device, but for what the host keeps for itself. -/
theorem dispatch {s : System ω κ} (hworld : W s.world s.world) (event : DriverEvent) (device : UInt64) :
    ∃ world, W ((host.dispatch event).run s).2.world world ∧
      (host.dispatch (event.fromDevice device)).run s =
        (((host.dispatch event).run s).1, { ((host.dispatch event).run s).2 with world }) := by
  obtain ⟨hagree, hafter⟩ := h.likeness.dispatch event device trivial (h.checkDevice event device) s s
    (System.disguised_id_iff.2 ⟨s.world, hworld, rfl⟩)
  obtain ⟨world, hkept, heq⟩ := System.disguised_id_iff.1 hafter
  exact ⟨world, hkept, Prod.ext (Op.agree_eq_iff.1 hagree).symm heq⟩

end Host.Blind

/-- What the store is asked for with an event is the same from any device. -/
theorem Performance.asked_fromDevice (event : DriverEvent) (device : UInt64) (slots : Slots) (setup : Setup) :
    asked (⟨.driverEvent (event.fromDevice device), slots⟩ : Performance κ) setup =
      asked (⟨.driverEvent event, slots⟩ : Performance κ) setup := by
  cases event <;> rfl

/-- What was asked of the store is the same again. -/
theorem changes_concat {history history' : List Entry} (h : changes history' = changes history) {entry entry' : Entry}
    (hentry : entry'.change? = entry.change?) : changes (history' ++ [entry']) = changes (history ++ [entry]) := by
  rw [changes_append, changes_append, h]
  simp only [changes, List.filterMap_cons, hentry]

/-- It does not matter to a ledger where events come from, if it does not to its rule. -/
theorem Ledger.blind (setup : Setup) {rule : (call : Call) → Except Fault call.Reply}
    (hrule : ∀ name callback device, rule (.sink name (callback.fromDevice device)) = rule (.sink name callback)) :
    (Ledger.host setup rule).Blind fun world world' => changes world' = changes world where
  observe event _ _ h := changes_concat h rfl
  overlook {event} _ s world h := by
    change changes world = changes (s.world ++ [.published event s.slots]) ∧
      changes (world ++ [.published event s.slots]) = changes s.world
    rw [changes_append, changes_append, h]
    exact ⟨(List.append_nil _).symm, List.append_nil _⟩
  answer call _ := by
    change Op.Likewise (.id Empty) _ (answer rule call) (answer rule call)
    exact .settled _ fun s world hworld => changes_concat hworld rfl
  sink name callback device := by
    change Op.Likewise (.id Empty) _ (answer rule (.sink name callback))
      (answer rule (.sink name (callback.fromDevice device)))
    rw [answer, answer, hrule]
    exact .settled _ fun s world hworld => changes_concat hworld rfl

/-- In every state that runs lead to, an event is dispatched without fail and leads where it should. If it
    came from any other device, the store would be asked for the same, and the rest would be the
    same as well, as long as those who are told of devices make nothing of them. -/
theorem Record.Reachable.routes {host : Host ω κ} {record : Record host} {s : System ω κ} (hs : record.Reachable s)
    (event : DriverEvent) :
    ∃ told s', (host.dispatch event).run s = (.ok (), s') ∧
      tellings (record.history s'.world) = tellings (record.history s.world) ++ told ∧ event.Leads s s' told ∧
      ∀ device,
        (record.SparesStore →
          changes (record.history ((host.dispatch (event.fromDevice device)).run s).2.world) =
            changes (record.history s'.world)) ∧
        ∀ W, host.Blind W → W s.world s.world → ∃ world, W s'.world world ∧
          (host.dispatch (event.fromDevice device)).run s = (.ok (), { s' with world }) := by
  obtain ⟨told, s', hrun, htold, hleads⟩ := record.leads_dispatch hs.sound event
  refine ⟨told, s', hrun, htold, hleads, fun device => ⟨fun hspares => ?_, fun W hblind hworld => ?_⟩⟩
  · have hchanges := hspares.changes_perform (.driverEvent event) s
    have hchanges' := hspares.changes_perform (.driverEvent (event.fromDevice device)) s
    rw [Performance.asked_fromDevice, ← hchanges] at hchanges'
    rw [Host.perform, Host.perform, hrun] at hchanges'
    exact hchanges'
  · have hsame := hblind.dispatch hworld event device
    rw [hrun] at hsame
    exact hsame

/-- A failed attempt from a device that is not the open one ends the authentication, and is counted. -/
theorem Record.Reachable.routes_of_failure :
    let s := Ledger.perform {} Ledger.obliging [.startAuthentication 1 (some "a") { subject := 7 }]
    ∃ s' world,
      ((Ledger.host {} Ledger.obliging).dispatch (.authenticated 1 0 7)).run s = (.ok (), s') ∧
      ((Ledger.host {} Ledger.obliging).dispatch (.authenticated 2 0 7)).run s = (.ok (), { s' with world }) ∧
      s'.slots = {} ∧ s'.lockout.failed = 1 := by
  intro s
  have hs := Ledger.reachable_perform {} Ledger.obliging [.startAuthentication 1 (some "a") { subject := 7 }]
  obtain ⟨told, s', hrun, -, -, hdevice⟩ := Record.Reachable.routes hs (.authenticated 1 0 7)
  have hblind : (Ledger.host {} Ledger.obliging).Blind fun world world' => changes world' = changes world :=
    Ledger.blind {} fun _ _ _ => rfl
  obtain ⟨world, -, hsame⟩ := (hdevice 2).2 _ hblind rfl
  refine ⟨s', world, hrun, hsame, ?_⟩
  obtain rfl : (((Ledger.host {} Ledger.obliging).dispatch (.authenticated 1 0 7)).run s).2 = s' := congrArg Prod.snd hrun
  decide

end Fingerprint
