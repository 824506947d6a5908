import Fingerprint.Proofs.Record

/-!
# What the connection does

The connection to the driver concerns no session as long as the driver is not
asked for an operation of the sensor: acquiring it changes the connection and
leaves notes, nothing else. A request for an operation, to a driver that is
there, is one call.

* `Record.yields_acquire`: what acquiring the driver does;
* `Record.yields_forward`: what a request to a driver that is there does.
-/

namespace Fingerprint

namespace Record

variable {ω κ α β : Type} {host : Host ω κ} (record : Record host) (v : View κ)

/-- Whatever an operation ends with, the view that it leaves is related to the one before. -/
def Along (rel : View κ → View κ → Prop) (v : View κ) (op : Op ω κ α) : Prop :=
  record.Ensures v op fun _ v' => rel v v'

variable {record v} {rel : View κ → View κ → Prop}

theorem Along.bind [Trans rel rel rel] {op : Op ω κ α} {f : α → Op ω κ β}
    (h : record.Along rel v op)
    (hf : ∀ a v', record.Along rel v' (f a)) : record.Along rel v (op >>= f) := by
  refine ensures_bind (Ensures.mono h fun outcome v' hv' => ?_)
  cases outcome with
  | ok a => exact Ensures.mono (hf a v') fun _ v'' => Trans.trans hv'
  | error fault => exact hv'

theorem Yields.along {op : Op ω κ α} {post : α → View κ → Prop} (h : record.Yields v op post)
    (hpost : ∀ a v', post a v' → rel v v') : record.Along rel v op := by
  refine Ensures.mono h fun outcome v' => ?_
  rintro ⟨a, _, ha⟩
  exact hpost a v' ha

theorem Along.steady {op : Op ω κ α} (h : record.Along View.Logged v op) :
    record.Along View.Steady v op :=
  Ensures.mono h fun _ _ => View.Logged.steady

theorem Along.kept {op : Op ω κ α} (h : record.Along View.Logged v op) :
    record.Along View.Kept v op :=
  Ensures.mono h fun _ _ => View.Logged.kept

variable (record v)

theorem yields_publish_note (event : Event) (h : event.isAside) :
    record.Yields v (host.publish event) fun _ v' => v.Logged v' := by
  refine (record.yields_publish v event).mono fun _ v' hv' => ?_
  rw [hv']
  exact .of_notes (.published h)

/-- A call that is no part of the life of a session. -/
theorem along_answer (call : Call) (h : call.isForSession = false) :
    record.Along View.Logged v (host.answer call) := by
  refine Ensures.mono (record.ensures_answer v call) fun outcome v' hv' => ?_
  have hsink : call.isSink = false := by
    cases call with
    | sink => cases h
    | _ => rfl
  exact (View.Logged.of_notes (.called h)).trans (hv'.2 hsink)

theorem yields_onConnection (f : Connection → Connection) :
    record.Yields v (Host.onConnection f : Op ω κ Unit) fun _ v' =>
      v' = { v with connection := f v.connection } := by
  rintro s rfl
  exact ⟨(), rfl, rfl⟩

/-! ## Requests -/

/-- A guarded request ends as the request itself has, but for a note on its fault. -/
theorem yields_guarded {operation : Bytes} {request : Op ω κ α}
    {post : Except Fault α → View κ → Prop} (h : record.Ensures v request post) :
    record.Yields v (host.guarded operation request) fun reply v'' =>
      ∃ outcome v', post outcome v' ∧ v'.Logged v'' ∧
        (∀ a, reply = .ok a ↔ outcome = .ok a) ∧
        (∀ status, reply = .error status → status.outcome = .transportError) := by
  refine h.attempt.andThen fun outcome v' hv' => ?_
  cases outcome with
  | ok a =>
    refine yields_pure ⟨.ok a, v', hv', .refl v', fun b => ?_,
      fun status hstatus => by cases hstatus⟩
    simp only [Except.ok.injEq]
  | error fault =>
    refine (record.yields_publish v' _).andThen fun _ v'' hv'' => ?_
    refine yields_pure ⟨.error fault, v', hv', ?_, fun b => ?_, fun status hstatus => ?_⟩
    · rw [hv'']
      exact .of_notes (.published rfl)
    · simp only [reduceCtorEq]
    · cases hstatus
      rfl

/-- The driver has accepted if its answer was zero. -/
theorem yields_judge (operation : Bytes) (reply : Except DriverStatus Int)
    (h : ∀ status, reply = .error status → status.outcome ≠ .ok) :
    record.Yields v (host.judge operation reply) fun status v' =>
      v.Logged v' ∧ (status.isOk ↔ reply = .ok 0) := by
  cases reply with
  | error status =>
    refine yields_pure ⟨.refl v, ?_⟩
    simpa [DriverStatus.isOk] using h status rfl
  | ok code =>
    by_cases hcode : code = 0
    · simp only [Host.judge, hcode, ↓reduceIte]
      exact yields_pure ⟨.refl v, by simp [DriverStatus.isOk]⟩
    · simp only [Host.judge, hcode, ↓reduceIte]
      refine (record.yields_publish v _).andThen fun _ v' hv' => ?_
      refine yields_pure ⟨?_, by simp [DriverStatus.isOk, hcode]⟩
      rw [hv']
      exact .of_notes (.published rfl)

/-! ## Acquiring the driver -/

theorem yields_applyActiveSubject (handle : Handle) (active : ActiveSubject) :
    record.Yields v (host.applyActiveSubject handle active) fun _ v' => v.Logged v' := by
  have hask :=
    record.along_answer v (.driver handle (.setActiveSubject active.subject active.storage)) rfl
  refine (record.yields_guarded v hask).andThen fun reply v'' hreply => ?_
  obtain ⟨outcome, v', hv', hv'', -, hstatus⟩ := hreply
  refine (record.yields_judge v'' _ reply fun status h => by simp [hstatus status h]).mono ?_
  intro status v₃ h
  exact (hv'.trans hv'').trans h.1

theorem yields_reapply (handle : Handle) :
    record.Yields v (host.reapply handle) fun _ v' => v.Steady v' := by
  refine yields_get fun s hs => ?_
  cases s.connection.activeSubject with
  | none => exact yields_pure (.refl v)
  | some active =>
    refine (record.yields_applyActiveSubject v handle active).andThen fun status v' hv' => ?_
    refine (record.yields_onConnection v' _).mono fun _ v'' hv'' => ?_
    exact hv'.steady.trans (.of_eq hv'' rfl)

theorem along_openDevice (handle : Handle) :
    record.Along View.Steady v (host.openDevice handle) := by
  have hopen (v) : record.Along View.Steady v (do
      let device ← host.driver handle .openHal
      Host.onConnection ({ · with device })) := by
    refine (record.along_answer v (.driver handle .openHal) rfl).steady.bind fun device v' => ?_
    exact (record.yields_onConnection v' _).along fun _ v'' hv'' => .of_eq hv'' rfl
  unfold Host.openDevice
  split
  · exact (record.along_answer v (.driver handle .init) rfl).steady.bind fun _ v' => hopen v'
  · exact hopen v

/-- The driver that was handed out is taken into use, or else none is. -/
theorem yields_connect (hv : v.connected = false) (handle : Handle) (generation : Nat) :
    record.Yields v (host.connect handle generation) fun connected v' =>
      v.Kept v' ∧ (!connected → v'.connected = false) := by
  have hnone {v'} (h : v.Steady v') : v'.connected = false := by
    rw [View.connected, h.2, ← View.connected, hv]
  have hlink := (record.along_answer v (.driver handle (.linkToDeath generation)) rfl).attempt
  refine hlink.andThen fun outcome v₁ h₁ => ?_
  replace h₁ := View.Logged.steady h₁
  cases outcome with
  | error fault =>
    refine (record.yields_publish_note v₁ _ rfl).andThen fun _ v₂ h₂ => ?_
    exact yields_pure ⟨(h₁.trans h₂.steady).kept, fun _ => hnone (h₁.trans h₂.steady)⟩
  | ok _ =>
    refine (record.along_openDevice v₁ handle).attempt.andThen fun outcome v₂ h₂ => ?_
    replace h₂ := h₁.trans h₂
    cases outcome with
    | error fault =>
      refine (record.yields_publish_note v₂ _ rfl).andThen fun _ v₃ h₃ => ?_
      refine (record.yields_onConnection v₃ _).andThen fun _ v₄ h₄ => ?_
      have hsteady := (h₂.trans h₃.steady).trans (.of_eq h₄ rfl)
      exact yields_pure ⟨hsteady.kept, fun _ => hnone hsteady⟩
    | ok _ =>
      refine (record.yields_onConnection v₂ _).andThen fun _ v₃ h₃ => ?_
      replace h₃ := h₂.kept.trans (.of_eq (hnone h₂) h₃)
      refine yields_get fun s _ => ?_
      have hrest (v₄) (h₄ : v₃.Logged v₄) : record.Yields v₄ (do
          host.publish (Host.connectedEvent generation s.connection.device)
          host.reapply handle
          return true) fun connected v' => v.Kept v' ∧ (!connected → v'.connected = false) := by
        refine (record.yields_publish_note v₄ _ rfl).andThen fun _ v₅ h₅ => ?_
        refine (record.yields_reapply v₅ handle).andThen fun _ v₆ h₆ => ?_
        exact yields_pure ⟨h₃.trans ((h₄.trans h₅).kept.trans h₆.kept), by simp⟩
      dsimp only
      split
      · exact (record.yields_publish_note v₃ _ rfl).andThen fun _ v₄ h₄ => hrest v₄ h₄
      · exact hrest v₃ (.refl v₃)

/-- Acquiring the driver gives the one that is there then, and does nothing if it was there
    before. -/
theorem yields_acquire :
    record.Yields v host.acquire fun handle v' =>
      handle = v'.connection.handle ∧ v.Kept v' ∧ (v.connected → v' = v) := by
  refine yields_get fun s hs => ?_
  have hhandle : s.connection.handle = v.connection.handle := hs ▸ rfl
  rw [hhandle]
  cases hv : v.connection.handle with
  | some handle => exact yields_pure ⟨hv.symm, .refl v, fun _ => rfl⟩
  | none =>
    have hconnected : v.connected = false := by rw [View.connected, hv]; rfl
    have hnone (v') (h : v.Kept v') (hv' : v'.connected = false) :
        record.Yields v' (pure none) fun handle v' =>
          handle = v'.connection.handle ∧ v.Kept v' ∧ (v.connected → v' = v) :=
      yields_pure ⟨(Option.isNone_iff_eq_none.1 (by simpa [View.connected] using hv')).symm, h,
        by simp [hconnected]⟩
    dsimp only
    split
    · exact hnone v (.refl v) hconnected
    refine (record.along_answer v .acquire rfl).attempt.andThen fun outcome v₁ h₁ => ?_
    replace h₁ := View.Logged.steady h₁
    have hnone₁ {v'} (h : v.Steady v') : v'.connected = false := by
      rw [View.connected, h.2, ← View.connected, hconnected]
    rcases outcome with fault | _ | handle
    · refine (record.yields_publish_note v₁ _ rfl).andThen fun _ v₂ h₂ => ?_
      exact hnone v₂ (h₁.trans h₂.steady).kept (hnone₁ (h₁.trans h₂.steady))
    · exact hnone v₁ h₁.kept (hnone₁ h₁)
    · refine yields_get fun s₁ _ => ?_
      refine (record.yields_onConnection v₁ _).andThen fun _ v₂ h₂ => ?_
      replace h₂ := h₁.trans (.of_eq h₂ rfl)
      refine (record.yields_connect v₂ (hnone₁ h₂) handle _).andThen fun connected v₃ h₃ => ?_
      cases connected with
      | false => exact hnone v₃ (h₂.kept.trans h₃.1) (h₃.2 rfl)
      | true =>
        refine yields_get fun s₃ hs₃ => ?_
        exact yields_pure ⟨hs₃ ▸ rfl, h₂.kept.trans h₃.1, by simp [hconnected]⟩

/-- A request to a driver that is there ends as what the driver is asked. -/
theorem yields_forward {handle : Handle} (hv : v.connection.handle = some handle)
    {operation : Bytes} {ask : Handle → Op ω κ Int} {post : Except Fault Int → View κ → Prop}
    (h : record.Ensures v (ask handle) post) :
    record.Yields v (host.forward operation ask) fun status v'' =>
      ∃ outcome v', post outcome v' ∧ v'.Logged v'' ∧ (status.isOk ↔ outcome = .ok 0) := by
  have hrequest : record.Yields v (host.request operation ask) fun reply v'' =>
      ∃ outcome v', post outcome v' ∧ v'.Logged v'' ∧ (∀ a, reply = .ok a ↔ outcome = .ok a) ∧
        (∀ status, reply = .error status → status.outcome = .transportError) := by
    refine (record.yields_acquire v).andThen fun found v₁ h₁ => ?_
    obtain ⟨hfound, -, hsame⟩ := h₁
    obtain rfl := hsame (by rw [View.connected, hv]; rfl)
    rw [hfound, hv]
    exact record.yields_guarded v₁ h
  refine hrequest.andThen fun reply v₁ h₁ => ?_
  obtain ⟨outcome, v', hpost, hlogged, hreply, hstatus⟩ := h₁
  refine (record.yields_judge v₁ operation reply fun status h => by simp [hstatus status h]).mono ?_
  intro status v₂ h₂
  exact ⟨outcome, v', hpost, hlogged.trans h₂.1, h₂.2.trans (hreply 0)⟩

/-! ## Subjects -/

theorem yields_setActiveSubject (subject : Int32) (storage : Bytes) :
    record.Yields v (host.setActiveSubject subject storage) fun _ v' => v.Kept v' := by
  refine (record.yields_onConnection v _).andThen fun _ v₁ h₁ => ?_
  replace h₁ : v.Steady v₁ := .of_eq h₁ rfl
  refine yields_get fun s _ => ?_
  have hlast (v₂) (h₂ : v.Kept v₂) :
      record.Yields v₂ (do return (← get).connection.lastApplied : Op ω κ _) fun _ v' =>
        v.Kept v' :=
    yields_get fun s _ => yields_pure h₂
  cases s.connection.handle with
  | some handle =>
    exact (record.yields_reapply v₁ handle).andThen fun _ v₂ h₂ => hlast v₂ (h₁.trans h₂).kept
  | none =>
    refine (record.yields_acquire v₁).andThen fun handle v₂ h₂ => ?_
    replace h₂ := h₁.kept.trans h₂.2.1
    refine yields_ite (fun _ => ?_) fun _ => hlast v₂ h₂
    refine (record.yields_publish_note v₂ _ rfl).andThen fun _ v₃ h₃ => ?_
    exact yields_pure (h₂.trans h₃.kept)

/-! ## Queries -/

/-- A query has the driver acquired, and concerns no session. -/
theorem yields_query {operation : Bytes} {ask : Handle → Op ω κ UInt64}
    (hask : ∀ handle v', record.Along View.Logged v' (ask handle)) :
    record.Yields v (host.query operation ask) fun _ v' => v.Kept v' := by
  have hrequest : record.Yields v (host.request operation ask) fun _ v' => v.Kept v' := by
    refine (record.yields_acquire v).andThen fun handle v₁ h₁ => ?_
    cases handle with
    | none =>
      have hunavailable : record.Yields v₁ (host.unavailable operation) fun _ v' => v₁.Logged v' :=
        (record.yields_publish_note v₁ _ rfl).andThen fun _ v₂ h₂ => yields_pure h₂
      exact hunavailable.andThen fun _ v₂ h₂ => yields_pure (h₁.2.1.trans h₂.kept)
    | some handle =>
      refine (record.yields_guarded v₁ (hask handle v₁)).mono fun reply v₃ h₃ => ?_
      obtain ⟨outcome, v₂, hlogged, hlogged', -⟩ := h₃
      exact h₁.2.1.trans (View.Logged.trans hlogged hlogged').kept
  refine hrequest.andThen fun reply v₁ h₁ => ?_
  cases reply <;> exact yields_pure h₁

/-! ## Death -/

/-- A driver that is let go has died. -/
theorem yields_driverDied (generation : Nat) :
    record.Yields v (host.driverDied generation) fun _ v' => v.Noted v' := by
  refine yields_get fun s hs => ?_
  refine yields_ite (fun _ => ?_) fun _ => yields_pure (.refl v)
  refine yields_get fun s' _ => ?_
  refine yields_ite (fun _ => ?_) fun _ => yields_pure (.refl v)
  refine (record.yields_onConnection v _).andThen fun _ v₁ h₁ => ?_
  refine (record.yields_publish v₁ _).mono fun _ v₂ h₂ => ?_
  rw [h₂, h₁]
  exact ⟨_, _, Notes.published rfl, rfl, fun _ => .inr ⟨_, List.mem_singleton_self _, rfl⟩⟩

end Record

end Fingerprint
