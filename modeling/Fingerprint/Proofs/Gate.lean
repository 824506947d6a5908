import Fingerprint.Service
import Fingerprint.Proofs.Ledger
import Fingerprint.Proofs.Parallel

/-!
# The gate of the service

Each of the eleven things that a caller can ask of the service is behind a gate.
For five of them that is the permission to manage, for the others the
permission to use and the leave for a package. Three are not for nobody.

Whoever is turned away there has changed nothing. All that was done is that the
policy was asked and that a denial was told, and the answer is a matter of the
request and the policy alone, whatever else there is in the system.

* `ServiceCall`, `Host.serve`: what a caller can ask for;
* `Host.serve_eq`: each is a gate, and behind that what it is for;
* `Host.SameGate.gate`: where policies say the same of two callers, the gates do;
* `ServiceCall.TurnedAway`: the ways to be turned away, and the answers;
* `ServiceCall.TurnedAway.serve`.
-/

namespace Fingerprint

/-- What a caller asks of the service. -/
inductive ServiceCall where
  | preEnroll (caller : CallerToken)
  | enroll (caller : CallerToken) (sink : Option SinkName) (request : EnrollRequest)
  | cancelEnrollment (caller : CallerToken)
  | authenticate (caller : CallerToken) (sink : Option SinkName) (request : AuthenticateRequest) (package : Bytes)
  | cancelAuthentication (caller : CallerToken) (package : Bytes)
  | remove (caller : CallerToken) (sink : Option SinkName) (request : RemoveRequest)
  | rename (caller : CallerToken) (subject : Int32) (id : UInt32) (label : Bytes)
  | isHardwareDetected (caller : CallerToken) (package : Bytes)
  | enrolledTemplates (caller : CallerToken) (subject : Int32) (package : Bytes)
  | hasEnrolledTemplates (caller : CallerToken) (subject : Int32) (package : Bytes)
  | authenticatorId (caller : CallerToken) (package : Bytes)

namespace ServiceCall

/-- What the caller gets in return. -/
def Reply : ServiceCall → Type
  | preEnroll _ | authenticatorId .. => UInt64
  | isHardwareDetected .. | hasEnrolledTemplates .. => Bool
  | enrolledTemplates .. => List Template
  | enroll .. | cancelEnrollment _ | authenticate .. | cancelAuthentication .. | remove .. | rename .. => Unit

/-- What the caller gets who is not let in: nothing, zero, or the empty list. -/
def nothing : (call : ServiceCall) → call.Reply
  | preEnroll _ | authenticatorId .. => (0 : UInt64)
  | isHardwareDetected .. | hasEnrolledTemplates .. => false
  | enrolledTemplates .. => []
  | enroll .. | cancelEnrollment _ | authenticate .. | cancelAuthentication .. | remove .. | rename .. => ()

def caller : ServiceCall → CallerToken
  | preEnroll caller | enroll caller .. | cancelEnrollment caller | authenticate caller .. | cancelAuthentication caller _
  | remove caller .. | rename caller .. | isHardwareDetected caller _ | enrolledTemplates caller ..
  | hasEnrolledTemplates caller .. | authenticatorId caller _ => caller

/-- The permission that is needed. -/
def permission : ServiceCall → Permission
  | preEnroll _ | enroll .. | cancelEnrollment _ | remove .. | rename .. => .manage
  | authenticate .. | cancelAuthentication .. | isHardwareDetected .. | enrolledTemplates ..
  | hasEnrolledTemplates .. | authenticatorId .. => .use

/-- The package on behalf of which the sensor is used. -/
def package? : ServiceCall → Option Bytes
  | authenticate _ _ _ package | cancelAuthentication _ package | isHardwareDetected _ package
  | enrolledTemplates _ _ package | hasEnrolledTemplates _ _ package | authenticatorId _ package => some package
  | preEnroll _ | enroll .. | cancelEnrollment _ | remove .. | rename .. => none

/-- Whether the caller has to be somebody. -/
def needsSomebody : ServiceCall → Bool
  | enroll .. | authenticate .. | remove .. => true
  | _ => false

end ServiceCall

namespace Host

variable {ω κ : Type} (host : Host ω κ)

/-- Does what a caller asks for. -/
def serve : (call : ServiceCall) → Op ω κ call.Reply
  | .preEnroll caller => host.requestPreEnroll caller
  | .enroll caller sink request => host.requestEnroll caller sink request
  | .cancelEnrollment caller => host.requestCancelEnrollment caller
  | .authenticate caller sink request package => host.requestAuthenticate caller sink request package
  | .cancelAuthentication caller package => host.requestCancelAuthentication caller package
  | .remove caller sink request => host.requestRemove caller sink request
  | .rename caller subject id label => host.requestRename caller subject id label
  | .isHardwareDetected caller package => host.isHardwareDetected caller package
  | .enrolledTemplates caller subject package => host.enrolledTemplates caller subject package
  | .hasEnrolledTemplates caller subject package => host.hasEnrolledTemplates caller subject package
  | .authenticatorId caller package => host.requestAuthenticatorId caller package

/-- Asks the policy whether a caller is let in. -/
def consult (call : ServiceCall) : Op ω κ Bool :=
  match call.package? with
  | some package => host.canUseSensor call.caller package
  | none => do
    host.checkPermission call.caller call.permission
    return true

/-- The gate: whether a caller is let in. -/
def gate (call : ServiceCall) : Op ω κ Bool := do
  let admitted ← host.consult call
  if admitted && call.needsSomebody then requireCaller call.caller
  return admitted

/-- The templates of a subject, as far as there is a store. -/
def listTemplates (subject : Int32) : Op ω κ (List Template) := do
  if !host.setup.hasTemplates then return []
  host.answer (.storeList subject)

/-- What is behind the gate. -/
def execute : (call : ServiceCall) → Op ω κ call.Reply
  | .preEnroll _ => host.invoke host.preEnroll
  | .enroll caller sink request => Op.post (.startEnrollment caller sink request)
  | .cancelEnrollment caller => Op.post (.cancel .enroll caller)
  | .authenticate caller sink request _ => Op.post (.startAuthentication caller sink request)
  | .cancelAuthentication caller _ => Op.post (.cancel .authenticate caller)
  | .remove caller sink request => Op.post (.startRemove caller sink request)
  | .rename _ subject id label => Op.post (.rename subject id label)
  | .isHardwareDetected .. => host.invoke do return (← get).connection.device != 0
  | .enrolledTemplates _ subject _ => host.listTemplates subject
  | .hasEnrolledTemplates _ subject _ => return !(← host.listTemplates subject).isEmpty
  | .authenticatorId .. => host.invoke host.authenticatorId

/-- Everything that a caller can ask for is done behind the gate. -/
theorem serve_eq (call : ServiceCall) :
    host.serve call = do
      if ← host.gate call then host.execute call else return call.nothing := by
  cases call with
  | preEnroll | cancelEnrollment | rename =>
    simp only [serve, gate, consult, ServiceCall.package?, bind_assoc, pure_bind]
    rfl
  | enroll | remove =>
    simp only [serve, gate, consult, ServiceCall.package?, ServiceCall.needsSomebody, bind_assoc, pure_bind,
      Bool.and_self, if_true]
    rfl
  | authenticate =>
    simp only [serve, gate, consult, ServiceCall.package?, ServiceCall.needsSomebody, bind_assoc]
    refine bind_congr fun admitted => ?_
    cases admitted
    · rfl
    · simp only [Bool.and_self, if_true, bind_assoc, pure_bind]
      rfl
  | cancelAuthentication | isHardwareDetected | enrolledTemplates | authenticatorId =>
    simp only [serve, gate, consult, ServiceCall.package?, bind_assoc]
    refine bind_congr fun admitted => ?_
    cases admitted <;> rfl
  | hasEnrolledTemplates =>
    simp only [serve, gate, consult, hasEnrolledTemplates, enrolledTemplates, ServiceCall.package?, bind_assoc]
    refine bind_congr fun admitted => ?_
    cases admitted <;> rfl

/-- Nobody is not let in to start anything. -/
theorem caller_ne_zero_of_gate {call : ServiceCall} {s s' : System ω κ}
    (h : (host.gate call).run s = (.ok true, s')) (hneeds : call.needsSomebody = true) : call.caller ≠ 0 := by
  intro hcaller
  unfold gate at h
  rw [Op.run_bind] at h
  rcases hconsult : (host.consult call).run s with ⟨fault | _ | _, s₁⟩ <;> simp only [hconsult] at h
  · cases h
  · cases h
  · unfold requireCaller at h
    rw [hneeds, if_pos (Bool.and_self true), if_pos hcaller] at h
    cases h

end Host

/-! ## Two gates -/

section SideBySide

variable {ω ω' κ κ' : Type}

/-- In two systems the policies say the same of two callers, and denials are told alike. -/
structure Host.SameGate (R : System ω κ → System ω' κ' → Prop) (host : Host ω κ) (host' : Host ω' κ')
    (caller caller' : CallerToken) : Prop where
  setup : host'.setup = host.setup
  nobody : caller' = 0 ↔ caller = 0
  tell (id message detail : Bytes) : Op.Parallel R Eq (host.publish (Host.deniedEvent id message caller detail))
    (host'.publish (Host.deniedEvent id message caller' detail))
  check (permission : Permission) : Op.Parallel R Eq (host.answer (.checkPermission caller permission))
    (host'.answer (.checkPermission caller' permission))
  allow (package : Bytes) : Op.Parallel R Eq (host.answer (.canUseSensor caller package) : Op ω κ Bool)
    (host'.answer (.canUseSensor caller' package))

namespace Host.SameGate

open Op.Parallel

variable {R : System ω κ → System ω' κ' → Prop} {host : Host ω κ} {host' : Host ω' κ'}

theorem checkPermission {caller caller' : CallerToken} (h : SameGate R host host' caller caller')
    (permission : Permission) :
    Op.Parallel R Eq (host.checkPermission caller permission) (host'.checkPermission caller' permission) := by
  unfold Host.checkPermission
  rw [h.setup]
  refine either ((throw _).andThen fun _ => ?_) ?_
  -- What comes after the first gate is the same on either way past it.
  all_goals
    refine (h.check permission).attempt.andThen fun outcome => ?_
    rcases outcome with (error | message) | _
    · exact (h.tell _ _ _).andThen fun _ => throw _
    · exact (result ()).andThen fun _ => throw _
    · exact result ()

variable {call call' : ServiceCall}

/-- Whoever is let in here is let in there. -/
theorem gate (h : SameGate R host host' call.caller call'.caller) (hpermission : call'.permission = call.permission)
    (hpackage : call'.package? = call.package?) (hneeds : call'.needsSomebody = call.needsSomebody) :
    Op.Parallel R Eq (host.gate call) (host'.gate call') := by
  have hconsult : Op.Parallel R Eq (host.consult call) (host'.consult call') := by
    unfold consult
    rw [hpackage, hpermission]
    cases call.package? with
    | some package =>
      refine (h.checkPermission _).andThen fun _ => (h.allow _).andThen fun (allowed : Bool) => ?_
      exact either (result true) ((h.tell _ _ _).andThen fun _ => result false)
    | none => exact (h.checkPermission _).andThen fun _ => result true
  refine hconsult.andThen fun admitted => ?_
  rw [hneeds]
  refine either (andThen ?_ fun _ => result _) (result _)
  exact either_of_iff h.nobody (throw _) (result ())

end Host.SameGate

end SideBySide

/-! ## Policies -/

/-- What an access policy says: whether a caller has a permission, which it denies by a fault, and
    whether a caller may use the sensor on behalf of a package. -/
structure AccessPolicy where
  check : CallerToken → Permission → Except Fault Unit
  allows : CallerToken → Bytes → Except Fault Bool

/-- In a state a host has an access policy, or none. To ask it changes no more than what the host
    keeps for itself. -/
structure Host.Heeds {ω κ : Type} (host : Host ω κ) (policy? : Option AccessPolicy) (s : System ω κ) : Prop where
  access : host.setup.hasAccess = policy?.isSome
  check {policy : AccessPolicy} (h : policy? = some policy) (caller : CallerToken) (permission : Permission) :
    ∃ world, (host.answer (.checkPermission caller permission)).run s =
      (policy.check caller permission, { s with world })
  /-- About a package it is asked once it has granted the permission. -/
  allows {policy : AccessPolicy} (h : policy? = some policy) (caller : CallerToken) (package : Bytes)
    (hchecked : policy.check caller .use = .ok ()) :
    ∃ world, (host.answer (.canUseSensor caller package)).run
        ((host.answer (.checkPermission caller .use)).run s).2 =
      (policy.allows caller package, { s with world })

/-- The ways in which a caller is turned away, and the answers. -/
inductive ServiceCall.TurnedAway : Option AccessPolicy → (call : ServiceCall) → Except Fault call.Reply → Prop
  /-- There is no policy. -/
  | unguarded (call : ServiceCall) : TurnedAway none call (.error (.coded .permissionDenied))
  /-- The policy denies the permission. -/
  | denied {policy : AccessPolicy} {call : ServiceCall} {fault : Fault}
      (h : policy.check call.caller call.permission = .error fault) : TurnedAway (some policy) call (.error fault)
  /-- The policy fails to say whether the sensor may be used. -/
  | unsaid {policy : AccessPolicy} {call : ServiceCall} {package : Bytes} {fault : Fault}
      (hchecked : policy.check call.caller call.permission = .ok ()) (hpackage : call.package? = some package)
      (h : policy.allows call.caller package = .error fault) : TurnedAway (some policy) call (.error fault)
  /-- The policy refuses the package. -/
  | refused {policy : AccessPolicy} {call : ServiceCall} {package : Bytes}
      (hchecked : policy.check call.caller call.permission = .ok ()) (hpackage : call.package? = some package)
      (h : policy.allows call.caller package = .ok false) : TurnedAway (some policy) call (.ok call.nothing)
  /-- The policy has nothing against it, but the caller is nobody. -/
  | nobody {policy : AccessPolicy} {call : ServiceCall}
      (hchecked : policy.check call.caller call.permission = .ok ())
      (hallowed : ∀ package, call.package? = some package → policy.allows call.caller package = .ok true)
      (hneeds : call.needsSomebody = true) (hcaller : call.caller = 0) :
      TurnedAway (some policy) call (.error (.coded .invalidCaller))

/-! ## What is done at the gate -/

/-- The policy is asked, or observers are told. -/
inductive Notice where
  | asked (call : Call)
  | told (event : Event)

/-- What a notice makes of a state. -/
def Notice.act {ω κ : Type} (host : Host ω κ) (s : System ω κ) : Notice → System ω κ
  | asked call => ((host.answer call).run s).2
  | told event => { s with world := host.observe event s }

/-- The notices that are given at the gate. -/
inductive Notice.OfGate (caller : CallerToken) : Notice → Prop
  | check (permission : Permission) : OfGate caller (.asked (.checkPermission caller permission))
  | package (package : Bytes) : OfGate caller (.asked (.canUseSensor caller package))
  | denial (id message detail : Bytes) : OfGate caller (.told (Host.deniedEvent id message caller detail))

namespace Host

variable {ω κ α β : Type} {host : Host ω κ} {s : System ω κ} {policy? : Option AccessPolicy} {caller : CallerToken}

/-- Some notices of the gate are given, and they change no more than what the host keeps for itself. -/
def Noticed (host : Host ω κ) (caller : CallerToken) (s s' : System ω κ) : Prop :=
  ∃ notices : List Notice, (∀ notice ∈ notices, notice.OfGate caller) ∧
    notices.foldl (Notice.act host) s = s' ∧ s' = { s with world := s'.world }

theorem Noticed.refl (host : Host ω κ) (caller : CallerToken) (s : System ω κ) : Noticed host caller s s :=
  ⟨[], nofun, rfl, rfl⟩

theorem Noticed.trans {s₁ s₂ : System ω κ} (h : Noticed host caller s s₁) (h₁ : Noticed host caller s₁ s₂) :
    Noticed host caller s s₂ := by
  obtain ⟨notices, hgate, hact, hworld⟩ := h
  obtain ⟨notices₁, hgate₁, hact₁, hworld₁⟩ := h₁
  refine ⟨notices ++ notices₁, fun notice hnotice => ?_, ?_, ?_⟩
  · exact (List.mem_append.1 hnotice).elim (hgate notice) (hgate₁ notice)
  · rw [List.foldl_append, hact, hact₁]
  · rw [hworld₁, hworld]

theorem noticed_asked {call : Call} (hgate : Notice.OfGate caller (.asked call)) {outcome : Except Fault call.Reply}
    {world : ω} (hrun : (host.answer call).run s = (outcome, { s with world })) :
    Noticed host caller s ((host.answer call).run s).2 := by
  refine ⟨[.asked call], by simpa using hgate, rfl, ?_⟩
  rw [hrun]

/-- An operation ends with an outcome, and does no more than to give notices of the gate. -/
structure Gated (host : Host ω κ) (caller : CallerToken) (op : Op ω κ α) (s : System ω κ)
    (outcome : Except Fault α) : Prop where
  outcome_eq : (op.run s).1 = outcome
  noticed : Noticed host caller s (op.run s).2

variable {op : Op ω κ α} {outcome : Except Fault α} {fault : Fault}

theorem gated_pure (host : Host ω κ) (caller : CallerToken) (a : α) (s : System ω κ) :
    Gated host caller (pure a) s (.ok a) := ⟨rfl, .refl host caller s⟩

theorem gated_throw (host : Host ω κ) (caller : CallerToken) (fault : Fault) (s : System ω κ) :
    Gated host caller (throw fault : Op ω κ α) s (.error fault) := ⟨rfl, .refl host caller s⟩

theorem Gated.attempt (h : Gated host caller op s outcome) : Gated host caller op.attempt s (.ok outcome) :=
  ⟨congrArg Except.ok h.outcome_eq, h.noticed⟩

theorem Gated.bind {a : α} {f : α → Op ω κ β} {outcome : Except Fault β} (h : Gated host caller op s (.ok a))
    (hf : Gated host caller (f a) (op.run s).2 outcome) : Gated host caller (op >>= f) s outcome := by
  have hbind := Op.run_bind_of_ok h.outcome_eq f
  exact ⟨hbind ▸ hf.outcome_eq, hbind ▸ h.noticed.trans hf.noticed⟩

theorem Gated.bind_of_error {f : α → Op ω κ β} (h : Gated host caller op s (.error fault)) :
    Gated host caller (op >>= f) s (.error fault) := by
  have hrun : op.run s = (.error fault, (op.run s).2) := Prod.ext h.outcome_eq rfl
  have hbind : (op >>= f).run s = (.error fault, (op.run s).2) := by rw [Op.run_bind, hrun]
  exact ⟨congrArg Prod.fst hbind, hbind ▸ h.noticed⟩

theorem gated_denial (host : Host ω κ) (id message : Bytes) (caller : CallerToken) (detail : Bytes)
    (s : System ω κ) : Gated host caller (host.publish (deniedEvent id message caller detail)) s (.ok ()) :=
  ⟨rfl, [.told _], by simpa using .denial id message detail, rfl, rfl⟩

theorem gated_reportDenied (host : Host ω κ) (caller : CallerToken) (permission : Permission) (fault : Fault)
    (s : System ω κ) : Gated host caller (host.reportDenied caller permission fault) s (.ok ()) := by
  cases fault with
  | coded error => exact gated_denial host _ _ caller _ s
  | plain message => exact gated_pure host caller () s

theorem Heeds.gated_checkPermission (h : host.Heeds none s) (caller : CallerToken) (permission : Permission) :
    Gated host caller (host.checkPermission caller permission) s (.error (.coded .permissionDenied)) := by
  unfold checkPermission
  rw [if_pos (by rw [h.access]; rfl)]
  exact gated_throw host caller _ s

section Policy

variable {policy : AccessPolicy} (h : host.Heeds (some policy) s)

include h

theorem Heeds.gated_answer (caller : CallerToken) (permission : Permission) :
    Gated host caller (host.answer (.checkPermission caller permission)) s (policy.check caller permission) := by
  obtain ⟨world, hrun⟩ := h.check rfl caller permission
  exact ⟨congrArg Prod.fst hrun, noticed_asked (.check permission) hrun⟩

/-- Whom the policy denies a permission is told so, and the observers as well if there is a code. -/
theorem Heeds.gated_checkPermission_of_error {caller : CallerToken} {permission : Permission}
    (hdenied : policy.check caller permission = .error fault) :
    Gated host caller (host.checkPermission caller permission) s (.error fault) := by
  unfold checkPermission
  rw [if_neg (by rw [h.access]; simp)]
  have hasked := (h.gated_answer caller permission).attempt
  rw [hdenied] at hasked
  exact hasked.bind ((gated_reportDenied host caller permission fault _).bind (gated_throw host caller fault _))

theorem Heeds.checkPermission_run_of_ok {caller : CallerToken} {permission : Permission}
    (hchecked : policy.check caller permission = .ok ()) :
    (host.checkPermission caller permission).run s =
      (.ok (), ((host.answer (.checkPermission caller permission)).run s).2) := by
  obtain ⟨world, hrun⟩ := h.check rfl caller permission
  unfold checkPermission
  rw [if_neg (by rw [h.access]; simp), Op.run_bind, Op.run_attempt, hrun, hchecked]
  rfl

theorem Heeds.gated_checkPermission_of_ok {caller : CallerToken} {permission : Permission}
    (hchecked : policy.check caller permission = .ok ()) :
    Gated host caller (host.checkPermission caller permission) s (.ok ()) := by
  have hrun := h.checkPermission_run_of_ok hchecked
  exact ⟨congrArg Prod.fst hrun, hrun ▸ (h.gated_answer caller permission).noticed⟩

/-- What the policy says about a package is what the gate says, once the permission is granted. -/
theorem Heeds.gated_canUseSensor {caller : CallerToken} {package : Bytes}
    (hchecked : policy.check caller .use = .ok ()) :
    Gated host caller (host.canUseSensor caller package) s (policy.allows caller package) := by
  refine (h.gated_checkPermission_of_ok hchecked).bind ?_
  rw [h.checkPermission_run_of_ok hchecked]
  obtain ⟨world₁, hcheck⟩ := h.check rfl caller .use
  obtain ⟨world, hallows⟩ := h.allows rfl caller package hchecked
  have hasked : Gated host caller (host.answer (.canUseSensor caller package))
      ((host.answer (.checkPermission caller .use)).run s).2 (policy.allows caller package) := by
    rw [hcheck] at hallows ⊢
    exact ⟨congrArg Prod.fst hallows, noticed_asked (.package package) hallows⟩
  cases hallowed : policy.allows caller package with
  | error fault =>
    rw [hallowed] at hasked
    exact hasked.bind_of_error
  | ok allowed =>
    rw [hallowed] at hasked
    refine hasked.bind ?_
    cases allowed with
    | true => exact gated_pure host caller true _
    | false => exact (gated_denial host _ _ caller package _).bind (gated_pure host caller false _)

end Policy

end Host

namespace ServiceCall

open Host

variable {ω κ : Type} {host : Host ω κ} {s : System ω κ} {policy? : Option AccessPolicy} {policy : AccessPolicy}
  {call : ServiceCall} {package : Bytes}

theorem permission_eq_use (h : call.package? = some package) : call.permission = .use := by
  cases call <;> first | rfl | cases h

/-! ## The gate -/

theorem gated_consult_of_package (hheeds : host.Heeds (some policy) s) (hpackage : call.package? = some package)
    (hchecked : policy.check call.caller call.permission = .ok ()) :
    Gated host call.caller (host.consult call) s (policy.allows call.caller package) := by
  rw [permission_eq_use hpackage] at hchecked
  unfold consult
  rw [hpackage]
  exact hheeds.gated_canUseSensor hchecked

theorem gated_consult_of_allowed (hheeds : host.Heeds (some policy) s)
    (hchecked : policy.check call.caller call.permission = .ok ())
    (hallowed : ∀ package, call.package? = some package → policy.allows call.caller package = .ok true) :
    Gated host call.caller (host.consult call) s (.ok true) := by
  cases hpackage : call.package? with
  | none =>
    unfold consult
    rw [hpackage]
    exact (hheeds.gated_checkPermission_of_ok hchecked).bind (gated_pure host call.caller true _)
  | some package =>
    have hconsult := gated_consult_of_package hheeds hpackage hchecked
    rwa [hallowed package hpackage] at hconsult

/-- Without the permission it does not matter what there is besides. -/
theorem gated_consult_of_checkPermission {fault : Fault}
    (h : Gated host call.caller (host.checkPermission call.caller call.permission) s (.error fault)) :
    Gated host call.caller (host.consult call) s (.error fault) := by
  unfold consult
  cases hpackage : call.package? with
  | none => exact h.bind_of_error
  | some package =>
    rw [permission_eq_use hpackage] at h
    exact h.bind_of_error

theorem gated_gate_of_error {fault : Fault} (h : Gated host call.caller (host.consult call) s (.error fault)) :
    Gated host call.caller (host.gate call) s (.error fault) := h.bind_of_error

theorem gated_gate_of_false (h : Gated host call.caller (host.consult call) s (.ok false)) :
    Gated host call.caller (host.gate call) s (.ok false) :=
  h.bind (gated_pure host call.caller false _)

theorem gated_gate_of_nobody (h : Gated host call.caller (host.consult call) s (.ok true))
    (hneeds : call.needsSomebody = true) (hcaller : call.caller = 0) :
    Gated host call.caller (host.gate call) s (.error (.coded .invalidCaller)) := by
  refine h.bind ?_
  unfold requireCaller
  rw [if_pos (by simpa using hneeds), if_pos hcaller]
  exact (gated_throw host call.caller _ _).bind_of_error

/-- Whoever is turned away gets the answer that belongs to it, and no more was done than to ask the
    policy and to tell of the denial. -/
theorem TurnedAway.gated {outcome : Except Fault call.Reply} (h : TurnedAway policy? call outcome)
    (hheeds : host.Heeds policy? s) : Gated host call.caller (host.serve call) s outcome := by
  rw [serve_eq]
  cases h with
  | unguarded =>
    exact (gated_gate_of_error (gated_consult_of_checkPermission (hheeds.gated_checkPermission _ _))).bind_of_error
  | denied hdenied =>
    exact (gated_gate_of_error (gated_consult_of_checkPermission
      (hheeds.gated_checkPermission_of_error hdenied))).bind_of_error
  | unsaid hchecked hpackage hfault =>
    have hconsult := gated_consult_of_package hheeds hpackage hchecked
    rw [hfault] at hconsult
    exact (gated_gate_of_error hconsult).bind_of_error
  | refused hchecked hpackage hrefused =>
    have hconsult := gated_consult_of_package hheeds hpackage hchecked
    rw [hrefused] at hconsult
    exact (gated_gate_of_false hconsult).bind (gated_pure host call.caller call.nothing _)
  | nobody hchecked hallowed hneeds hcaller =>
    exact (gated_gate_of_nobody (gated_consult_of_allowed hheeds hchecked hallowed) hneeds hcaller).bind_of_error

/-- Whoever is turned away gets the answer that belongs to it, and no other in any system that has the
    same policy. The policy was asked and a denial was told, and that is all: the queue, the slots,
    the lockout, the connection and whatever else there is are as they were. -/
theorem TurnedAway.serve {outcome : Except Fault call.Reply} (h : TurnedAway policy? call outcome)
    (hheeds : host.Heeds policy? s) :
    (∃ (notices : List Notice) (world : ω), (∀ notice ∈ notices, notice.OfGate call.caller) ∧
      notices.foldl (Notice.act host) s = { s with world } ∧
      (host.serve call).run s = (outcome, { s with world })) ∧
    ∀ {ω' κ' : Type} (host' : Host ω' κ') (s' : System ω' κ'), host'.Heeds policy? s' →
      ((host'.serve call).run s').1 = outcome := by
  refine ⟨?_, fun host' s' hheeds' => (h.gated hheeds').outcome_eq⟩
  obtain ⟨houtcome, notices, hgate, hact, hworld⟩ := h.gated hheeds
  exact ⟨notices, _, hgate, hact.trans hworld, Prod.ext houtcome hworld⟩

/-- A ledger's host that has no say in the matter but refuses every package. -/
def wary : (call : Call) → Except Fault call.Reply
  | .canUseSensor .. => .ok false
  | call => Ledger.obliging call

/-- What the rule of a ledger says about access. -/
def ruled (rule : (call : Call) → Except Fault call.Reply) : AccessPolicy where
  check caller permission := rule (.checkPermission caller permission)
  allows caller package := rule (.canUseSensor caller package)

theorem heeds_ruled {setup : Setup} (hsetup : setup.hasAccess = true)
    (rule : (call : Call) → Except Fault call.Reply) (s : System (List Entry) Empty) :
    (Ledger.host setup rule).Heeds (some (ruled rule)) s where
  access := hsetup
  check h caller permission := by
    cases h
    exact ⟨_, Ledger.run_answer setup rule _ s⟩
  allows h caller package _ := by
    cases h
    rw [Ledger.run_answer, Ledger.run_answer]
    exact ⟨_, rfl⟩

/-- Where packages are refused, no sensor is detected, whether the driver has opened one or not. -/
theorem TurnedAway.serve_of_refusal :
    (((Ledger.host {} wary).serve (.isHardwareDetected 7 "app")).run { world := [] }).1 = .ok false ∧
      (((Ledger.host {} wary).serve (.isHardwareDetected 7 "app")).run
        { connection := { handle := some 0, device := 1 }, world := [] }).1 = .ok false := by
  have hrefused : TurnedAway (some (ruled wary)) (.isHardwareDetected 7 "app") (.ok false) :=
    .refused rfl rfl rfl
  have hheeds (s : System (List Entry) Empty) : (Ledger.host {} wary).Heeds (some (ruled wary)) s :=
    heeds_ruled rfl wary s
  obtain ⟨⟨_, _, -, -, hfirst⟩, hsame⟩ := hrefused.serve (hheeds { world := [] })
  exact ⟨congrArg Prod.fst hfirst, hsame _ _ (hheeds _)⟩

end ServiceCall

end Fingerprint
