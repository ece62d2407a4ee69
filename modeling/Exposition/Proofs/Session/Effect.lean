import Exposition.Session

/-!
# Proofs/Session/Effect — what an action does to its session

An action moves the service on, changes the state and adds to the transcript; `Session.after` says
all three at once.  The equations below run the building blocks of actions, one after the other
(`Action.bind_apply`), so that a whole action comes out as one `after`.

Where only one property of the state matters, an action need not be run at all: it **keeps** the
property if each of its steps does (`Action.Keeps.bind`).
-/

namespace Exposition

variable {ε σ κ α β : Type}

namespace Session

/-- **The session some time later**: service and state have moved on, and these events have
passed. -/
def after (s : Session σ κ) (service : σ) (state : κ) (events : List Event) : Session σ κ where
  service
  state
  transcript := s.transcript ++ events

/-- What has passed in a session since some earlier time. -/
def since (s s' : Session σ κ) : List Event := s'.transcript.drop s.transcript.length

section After

variable (s : Session σ κ) (service service' : σ) (state state' : κ) (events events' : List Event)

@[simp] theorem after_service : (s.after service state events).service = service := rfl

@[simp] theorem after_state : (s.after service state events).state = state := rfl

@[simp] theorem after_transcript :
    (s.after service state events).transcript = s.transcript ++ events := rfl

@[simp] theorem after_self : s.after s.service s.state [] = s := by
  rw [after, List.append_nil]

@[simp] theorem after_after : (s.after service state events).after service' state' events'
    = s.after service' state' (events ++ events') := by
  simp only [after, List.append_assoc]

@[simp] theorem since_after : s.since (s.after service state events) = events := by
  rw [since, after_transcript, List.drop_left]

end After

end Session

namespace Action

variable (s : Session σ κ)

/-- **One action after another**: the second starts where the first has ended, unless that was an
error. -/
theorem bind_apply (act : Action ε σ κ α) (next : α → Action ε σ κ β) :
    (act >>= next) s = match act s with
      | (.ok a, s') => next a s'
      | (.error e, s') => (.error e, s') := by
  change ExceptT.bindCont next (act s).1 (act s).2 = _
  rcases act s with ⟨e | a, s'⟩
  · rfl
  · rfl

theorem bind_of_ok {act : Action ε σ κ α} {s s' : Session σ κ} {a : α} (h : act s = (.ok a, s'))
    (next : α → Action ε σ κ β) : (act >>= next) s = next a s' := by
  rw [bind_apply, h]

theorem bind_of_error {act : Action ε σ κ α} {s s' : Session σ κ} {e : ε}
    (h : act s = (.error e, s')) (next : α → Action ε σ κ β) :
    (act >>= next) s = (.error e, s') := by
  rw [bind_apply, h]

/-- An action that gives another value than the last of its steps has given. -/
theorem bind_pure_apply (act : Action ε σ κ α) (f : α → β) :
    (act >>= fun a => pure (f a)) s = ((act s).1.map f, (act s).2) := by
  rw [bind_apply]
  rcases act s with ⟨e | a, s'⟩
  · rfl
  · rfl

theorem pure_apply (a : α) : (pure a : Action ε σ κ α) s = (.ok a, s) := rfl

theorem throw_apply (e : ε) : (throw e : Action ε σ κ α) s = (.error e, s) := rfl

theorem state_apply : (state : Action ε σ κ κ) s = (.ok s.state, s) := rfl

theorem update_apply (f : κ → κ) :
    (update f : Action ε σ κ Unit) s = (.ok (), s.after s.service (f s.state) []) := by
  rw [Session.after, List.append_nil]
  rfl

theorem notify_apply (n : Notification) :
    (notify n : Action ε σ κ Unit) s = (.ok (), s.after s.service s.state [.notified n]) := rfl

theorem ask_apply [Service σ] (r : Request) : (ask r : Action ε σ κ r.Reply) s
    = (.ok (Service.answer r s.service).1, s.after (Service.answer r s.service).2 s.state
      [.asked r (Service.answer r s.service).1]) := rfl

end Action

/-! ## What an action keeps -/

namespace Action

/-- **An action keeps a property** of the state, wherever it starts and however it ends. -/
def Keeps (P : κ → Prop) (act : Action ε σ κ α) : Prop := ∀ s, P s.state → P (act s).2.state

namespace Keeps

variable {P : κ → Prop}

theorem bind {act : Action ε σ κ α} {next : α → Action ε σ κ β} (hact : Keeps P act)
    (hnext : ∀ a, Keeps P (next a)) : Keeps P (act >>= next) := fun s holds => by
  have held := hact s holds
  rw [bind_apply]
  rcases h : act s with ⟨e | a, s'⟩
  · rwa [h] at held
  · rw [h] at held
    exact hnext a s' held

theorem pure (a : α) : Keeps P (pure a : Action ε σ κ α) := fun _ holds => holds

theorem throw (e : ε) : Keeps P (throw e : Action ε σ κ α) := fun _ holds => holds

theorem state : Keeps P (Action.state : Action ε σ κ κ) := fun _ holds => holds

theorem update {f : κ → κ} (hf : ∀ k, P k → P (f k)) :
    Keeps P (Action.update f : Action ε σ κ Unit) := fun s holds => hf s.state holds

theorem notify (n : Notification) : Keeps P (Action.notify n : Action ε σ κ Unit) :=
  fun _ holds => holds

theorem print (text : String) : Keeps P (Action.print text : Action ε σ κ Unit) :=
  fun _ holds => holds

theorem complain (line : String) : Keeps P (Action.complain line : Action ε σ κ Unit) :=
  fun _ holds => holds

theorem ask [Service σ] (r : Request) : Keeps P (Action.ask r : Action ε σ κ r.Reply) :=
  fun _ holds => holds

theorem attempt {δ : Type} {act : Action ε σ κ α} (hact : Keeps P act) :
    Keeps P (Action.attempt act : Action δ σ κ (Except ε α)) := hact

end Keeps

end Action

/-! ## Smooth sessions -/

/-- A request that has failed. -/
def Event.isFailure : Event → Bool
  | .asked _ (.error _) => true
  | _ => false

/-- **No request has failed.** -/
def Smooth (events : List Event) : Prop := ∀ e ∈ events, e.isFailure = false

namespace Smooth

variable {events events' : List Event}

instance (events : List Event) : Decidable (Smooth events) :=
  inferInstanceAs (Decidable (∀ e ∈ events, e.isFailure = false))

theorem left (smooth : Smooth (events ++ events')) : Smooth events :=
  fun e mem => smooth e (List.mem_append_left _ mem)

theorem right (smooth : Smooth (events ++ events')) : Smooth events' :=
  fun e mem => smooth e (List.mem_append_right _ mem)

theorem not_error {r : Request} {e : ServiceError}
    (failed : Event.asked r (.error e) ∈ events) : ¬ Smooth events := fun smooth =>
  absurd (smooth _ failed) (by simp [Event.isFailure])

/-- What has been smooth for a while has been smooth since a later time. -/
theorem since_after {s s' : Session σ κ} (smooth : Smooth (s.since s')) (service : σ) (state : κ)
    (events : List Event) : Smooth ((s.after service state events).since s') := by
  rw [Session.since, Session.after_transcript, List.length_append, ← List.drop_drop]
  exact fun e mem => smooth e (List.mem_of_mem_drop mem)

end Smooth

end Exposition
