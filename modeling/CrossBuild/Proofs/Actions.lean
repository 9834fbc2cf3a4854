-- The actions that runs are made of. A job is within a set of actions if it
-- does nothing else besides telling the user what goes on. What each of its
-- actions keeps is then kept by every run of it, a run that fails included.
import CrossBuild.Proofs.JobRuns

namespace CrossBuild

/-! ## Calls among events -/

namespace Event

def call? : Event → Option Call
  | started call => some call
  | _ => none

end Event

theorem callsOf_eq (log : List Event) : callsOf log = log.filterMap Event.call? := by
  unfold callsOf
  congr 1

@[simp]
theorem callsOf_append (l l' : List Event) : callsOf (l ++ l') = callsOf l ++ callsOf l' := by
  simp [callsOf_eq]

theorem mem_callsOf {log : List Event} {call : Call} :
    call ∈ callsOf log ↔ .started call ∈ log := by
  rw [callsOf_eq, List.mem_filterMap]
  constructor
  · rintro ⟨e, he, hcall⟩
    cases e <;> simp [Event.call?] at hcall
    exact hcall ▸ he
  · intro h
    exact ⟨_, h, rfl⟩

/-- An event that is not in the first part of a log comes after all of it. -/
theorem exists_eq_append_of_not_mem {α : Type} {first rest before after : List α} {e : α}
    (h : first ++ rest = before ++ e :: after) (he : e ∉ first) :
    e ∈ rest ∧ ∃ before', before = first ++ before' := by
  rcases List.append_eq_append_iff.1 h with ⟨before', hbefore, hrest⟩ | ⟨between, hfirst, hrest⟩
  · exact ⟨by simp [hrest], before', hbefore⟩
  · cases between with
    | nil =>
      rw [List.append_nil] at hfirst
      rw [List.nil_append] at hrest
      exact ⟨hrest ▸ List.mem_cons_self, [], by rw [hfirst, List.append_nil]⟩
    | cons e' between =>
      obtain ⟨rfl, -⟩ := List.cons.inj hrest
      exact absurd (by simp [hfirst]) he

/-! ## Actions -/

/-- A single thing that a job does to its session. -/
inductive Action
  /-- Records an event that is no start of a tool. -/
  | record (e : Event) (h : e.call? = none)
  | start (call : Call)
  | ensureFolders (p : Path)
  | removeFile (p : Path)
  | rename (p q : Path)

namespace Action

/-- The session after an action. -/
def after (host : Host) (s : Session) : Action → Session
  | record e _ => (Job.record e).left host s
  | start call => (Job.start call).left host s
  | ensureFolders p => (Job.ensureFolders p).left host s
  | removeFile p => (Job.removeFile p).left host s
  | rename p q => (Job.rename p q).left host s

/-- The event that an action leaves in the log. -/
def event? : Action → Option Event
  | record e _ => some e
  | start call => some (.started call)
  | _ => none

/-- The emission of a directive. -/
def emit (d : Directive) : Action := record (.emitted d) rfl

/-- Actions that only tell the user what goes on. -/
def IsMessage : Action → Prop
  | record (.logged _ _ _) _ => True
  | record (.warned _ _) _ => True
  | _ => False

theorem log_after (host : Host) (s : Session) (a : Action) :
    (after host s a).log = s.log ++ a.event?.toList := by
  cases a with
  | record e h => rfl
  | start call => simp [after, event?, Job.left_start]
  | ensureFolders p =>
    simp only [after, event?, Job.left_ensureFolders]
    split <;> simp
  | removeFile p =>
    simp only [after, event?, Job.left_removeFile]
    split
    · simp
    · split <;> simp
  | rename p q =>
    simp only [after, event?, Job.left_rename]
    split
    · simp
    · split <;> simp

/-- The log of a run is the events of its actions, in order. -/
theorem log_foldl_after (host : Host) (s : Session) (actions : List Action) :
    (actions.foldl (after host) s).log = s.log ++ actions.filterMap event? := by
  induction actions generalizing s with
  | nil => simp
  | cons a rest ih =>
    rw [List.foldl_cons, ih, log_after, List.append_assoc]
    cases h : a.event? <;> simp [h]

end Action

/-! ## Jobs within a set of actions -/

namespace Job

variable {α β : Type} {host : Host} {s : Session} {acts acts' : Action → Prop}

/-- A job that does nothing but what `acts` says, besides messages. -/
def Within (acts : Action → Prop) (j : Job α) (host : Host) (s : Session) : Prop :=
  ∃ actions : List Action,
    (∀ a ∈ actions, a.IsMessage ∨ acts a) ∧ j.left host s = actions.foldl (Action.after host) s

theorem within_of_left_eq {j : Job α} (h : j.left host s = s) : Within acts j host s :=
  ⟨[], by simp, by simp [h]⟩

theorem within_of_action {j : Job α} (a : Action) (ha : a.IsMessage ∨ acts a)
    (h : j.left host s = a.after host s) : Within acts j host s :=
  ⟨[a], by simpa using ha, by simp [h]⟩

theorem Within.bind {x : Job α} {f : α → Job β} (hx : Within acts x host s)
    (hf : ∀ a, x.result host s = .ok a → Within acts (f a) host (x.left host s)) :
    Within acts (x >>= f) host s := by
  obtain ⟨actions, hacts, hleft⟩ := hx
  cases hres : x.result host s with
  | error e => exact ⟨actions, hacts, by rw [left_bind_of_error hres, hleft]⟩
  | ok a =>
    obtain ⟨actions', hacts', hleft'⟩ := hf a hres
    refine ⟨actions ++ actions', ?_, ?_⟩
    · intro b hb
      rcases List.mem_append.1 hb with hb | hb
      · exact hacts b hb
      · exact hacts' b hb
    · rw [left_bind_of_ok hres, hleft', List.foldl_append, hleft]

theorem Within.mono {j : Job α} (h : Within acts j host s) (hsub : ∀ a, acts a → acts' a) :
    Within acts' j host s := by
  obtain ⟨actions, hacts, hleft⟩ := h
  exact ⟨actions, fun a ha => (hacts a ha).imp_right (hsub a), hleft⟩

theorem Within.any {j : Job α} (h : Within acts j host s) : Within (fun _ => True) j host s :=
  h.mono fun _ _ => trivial

/-- What every action keeps is kept by the run. -/
theorem Within.keeps {j : Job α} {R : Session → Session → Prop} (h : Within acts j host s)
    (hrefl : ∀ s, R s s) (htrans : ∀ s₁ s₂ s₃, R s₁ s₂ → R s₂ s₃ → R s₁ s₃)
    (hstep : ∀ a, a.IsMessage ∨ acts a → ∀ s, R s (a.after host s)) :
    R s (j.left host s) := by
  obtain ⟨actions, hacts, hleft⟩ := h
  rw [hleft]
  clear hleft
  induction actions generalizing s with
  | nil => exact hrefl s
  | cons a rest ih =>
    have hrest := ih (s := a.after host s) fun b hb => hacts b (List.mem_cons_of_mem _ hb)
    exact htrans _ _ _ (hstep a (hacts a List.mem_cons_self) s) hrest

/-! ### The single steps -/

@[simp]
theorem within_pure (a : α) : Within acts (pure a : Job α) host s := within_of_left_eq rfl

@[simp]
theorem within_fail (p : Problem) : Within acts (fail p : Job α) host s := within_of_left_eq rfl

@[simp]
theorem within_throw (f : Failure) : Within acts (throw f : Job α) host s := within_of_left_eq rfl

@[simp]
theorem within_get (e : Except Problem α) : Within acts (Job.get e) host s :=
  within_of_left_eq (left_get e)

@[simp]
theorem within_ofExcept (e : Except Failure α) :
    Within acts (MonadExcept.ofExcept e : Job α) host s := within_of_left_eq (left_ofExcept e)

@[simp]
theorem within_ask (p : Path) (question : Disk → Location → Except ErrorCode α) :
    Within acts (ask p question) host s := within_of_left_eq (left_ask p question)

@[simp]
theorem within_isPresent (p : Path) : Within acts (isPresent p) host s :=
  within_of_left_eq (left_isPresent p)

@[simp]
theorem within_log (level : Level) (origin : Origin) (message : String) :
    Within acts (log level origin message) host s :=
  within_of_action (.record (.logged level origin message) rfl) (.inl trivial) rfl

@[simp]
theorem within_warn (kind : WarningKind) (message : String) :
    Within acts (warn kind message) host s :=
  within_of_action (.record (.warned kind message) rfl) (.inl trivial) rfl

theorem within_emit {d : Directive} (h : acts (.emit d)) : Within acts (emit d) host s :=
  within_of_action (.emit d) (.inr h) rfl

theorem within_start {call : Call} (h : acts (.start call)) : Within acts (start call) host s :=
  within_of_action (.start call) (.inr h) rfl

theorem within_ensureFolders {p : Path} (h : acts (.ensureFolders p)) :
    Within acts (ensureFolders p) host s := within_of_action (.ensureFolders p) (.inr h) rfl

theorem within_removeFile {p : Path} (h : acts (.removeFile p)) :
    Within acts (removeFile p) host s := within_of_action (.removeFile p) (.inr h) rfl

theorem within_rename {p q : Path} (h : acts (.rename p q)) :
    Within acts (rename p q) host s := within_of_action (.rename p q) (.inr h) rfl

/-- A job for each member of a list, one after the other. -/
theorem within_forM {f : α → Job PUnit} (l : List α)
    (h : ∀ a ∈ l, ∀ s, Within acts (f a) host s) : Within acts (l.forM f) host s := by
  induction l generalizing s with
  | nil => exact within_pure _
  | cons a rest ih =>
    refine Within.bind (h a List.mem_cons_self s) fun _ _ => ?_
    exact ih fun b hb => h b (List.mem_cons_of_mem _ hb)

/-! ### The events of a job -/

theorem Within.log_left {j : Job α} (h : Within acts j host s) :
    (j.left host s).log = s.log ++ j.events host s := by
  obtain ⟨actions, -, hleft⟩ := h
  unfold events
  rw [hleft, Action.log_foldl_after, List.drop_left]

theorem Within.mem_events {j : Job α} (h : Within acts j host s) {e : Event}
    (he : e ∈ j.events host s) : ∃ a : Action, (a.IsMessage ∨ acts a) ∧ a.event? = some e := by
  obtain ⟨actions, hacts, hleft⟩ := h
  unfold events at he
  rw [hleft, Action.log_foldl_after, List.drop_left, List.mem_filterMap] at he
  obtain ⟨a, ha, hevent⟩ := he
  exact ⟨a, hacts a ha, hevent⟩

/-- What holds of messages and of the events of all actions holds of the events of a run. -/
theorem Within.forall_events {j : Job α} {P : Event → Prop}
    (h : Within (fun a => ∀ e ∈ a.event?, P e) j host s)
    (hlogged : ∀ level origin message, P (.logged level origin message))
    (hwarned : ∀ kind message, P (.warned kind message)) :
    ∀ e ∈ j.events host s, P e := by
  intro e he
  obtain ⟨a, ha, hevent⟩ := h.mem_events he
  rcases ha with ha | ha
  · cases a with
    | record e' hcall =>
      cases hevent
      cases e with
      | logged level origin message => exact hlogged level origin message
      | warned kind message => exact hwarned kind message
      | _ => cases ha
    | _ => cases ha
  · exact ha e hevent

/-- A job starts only tools that it may start. -/
theorem Within.start_of_mem {j : Job α} (h : Within acts j host s) {call : Call}
    (he : .started call ∈ j.events host s) : acts (.start call) := by
  obtain ⟨a, ha, hevent⟩ := h.mem_events he
  cases a with
  | record e hcall =>
    simp only [Action.event?, Option.some.injEq] at hevent
    subst hevent
    cases hcall
  | start call' =>
    simp only [Action.event?, Option.some.injEq, Event.started.injEq] at hevent
    subst hevent
    rcases ha with ha | ha
    · cases ha
    · exact ha
  | _ => cases hevent

theorem events_bind_of_ok {x : Job α} {f : α → Job β} {a : α}
    (hx : Within acts x host s) (hres : x.result host s = .ok a)
    (hf : Within acts' (f a) host (x.left host s)) :
    (x >>= f).events host s = x.events host s ++ (f a).events host (x.left host s) := by
  have hlog := hf.log_left
  rw [hx.log_left, List.append_assoc] at hlog
  change ((x >>= f).left host s).log.drop s.log.length = _
  rw [left_bind_of_ok hres, hlog, List.drop_left]

theorem events_start (call : Call) : (start call).events host s = [.started call] := by
  simp [events, left_start]

/-- A start is a further call, whatever comes of it. -/
theorem callsOf_left_start (call : Call) :
    callsOf ((start call).left host s).log = callsOf s.log ++ [call] := by
  rw [left_start, callsOf_append]
  rfl

theorem events_bind_of_error {x : Job α} {f : α → Job β} {e : Failure}
    (hres : x.result host s = .error e) : (x >>= f).events host s = x.events host s := by
  unfold events
  rw [left_bind_of_error hres]

end Job

end CrossBuild
