-- The order in which a job does things. A script lists starts of tools and
-- directives; a job that follows it gets to the end of the script or fails on the
-- way, and once a necessary tool has failed it does nothing more.
import CrossBuild.Proofs.Actions

namespace CrossBuild

/-! ## Effects among events -/

namespace Event

/-- Starts of tools and directives are effects, messages are none. -/
def isEffect : Event → Bool
  | started _ => true
  | emitted _ => true
  | _ => false

def directive? : Event → Option Directive
  | emitted d => some d
  | _ => none

end Event

/-- The effects among events, in order. -/
def effectsOf (log : List Event) : List Event := log.filter Event.isEffect

theorem effectsOf_append (l l' : List Event) :
    effectsOf (l ++ l') = effectsOf l ++ effectsOf l' := List.filter_append ..

theorem directivesOf_eq (log : List Event) :
    directivesOf log = log.filterMap Event.directive? := by
  unfold directivesOf
  congr 1

theorem directivesOf_append (l l' : List Event) :
    directivesOf (l ++ l') = directivesOf l ++ directivesOf l' := by
  simp [directivesOf_eq]

theorem callsOf_effectsOf (log : List Event) : callsOf (effectsOf log) = callsOf log := by
  rw [callsOf_eq, callsOf_eq, effectsOf, List.filterMap_filter]
  congr 1
  funext e
  cases e <;> rfl

theorem directivesOf_effectsOf (log : List Event) :
    directivesOf (effectsOf log) = directivesOf log := by
  rw [directivesOf_eq, directivesOf_eq, effectsOf, List.filterMap_filter]
  congr 1
  funext e
  cases e <;> rfl

theorem callsOf_map_started (calls : List Call) : callsOf (calls.map .started) = calls := by
  induction calls with
  | nil => rfl
  | cons call rest ih => rw [List.map_cons, callsOf_eq, List.filterMap_cons, ← callsOf_eq, ih]; rfl

theorem callsOf_map_emitted (ds : List Directive) : callsOf (ds.map .emitted) = [] := by
  rw [callsOf_eq, List.filterMap_eq_nil_iff]
  intro e he
  obtain ⟨d, -, rfl⟩ := List.mem_map.1 he
  rfl

theorem directivesOf_map_started (calls : List Call) : directivesOf (calls.map .started) = [] := by
  rw [directivesOf_eq, List.filterMap_eq_nil_iff]
  intro e he
  obtain ⟨call, -, rfl⟩ := List.mem_map.1 he
  rfl

theorem directivesOf_map_emitted (ds : List Directive) : directivesOf (ds.map .emitted) = ds := by
  induction ds with
  | nil => rfl
  | cons d rest ih =>
    rw [List.map_cons, directivesOf_eq, List.filterMap_cons, ← directivesOf_eq, ih]; rfl

/-- Whether a tool has failed: it could not be started, it has ended badly, or what it has printed
can not be read. -/
def Reply.isFailure : Reply → Bool
  | refused _ => true
  | garbled _ => true
  | ended exit => exit.code ≠ 0

namespace Job

variable {α β : Type} {host : Host} {s : Session} {necessary : Call → Prop}
  {script rest : List Event}

/-! ## Following a script -/

/-- Actions that leave no event. -/
def Quiet (a : Action) : Prop := a.event? = none

/-- The effects of the job are a first part of the script, and all of it if the job succeeds.
After a necessary tool has failed there is no other effect, and the job fails. -/
structure Follows (necessary : Call → Prop) (script : List Event) (j : Job α) (host : Host)
    (s : Session) : Prop where
  within : Within (fun _ => True) j host s
  effects : effectsOf (j.events host s) <+: script
  complete : ∀ a, j.result host s = .ok a → effectsOf (j.events host s) = script
  stops : ∀ before call after, j.events host s = before ++ .started call :: after →
    necessary call → (host.tools (callsOf s.log ++ callsOf before) call).isFailure = true →
      effectsOf after = [] ∧ ∃ f, j.result host s = .error f

theorem isEffect_of_quiet {j : Job α} (h : Within Quiet j host s) :
    ∀ e ∈ j.events host s, e.isEffect = false := by
  refine Within.forall_events (h.mono fun a ha e he => ?_) (fun _ _ _ => rfl) fun _ _ => rfl
  rw [show a.event? = none from ha] at he
  cases he

theorem effectsOf_of_quiet {j : Job α} (h : Within Quiet j host s) :
    effectsOf (j.events host s) = [] := by
  unfold effectsOf
  rw [List.filter_eq_nil_iff]
  intro e he heffect
  rw [isEffect_of_quiet h e he] at heffect
  cases heffect

theorem not_started_of_quiet {j : Job α} (h : Within Quiet j host s) {before after : List Event}
    {call : Call} : j.events host s ≠ before ++ .started call :: after := by
  intro hevents
  have := isEffect_of_quiet h (.started call) (by simp [hevents])
  cases this

theorem follows_of_quiet {j : Job α} (h : Within Quiet j host s) :
    Follows necessary [] j host s where
  within := h.any
  effects := by simp [effectsOf_of_quiet h]
  complete _ _ := effectsOf_of_quiet h
  stops _ _ _ hevents := absurd hevents (not_started_of_quiet h)

/-- A job that fails at once follows every script. -/
theorem follows_of_error {j : Job α} {f : Failure} (h : Within Quiet j host s)
    (hresult : j.result host s = .error f) : Follows necessary script j host s where
  within := h.any
  effects := by simp [effectsOf_of_quiet h]
  complete a ha := by
    rw [hresult] at ha
    cases ha
  stops _ _ _ hevents := absurd hevents (not_started_of_quiet h)

theorem follows_pure (a : α) : Follows necessary [] (pure a : Job α) host s :=
  follows_of_quiet (within_pure a)

theorem follows_fail (p : Problem) : Follows necessary script (fail p : Job α) host s :=
  follows_of_error (within_fail p) (result_fail p)

theorem follows_emit (d : Directive) : Follows necessary [.emitted d] (emit d) host s := by
  have hevents : (emit d).events host s = [.emitted d] := by
    simp [events, emit]
  have heffects : effectsOf ((emit d).events host s) = [.emitted d] := by
    rw [hevents]
    rfl
  refine ⟨within_emit trivial, heffects ▸ List.prefix_rfl, fun _ _ => heffects, ?_⟩
  intro before call after hsplit
  rw [hevents] at hsplit
  cases before <;> simp at hsplit

theorem Follows.mono {necessary' : Call → Prop} {j : Job α}
    (h : Follows necessary script j host s) (hsub : ∀ call, necessary' call → necessary call) :
    Follows necessary' script j host s where
  within := h.within
  effects := h.effects
  complete := h.complete
  stops before call after hsplit hcall := h.stops before call after hsplit (hsub call hcall)

/-! ### One job after another -/

/-- One script after the other. A first job in which a necessary tool has failed does not succeed,
so that nothing of the second one follows. -/
theorem Follows.bind {x : Job α} {f : α → Job β} (hx : Follows necessary script x host s)
    (hf : ∀ a, x.result host s = .ok a → Follows necessary rest (f a) host (x.left host s)) :
    Follows necessary (script ++ rest) (x >>= f) host s := by
  have hwithin : Within (fun _ => True) (x >>= f) host s :=
    hx.within.bind fun a ha => (hf a ha).within
  cases hresult : x.result host s with
  | error e =>
    have hfailed := result_bind_of_error hresult f
    have hevents : (x >>= f).events host s = x.events host s := events_bind_of_error hresult
    refine ⟨hwithin, ?_, ?_, ?_⟩
    · rw [hevents]
      exact hx.effects.trans (List.prefix_append script rest)
    · intro b hb
      rw [hfailed] at hb
      cases hb
    · intro before call after hsplit hnecessary hbad
      rw [hevents] at hsplit
      exact ⟨(hx.stops before call after hsplit hnecessary hbad).1, e, hfailed⟩
  | ok a =>
    have hrest := hf a hresult
    have hevents := events_bind_of_ok hx.within hresult hrest.within
    have heffects : effectsOf ((x >>= f).events host s) =
        script ++ effectsOf ((f a).events host (x.left host s)) := by
      rw [hevents, effectsOf_append, hx.complete a hresult]
    have hthen := result_bind_of_ok hresult f
    refine ⟨hwithin, ?_, ?_, ?_⟩
    · rw [heffects]
      exact (List.prefix_append_right_inj script).2 hrest.effects
    · intro b hb
      rw [hthen] at hb
      rw [heffects, hrest.complete b hb]
    · intro before call after hsplit hnecessary hbad
      rw [hevents] at hsplit
      rw [hthen]
      rcases List.append_eq_append_iff.1 hsplit with
        ⟨before', rfl, hlater⟩ | ⟨between, hfirst, hlater⟩
      · refine hrest.stops before' call after hlater hnecessary ?_
        rwa [hx.within.log_left, callsOf_append, List.append_assoc, ← callsOf_append]
      · cases between with
        | nil =>
          refine hrest.stops [] call after hlater.symm hnecessary ?_
          rw [List.append_nil] at hfirst
          rwa [hx.within.log_left, callsOf_append, hfirst, callsOf_eq [], List.filterMap_nil,
            List.append_nil]
        | cons e between =>
          obtain ⟨rfl, -⟩ := List.cons.inj hlater
          obtain ⟨-, f', hf'⟩ := hx.stops before call between hfirst hnecessary hbad
          rw [hresult] at hf'
          cases hf'

theorem Follows.first {e : Event} {x : Job α} {f : α → Job β} (hx : Follows necessary [e] x host s)
    (hf : ∀ a, x.result host s = .ok a → Follows necessary script (f a) host (x.left host s)) :
    Follows necessary (e :: script) (x >>= f) host s := hx.bind hf

/-- A job before which nothing but messages come. -/
theorem Follows.after_quiet {x : Job α} {f : α → Job β} (hx : Within Quiet x host s)
    (hf : ∀ a, x.result host s = .ok a → Follows necessary script (f a) host (x.left host s)) :
    Follows necessary script (x >>= f) host s := (follows_of_quiet hx).bind hf

theorem follows_forM_emit (ds : List Directive) :
    Follows necessary (ds.map .emitted) (ds.forM emit) host s := by
  induction ds generalizing s with
  | nil => exact follows_pure _
  | cons d rest ih => exact (follows_emit d).first fun _ _ => ih

/-! ### Starts of tools -/

theorem follows_start {call : Call} (h : ¬necessary call) :
    Follows necessary [.started call] (start call) host s := by
  have heffects : effectsOf ((start call).events host s) = [.started call] := by
    rw [events_start]
    rfl
  refine ⟨within_start trivial, heffects ▸ List.prefix_rfl, fun _ _ => heffects, ?_⟩
  intro before call' after hsplit hnecessary
  rw [events_start] at hsplit
  cases before with
  | nil =>
    cases hsplit
    exact absurd hnecessary h
  | cons e before => simp at hsplit

/-- A job that fails and tells at most why. -/
def GivesUp (j : Job α) (host : Host) (s : Session) : Prop :=
  Within Quiet j host s ∧ ∃ f, j.result host s = .error f

/-- A job that starts a tool, gives up if the tool has failed, and goes on otherwise. -/
theorem Follows.after_start {call : Call} {f : Except SystemError Exit → Job α}
    (hrefused : ∀ e s', GivesUp (f (.error e)) host s')
    (hbad : ∀ exit s', exit.code ≠ 0 → GivesUp (f (.ok exit)) host s')
    (hgood : ∀ exit s', exit.code = 0 → Follows necessary script (f (.ok exit)) host s') :
    Follows necessary (.started call :: script) (start call >>= f) host s := by
  have hrest (answer : Except SystemError Exit) (s' : Session) :
      Follows necessary script (f answer) host s' := by
    cases answer with
    | error e =>
      obtain ⟨hquiet, p, hp⟩ := hrefused e s'
      exact follows_of_error hquiet hp
    | ok exit =>
      by_cases hcode : exit.code = 0
      · exact hgood exit s' hcode
      · obtain ⟨hquiet, p, hp⟩ := hbad exit s' hcode
        exact follows_of_error hquiet hp
  have hstarts : Follows (fun _ => False) [.started call] (start call) host s := follows_start id
  have hoptional : Follows (fun _ => False) (.started call :: script) (start call >>= f) host s :=
    hstarts.first fun answer _ => (hrest answer _).mono fun _ => False.elim
  refine ⟨hoptional.within, hoptional.effects, hoptional.complete, ?_⟩
  intro before other after hsplit hnecessary hfailure
  cases hstart : (start call).result host s with
  | error e =>
    rw [events_bind_of_error hstart, events_start] at hsplit
    refine ⟨?_, e, result_bind_of_error hstart _⟩
    cases before with
    | nil =>
      obtain ⟨-, rfl⟩ := List.cons.inj hsplit
      rfl
    | cons e before => simp at hsplit
  | ok answer =>
    rw [events_bind_of_ok hstarts.within hstart (hrest answer _).within, events_start] at hsplit
    rw [result_bind_of_ok hstart]
    cases before with
    | nil =>
      obtain ⟨hcall, rfl⟩ := List.cons.inj hsplit
      cases hcall
      have hgivesUp : GivesUp (f answer) host ((start call).left host s) := by
        cases answer with
        | error e => exact hrefused e _
        | ok exit =>
          rw [callsOf_eq [], List.filterMap_nil, List.append_nil, tools_of_result_start hstart]
            at hfailure
          exact hbad exit _ (by simpa [Reply.isFailure] using hfailure)
      exact ⟨effectsOf_of_quiet hgivesUp.1, hgivesUp.2⟩
    | cons e before =>
      obtain ⟨rfl, hlater⟩ := List.cons.inj hsplit
      refine (hrest answer _).stops before other after hlater hnecessary ?_
      rw [callsOf_left_start, List.append_assoc]
      exact hfailure

end Job

end CrossBuild
