-- What a job comes to and what it does on the way. A run of a job is a list of
-- actions, one after the other, so that whatever every action keeps is kept by
-- the run: the log only grows, and a file stays away if no action brings it.
import CrossBuild.Job

namespace CrossBuild

/-! ## The outcome of a job -/

/-- Whether a failure is one that the user gets a report on. -/
def Failure.isReported : Failure → Bool
  | problem _ => true
  | _ => false

namespace Job

variable {α β : Type}

/-- A computation that is seen to succeed gives something. -/
theorem exists_of_isOk {ε : Type} {e : Except ε α} (h : e.isOk = true) : ∃ a, e = .ok a := by
  cases e with
  | error _ => cases h
  | ok a => exact ⟨a, rfl⟩

/-- A computation that is seen to give something gives it. -/
theorem eq_ok_of_toOption {ε : Type} {e : Except ε α} {a : α} (h : e.toOption = some a) :
    e = .ok a := by
  cases e with
  | error _ => cases h
  | ok b => exact congrArg Except.ok (Option.some.inj h)

/-- Whether the user is told what a job comes to: it gives a value, or it fails with a report. -/
def isTold : Except Failure α → Bool
  | .ok _ => true
  | .error f => f.isReported

/-- The value that a job gives when it starts from a session, or why it fails. -/
def result (j : Job α) (host : Host) (s : Session) : Except Failure α :=
  match (j.run host).run s with
  | .ok a _ => .ok a
  | .error f _ => .error f

/-- The session that a job leaves when it starts from a session. -/
def left (j : Job α) (host : Host) (s : Session) : Session :=
  match (j.run host).run s with
  | .ok _ s' => s'
  | .error _ s' => s'

/-- The events of a job that starts from a session. -/
def events (j : Job α) (host : Host) (s : Session) : List Event :=
  (j.left host s).log.drop s.log.length

theorem run_bind (x : Job α) (f : α → Job β) (host : Host) (s : Session) :
    ((x >>= f).run host).run s =
      match (x.run host).run s with
      | .ok a s' => ((f a).run host).run s'
      | .error e s' => .error e s' := by
  rw [ReaderT.run_bind, EStateM.run_bind]
  cases (x.run host).run s <;> rfl

theorem result_bind (x : Job α) (f : α → Job β) (host : Host) (s : Session) :
    (x >>= f).result host s =
      match x.result host s with
      | .ok a => (f a).result host (x.left host s)
      | .error e => .error e := by
  unfold result left
  rw [run_bind]
  cases (x.run host).run s <;> rfl

theorem left_bind (x : Job α) (f : α → Job β) (host : Host) (s : Session) :
    (x >>= f).left host s =
      match x.result host s with
      | .ok a => (f a).left host (x.left host s)
      | .error _ => x.left host s := by
  unfold result left
  rw [run_bind]
  cases (x.run host).run s <;> rfl

variable {host : Host} {s : Session}

theorem result_bind_of_ok {x : Job α} {a : α} (h : x.result host s = .ok a) (f : α → Job β) :
    (x >>= f).result host s = (f a).result host (x.left host s) := by
  rw [result_bind, h]

theorem left_bind_of_ok {x : Job α} {a : α} (h : x.result host s = .ok a) (f : α → Job β) :
    (x >>= f).left host s = (f a).left host (x.left host s) := by
  rw [left_bind, h]

/-- The job gives the value and leaves the session. -/
def Yields (j : Job α) (host : Host) (s : Session) (a : α) (s' : Session) : Prop :=
  j.result host s = .ok a ∧ j.left host s = s'

theorem Yields.result_bind {x : Job α} {a : α} {s' : Session} (h : Yields x host s a s')
    (f : α → Job β) : (x >>= f).result host s = (f a).result host s' := by
  obtain ⟨hresult, rfl⟩ := h
  exact result_bind_of_ok hresult f

theorem result_bind_of_error {x : Job α} {e : Failure} (h : x.result host s = .error e)
    (f : α → Job β) : (x >>= f).result host s = .error e := by
  rw [result_bind, h]

theorem left_bind_of_error {x : Job α} {e : Failure} (h : x.result host s = .error e)
    (f : α → Job β) : (x >>= f).left host s = x.left host s := by
  rw [left_bind, h]

/-- A sequence that gives a value has gone through both of its parts. -/
theorem result_bind_eq_ok {x : Job α} {f : α → Job β} {b : β} :
    (x >>= f).result host s = .ok b ↔
      ∃ a, x.result host s = .ok a ∧ (f a).result host (x.left host s) = .ok b := by
  rw [result_bind]
  cases x.result host s <;> simp

/-! ### Jobs that leave everything as it is -/

theorem mapError_ok {ε ε' : Type} (f : ε → ε') (a : α) :
    (Except.ok a : Except ε α).mapError f = .ok a := rfl

theorem mapError_error {ε ε' : Type} (f : ε → ε') (e : ε) :
    (Except.error e : Except ε α).mapError f = .error (f e) := rfl

@[simp]
theorem result_pure (a : α) : (pure a : Job α).result host s = .ok a := rfl

@[simp]
theorem left_pure (a : α) : (pure a : Job α).left host s = s := rfl

@[simp]
theorem result_fail (p : Problem) : (fail p : Job α).result host s = .error (.problem p) := rfl

/-- A job that ends in a failure does not succeed, whatever comes before. -/
theorem exists_result_bind_fail (x : Job α) (p : Problem) :
    ∃ f, (x >>= fun _ => (fail p : Job β)).result host s = .error f := by
  rw [result_bind]
  cases x.result host s with
  | error f => exact ⟨f, rfl⟩
  | ok a => exact ⟨.problem p, rfl⟩

/-- Nothing comes after a failure. -/
theorem fail_bind (p : Problem) (f : α → Job β) : (fail p >>= f) = fail p := rfl

@[simp]
theorem left_get (e : Except Problem α) : (Job.get e).left host s = s := by
  cases e <;> rfl

@[simp]
theorem left_ofExcept (e : Except Failure α) :
    (MonadExcept.ofExcept e : Job α).left host s = s := by
  cases e <;> rfl

@[simp]
theorem result_get (e : Except Problem α) :
    (Job.get e).result host s = e.mapError .problem := by
  cases e <;> rfl

@[simp]
theorem result_ofExcept (e : Except Failure α) :
    (MonadExcept.ofExcept e : Job α).result host s = e := by
  cases e <;> rfl

@[simp]
theorem result_record (e : Event) : (record e).result host s = .ok () := rfl

@[simp]
theorem left_record (e : Event) : (record e).left host s = { s with log := s.log ++ [e] } := rfl

@[simp]
theorem result_read : (read : Job Host).result host s = .ok host := rfl

@[simp]
theorem left_read : (read : Job Host).left host s = s := rfl

@[simp]
theorem result_getThe : (getThe Session : Job Session).result host s = .ok s := rfl

@[simp]
theorem left_getThe : (getThe Session : Job Session).left host s = s := rfl

/-- A job for each member of a list comes to its end if every one of them does. -/
theorem result_forM {f : α → Job PUnit} (l : List α)
    (h : ∀ a ∈ l, ∀ s, (f a).result host s = .ok ⟨⟩) : (l.forM f).result host s = .ok ⟨⟩ := by
  induction l generalizing s with
  | nil => rfl
  | cons a rest ih =>
    change (f a >>= fun _ => rest.forM f).result host s = _
    rw [result_bind_of_ok (h a List.mem_cons_self s)]
    exact ih fun b hb => h b (List.mem_cons_of_mem _ hb)

/-! ### Jobs that ask the disk -/

theorem result_ask (p : Path) (question : Disk → Location → Except ErrorCode α) :
    (ask p question).result host s =
      if p.hasNul then .error (.nulInPath p) else .ok (question s.disk host.cwd.parts) := by
  unfold ask
  cases p.hasNul <;> rfl

@[simp]
theorem left_ask (p : Path) (question : Disk → Location → Except ErrorCode α) :
    (ask p question).left host s = s := by
  unfold ask
  cases p.hasNul <;> rfl

theorem result_require (p : Path) (question : Disk → Location → Except ErrorCode α) :
    (require p question).result host s =
      if p.hasNul then .error (.nulInPath p)
      else (question s.disk host.cwd.parts).mapError fun code => .system ⟨code, p.text⟩ := by
  unfold require
  rw [result_bind, result_ask, left_ask]
  split
  · rename_i h
    split at h
    · cases h
    · cases h
      rename_i hnul
      rw [if_neg hnul]
      cases question s.disk host.cwd.parts <;> rfl
  · rename_i h
    split at h
    · cases h
      simp [*]
    · cases h

@[simp]
theorem left_require (p : Path) (question : Disk → Location → Except ErrorCode α) :
    (require p question).left host s = s := by
  unfold require
  rw [left_bind, left_ask]
  split
  · split <;> rfl
  · rfl

@[simp]
theorem left_test (p : Path) (question : Disk → Location → Except ErrorCode Bool) :
    (test p question).left host s = s := by
  unfold test
  split
  · rfl
  · exact left_require p question

@[simp]
theorem left_isFile (p : Path) : (isFile p).left host s = s := left_test p _

@[simp]
theorem left_isPresent (p : Path) : (isPresent p).left host s = s := left_test p _

theorem result_test (p : Path) (question : Disk → Location → Except ErrorCode Bool) :
    (test p question).result host s =
      if p.hasNul then .ok false
      else (question s.disk host.cwd.parts).mapError fun code => .system ⟨code, p.text⟩ := by
  unfold test
  cases hnul : p.hasNul
  · rw [if_neg Bool.false_ne_true, result_require, hnul, if_neg Bool.false_ne_true,
      if_neg Bool.false_ne_true]
  · rfl

theorem result_isPresent (p : Path) :
    (isPresent p).result host s =
      if p.hasNul then .ok false
      else (s.disk.isPresent host.cwd.parts p).mapError fun code => .system ⟨code, p.text⟩ :=
  result_test p _

/-- Something is found only under a path that something can have. -/
theorem result_isPresent_eq_ok_true {p : Path} :
    (isPresent p).result host s = .ok true ↔
      p.hasNul = false ∧ s.disk.isPresent host.cwd.parts p = .ok true := by
  rw [result_isPresent]
  cases p.hasNul with
  | true => simp
  | false => cases s.disk.isPresent host.cwd.parts p <;> simp [mapError_ok, mapError_error]

theorem result_isFile (p : Path) :
    (isFile p).result host s =
      if p.hasNul then .ok false
      else (s.disk.isFile host.cwd.parts p).mapError fun code => .system ⟨code, p.text⟩ :=
  result_test p _

/-- A file is found only under a path that can be one of a file. -/
theorem result_isFile_eq_ok_true {p : Path} :
    (isFile p).result host s = .ok true ↔
      p.hasNul = false ∧ s.disk.isFile host.cwd.parts p = .ok true := by
  rw [result_isFile]
  cases p.hasNul with
  | true => simp
  | false => cases s.disk.isFile host.cwd.parts p <;> simp [mapError_ok, mapError_error]

/-! ### Jobs that change the disk -/

theorem left_ensureFolders (p : Path) :
    (ensureFolders p).left host s =
      if p.hasNul then s
      else { s with disk := (s.disk.ensureFolders host.cwd.parts p).1 } := by
  unfold ensureFolders
  rw [left_bind, result_require, left_require]
  cases p.hasNul
  · simp only [Bool.false_eq_true, if_false, mapError_ok]
    rw [left_bind]
    rcases (s.disk.ensureFolders host.cwd.parts p).2 with code | _ <;> rfl
  · rfl

theorem result_ensureFolders (p : Path) :
    (ensureFolders p).result host s =
      if p.hasNul then .error (.nulInPath p)
      else
        (s.disk.ensureFolders host.cwd.parts p).2.mapError fun code => .system ⟨code, p.text⟩ := by
  unfold ensureFolders
  rw [result_bind, result_require, left_require]
  cases p.hasNul
  · simp only [Bool.false_eq_true, if_false, mapError_ok]
    rw [result_bind]
    rcases (s.disk.ensureFolders host.cwd.parts p).2 with code | _ <;> rfl
  · rfl

theorem left_removeFile (p : Path) :
    (removeFile p).left host s =
      if p.hasNul then s
      else
        match s.disk.unlink host.cwd.parts p with
        | .ok d => { s with disk := d }
        | .error _ => s := by
  unfold removeFile
  rw [left_bind, result_ask, left_ask]
  cases p.hasNul
  · simp only [Bool.false_eq_true, if_false]
    cases s.disk.unlink host.cwd.parts p with
    | ok d => rfl
    | error code =>
      simp only
      split <;> rfl
  · rfl

theorem result_removeFile (p : Path) :
    (removeFile p).result host s =
      if p.hasNul then .error (.nulInPath p)
      else
        match s.disk.unlink host.cwd.parts p with
        | .ok _ => .ok ()
        | .error code => if code ≠ .noEntry then .error (.system ⟨code, p.text⟩) else .ok () := by
  unfold removeFile
  rw [result_bind, result_ask, left_ask]
  cases p.hasNul
  · simp only [Bool.false_eq_true, if_false]
    cases s.disk.unlink host.cwd.parts p with
    | ok d => rfl
    | error code =>
      simp only
      split <;> rfl
  · rfl

theorem left_rename (p q : Path) :
    (rename p q).left host s =
      if p.hasNul then s
      else
        match s.disk.rename host.cwd.parts p q with
        | .ok d => { s with disk := d }
        | .error _ => s := by
  unfold rename
  rw [left_bind, result_require, left_require]
  cases p.hasNul
  · simp only [Bool.false_eq_true, if_false]
    cases s.disk.rename host.cwd.parts p q <;> rfl
  · rfl

theorem result_rename (p q : Path) :
    (rename p q).result host s =
      if p.hasNul then .error (.nulInPath p)
      else
        match s.disk.rename host.cwd.parts p q with
        | .ok _ => .ok ()
        | .error code => .error (.system ⟨code, p.text⟩) := by
  unfold rename
  rw [result_bind, result_require, left_require]
  cases p.hasNul
  · simp only [Bool.false_eq_true, if_false]
    cases s.disk.rename host.cwd.parts p q <;> rfl
  · rfl

/-- A move that fails changes nothing. -/
theorem left_rename_of_error {p q : Path} {f : Failure}
    (h : (rename p q).result host s = .error f) : (rename p q).left host s = s := by
  rw [left_rename]
  rw [result_rename] at h
  cases hnul : p.hasNul
  · rw [hnul] at h
    cases hrename : s.disk.rename host.cwd.parts p q with
    | error code => rfl
    | ok d =>
      rw [hrename] at h
      cases h
  · rfl

/-! ### Jobs that start a tool -/

/-- The files that a call of a tool writes on a host: none if the call has a NUL character in it. -/
def writtenOn (host : Host) (earlier : List Call) (call : Call) : List (Path × String) :=
  if call.hasNul then [] else (host.tools earlier call).written

theorem mem_written_of_mem_writtenOn {earlier : List Call} {call : Call} {w : Path × String}
    (h : w ∈ writtenOn host earlier call) : w ∈ (host.tools earlier call).written := by
  unfold writtenOn at h
  split at h
  · cases h
  · exact h

/-- The disk after a call of a tool has written its files, and where the writing stops if one of
them can not be written. -/
def writtenBy (host : Host) (call : Call) (written : List (Path × String)) (d : Disk) :
    Disk × Except SystemError Unit :=
  writeAll host.cwd.parts (host.cwd / call.folder.getD .here) written d

/-- A call is recorded whatever comes of it. -/
theorem left_start (call : Call) :
    (start call).left host s =
      { disk := (writtenBy host call (writtenOn host (callsOf s.log) call) s.disk).1
        log := s.log ++ [.started call] } := by
  unfold start writtenBy writtenOn
  simp only [left_bind, result_read, left_read, result_getThe, left_getThe, result_record,
    left_record]
  cases call.hasNul
  · exact left_ofExcept _
  · rfl

theorem result_start (call : Call) :
    (start call).result host s =
      if call.hasNul then .error (.nulInCall call)
      else answerOf call (writtenBy host call (writtenOn host (callsOf s.log) call) s.disk).2
        (host.tools (callsOf s.log) call) := by
  unfold start writtenBy writtenOn
  simp only [result_bind, result_read, left_read, result_getThe, left_getThe, result_record,
    left_record]
  cases call.hasNul
  · exact result_ofExcept _
  · rfl

/-- A tool that has ended for its caller has been called in words that it can be called in, and all
its files have been written. -/
theorem result_start_eq_ok_ok {call : Call} {exit : Exit} :
    (start call).result host s = .ok (.ok exit) ↔
      call.hasNul = false ∧ host.tools (callsOf s.log) call = .ended exit ∧
        (writtenBy host call exit.written s.disk).2 = .ok () := by
  rw [result_start]
  unfold writtenOn
  cases call.hasNul with
  | true => simp
  | false =>
    simp only [Bool.false_eq_true, if_false, true_and]
    cases htools : host.tools (callsOf s.log) call with
    | refused code => simp [answerOf]
    | garbled written => simp [answerOf]
    | ended exit' =>
      simp only [answerOf, Reply.written, Except.ok.injEq, Reply.ended.injEq]
      constructor
      · intro h
        cases hw : (writtenBy host call exit'.written s.disk).2 with
        | error e =>
          rw [hw] at h
          cases h
        | ok u =>
          rw [hw] at h
          cases h
          exact ⟨rfl, hw⟩
      · rintro ⟨rfl, hw⟩
        rw [hw]
        rfl

/-- A call comes to no answer if it has a NUL character in it, or if the tool has ended and what it
has printed is not text. -/
theorem result_start_eq_error {call : Call} {f : Failure} :
    (start call).result host s = .error f ↔
      (call.hasNul = true ∧ f = .nulInCall call) ∨
      (call.hasNul = false ∧ f = .outputNotText call ∧
        ∃ written, host.tools (callsOf s.log) call = .garbled written) := by
  rw [result_start]
  cases call.hasNul with
  | true => simp [eq_comm]
  | false =>
    simp only [Bool.false_eq_true, if_false, false_and, false_or, true_and]
    cases htools : host.tools (callsOf s.log) call <;> simp [answerOf, eq_comm]

theorem tools_of_result_start {call : Call} {exit : Exit}
    (h : (start call).result host s = .ok (.ok exit)) :
    host.tools (callsOf s.log) call = .ended exit := (result_start_eq_ok_ok.1 h).2.1

/-- The files of a tool that has ended for its caller are those of its exit. -/
theorem writtenOn_of_result_start {call : Call} {exit : Exit}
    (h : (start call).result host s = .ok (.ok exit)) :
    writtenOn host (callsOf s.log) call = exit.written := by
  obtain ⟨hnul, htools, -⟩ := result_start_eq_ok_ok.1 h
  unfold writtenOn
  rw [hnul, htools]
  rfl

end Job

end CrossBuild
