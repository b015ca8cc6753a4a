import GameBundle.Bundle.Work
import Mathlib.Order.RelClasses

/-!
# Reasoning about steps

Running a step is opened one operation at a time. Two kinds of facts are carried
through whole exports: what all steps have in common, success or not, and that steps
succeed.
-/

namespace GameBundle

def ExportFault.IsOfFiles : ExportFault → Prop
  | .directory _ _ => True
  | .write _ _ => True
  | .template _ _ => True
  | _ => False

namespace Work

variable {σ α β : Type}

@[simp] theorem exec_pure (a : α) (session : Session σ) :
    (pure a : Work σ α).exec session = (.ok a, session) := rfl

@[simp] theorem exec_throw (fault : ExportFault) (session : Session σ) :
    (throw fault : Work σ α).exec session = (.error fault, session) := rfl

@[simp] theorem exec_get (session : Session σ) :
    (get : Work σ (Session σ)).exec session = (.ok session, session) := rfl

@[simp] theorem exec_look (view : σ → α) (session : Session σ) :
    (look view).exec session = (.ok (view session.disk), session) := rfl

@[simp] theorem exec_report (diagnostics : Diagnostics) (session : Session σ) :
    (report diagnostics : Work σ Unit).exec session =
      (.ok (), { session with diagnostics := session.diagnostics.append diagnostics }) := rfl

@[simp] theorem exec_warn (code : Code) (message subject : String) (session : Session σ) :
    (warn code message subject : Work σ Unit).exec session =
      (.ok (), { session with diagnostics := session.diagnostics.warn code message subject }) := rfl

@[simp] theorem exec_attempt (act : σ → Except StorageFault Unit × σ) (session : Session σ) :
    (attempt act).exec session =
      (.ok (act session.disk).1, { session with disk := (act session.disk).2 }) := rfl

@[simp] theorem exec_lift (steps : StateM (Session σ) α) (session : Session σ) :
    (liftM steps : Work σ α).exec session =
      (.ok (steps.run session).1, (steps.run session).2) := rfl

theorem exec_bind (work : Work σ α) (next : α → Work σ β) (session : Session σ) :
    (work >>= next).exec session = match work.exec session with
      | (.ok a, later) => (next a).exec later
      | (.error fault, later) => (.error fault, later) := by
  change ((work >>= next).run.run session) = _
  rw [ExceptT.run_bind, StateT.run_bind]
  change (ExceptT.bindCont next (work.exec session).1).run (work.exec session).2 = _
  rcases work.exec session with ⟨outcome, later⟩
  cases outcome <;> rfl

/-- Steps that succeed do so in one way. -/
theorem ok_unique {outcome : Except ExportFault α × Session σ} {a b : α} {one other : Session σ}
    (first : outcome = (.ok a, one)) (second : outcome = (.ok b, other)) : a = b ∧ one = other := by
  obtain ⟨same, sessions⟩ := Prod.mk.inj (first.symm.trans second)
  exact ⟨Except.ok.inj same, sessions⟩

/-- A chain of steps that succeeds has a first step that does. -/
theorem exec_bind_eq_ok {work : Work σ α} {next : α → Work σ β} {session final : Session σ} {b : β}
    (h : (work >>= next).exec session = (.ok b, final)) :
    ∃ a later, work.exec session = (.ok a, later) ∧ (next a).exec later = (.ok b, final) := by
  rw [exec_bind] at h
  rcases first : work.exec session with ⟨outcome, later⟩
  rw [first] at h
  cases outcome with
  | error fault => simp at h
  | ok a => exact ⟨a, later, rfl, h⟩

/-- What a step that succeeds is seen to return. -/
theorem exec_eq_ok_of_map {work : Work σ α} {view : α → β} {session : Session σ} {b : β}
    (seen : (work.exec session).1.map view = .ok b) :
    ∃ a final, work.exec session = (.ok a, final) ∧ view a = b := by
  rcases done : work.exec session with ⟨_ | a, final⟩
  · rw [done] at seen
    cases seen
  · rw [done] at seen
    exact ⟨a, final, rfl, Except.ok.inj seen⟩

theorem exec_bind_of_ok {work : Work σ α} {next : α → Work σ β} {session later : Session σ} {a : α}
    (h : work.exec session = (.ok a, later)) :
    (work >>= next).exec session = (next a).exec later := by
  rw [exec_bind, h]

theorem exec_look_bind (view : σ → α) (next : α → Work σ β) (session : Session σ) :
    (look view >>= next).exec session = (next (view session.disk)).exec session :=
  exec_bind_of_ok (exec_look view session)

theorem exec_change (fault : StorageFault → ExportFault) (act : σ → Except StorageFault Unit × σ)
    (session : Session σ) :
    (change fault act).exec session =
      ((act session.disk).1.mapError fault, { session with disk := (act session.disk).2 }) := by
  unfold change
  rw [exec_bind, exec_attempt]
  cases (act session.disk).1 <;> rfl

/-- An operation that does not end the export succeeded. -/
theorem exec_change_eq_ok {fault : StorageFault → ExportFault}
    {act : σ → Except StorageFault Unit × σ} {session final : Session σ}
    (h : (change fault act).exec session = (.ok (), final)) :
    act session.disk = (.ok (), final.disk) ∧ final.diagnostics = session.diagnostics := by
  rw [exec_change, Prod.mk.injEq] at h
  obtain ⟨succeeded, rfl⟩ := h
  refine ⟨?_, rfl⟩
  cases acted : (act session.disk).1 with
  | error cause => simp [acted, Except.mapError] at succeeded
  | ok done => exact Prod.ext acted rfl

theorem forM_cons (item : β) (rest : List β) (step : β → Work σ Unit) :
    (item :: rest).forM step = step item >>= fun _ => rest.forM step := rfl

theorem forM_append (front back : List β) (step : β → Work σ Unit) :
    (front ++ back).forM step = front.forM step >>= fun _ => back.forM step :=
  List.forM_append

/-- Whatever becomes of a step, the files before and after it are related, and a fault that
ends it is one of files. -/
def KeepsAt (R : σ → σ → Prop) (work : Work σ α) (session : Session σ) : Prop :=
  R session.disk (work.exec session).2.disk ∧
    ∀ fault, (work.exec session).1 = .error fault → fault.IsOfFiles

def Keeps (R : σ → σ → Prop) (work : Work σ α) : Prop := ∀ session, KeepsAt R work session

section

variable {R : σ → σ → Prop}

theorem keepsAt_change {fault : StorageFault → ExportFault}
    (ofFiles : ∀ cause, (fault cause).IsOfFiles) {act : σ → Except StorageFault Unit × σ}
    {session : Session σ} (related : R session.disk (act session.disk).2) :
    KeepsAt R (change fault act) session := by
  unfold KeepsAt
  rw [exec_change]
  refine ⟨related, fun other failed => ?_⟩
  cases acted : (act session.disk).1 with
  | error cause =>
    rw [acted] at failed
    cases failed
    exact ofFiles cause
  | ok done => simp [acted, Except.mapError] at failed

/-- What follows a step may rely on what the step returned. -/
theorem KeepsAt.bind [IsPreorder σ R] {work : Work σ α} {next : α → Work σ β} {session : Session σ}
    (first : KeepsAt R work session)
    (later : ∀ a middle, work.exec session = (.ok a, middle) → KeepsAt R (next a) middle) :
    KeepsAt R (work >>= next) session := by
  unfold KeepsAt
  rw [exec_bind]
  rcases ran : work.exec session with ⟨outcome, middle⟩
  unfold KeepsAt at first
  rw [ran] at first
  cases outcome with
  | error fault =>
    refine ⟨first.1, fun other failed => ?_⟩
    cases failed
    exact first.2 fault rfl
  | ok a =>
    have rest := later a middle ran
    exact ⟨IsTrans.trans _ _ _ first.1 rest.1, rest.2⟩

variable [Storage σ]

theorem keeps_createDirs {path : Path} (h : ∀ disk, R disk (Storage.createDirs path disk).2) :
    Keeps R (createDirs path) := by
  intro session
  apply keepsAt_change
  · exact fun _ => trivial
  · exact h session.disk

theorem keeps_write {path : Path} {text : String}
    (h : ∀ disk, R disk (Storage.write path text disk).2) : Keeps R (write path text) := by
  intro session
  apply keepsAt_change
  · exact fun _ => trivial
  · exact h session.disk

theorem keepsAt_copy {source target : Path} {session : Session σ}
    (related : R session.disk (Storage.copy source target session.disk).2) :
    KeepsAt R (copy source target) session := by
  apply keepsAt_change
  · exact fun _ => trivial
  · exact related

end

namespace Keeps

variable {R : σ → σ → Prop}

theorem of_exec {work : Work σ α} (kept : Keeps R work) {session later : Session σ}
    {outcome : Except ExportFault α} (ran : work.exec session = (outcome, later)) :
    R session.disk later.disk := by
  have related := (kept session).1
  rwa [ran] at related

theorem attempt {act : σ → Except StorageFault Unit × σ} (h : ∀ disk, R disk (act disk).2) :
    Keeps R (Work.attempt act) := fun session => ⟨h session.disk, fun _ failed => by cases failed⟩

/-- What is done with a file that is found may rely on the file being there. -/
theorem isFile [Storage σ] {path : Path} {found missing : Work σ α}
    (there : ∀ session, Storage.isFile path session.disk = true → KeepsAt R found session)
    (absent : Keeps R missing) :
    Keeps R (Work.isFile path >>= fun held => if held = true then found else missing) := by
  intro session
  unfold KeepsAt
  rw [Work.isFile, exec_look_bind]
  by_cases held : Storage.isFile path session.disk = true
  · rw [if_pos held]
    exact there session held
  · rw [if_neg held]
    exact absent session

variable [IsPreorder σ R]

/-- Steps that succeed and leave all files as they are. -/
theorem of_same {work : Work σ α}
    (h : ∀ session, ∃ a later, work.exec session = (.ok a, later) ∧ later.disk = session.disk) :
    Keeps R work := by
  intro session
  obtain ⟨a, later, ran, same⟩ := h session
  unfold KeepsAt
  rw [ran, same]
  refine ⟨refl _, fun fault failed => ?_⟩
  cases failed

theorem pure (a : α) : Keeps R (Pure.pure a : Work σ α) := of_same fun _ => ⟨a, _, rfl, rfl⟩

theorem throw {fault : ExportFault} (ofFiles : fault.IsOfFiles) :
    Keeps R (MonadExcept.throw fault : Work σ α) := by
  intro session
  refine ⟨refl _, fun other failed => ?_⟩
  cases failed
  exact ofFiles

theorem look (view : σ → α) : Keeps R (Work.look view) := of_same fun _ => ⟨_, _, rfl, rfl⟩

theorem get : Keeps R (MonadState.get : Work σ (Session σ)) := of_same fun _ => ⟨_, _, rfl, rfl⟩

theorem report (diagnostics : Diagnostics) : Keeps R (Work.report diagnostics : Work σ Unit) :=
  of_same fun _ => ⟨(), _, rfl, rfl⟩

theorem warn (code : Code) (message subject : String) :
    Keeps R (Work.warn code message subject : Work σ Unit) := of_same fun _ => ⟨(), _, rfl, rfl⟩

theorem bind {work : Work σ α} {next : α → Work σ β} (first : Keeps R work)
    (later : ∀ a, Keeps R (next a)) : Keeps R (work >>= next) :=
  fun session => .bind (first session) fun a middle _ => later a middle

theorem forM {items : List β} {step : β → Work σ Unit} (h : ∀ item ∈ items, Keeps R (step item)) :
    Keeps R (items.forM step) := by
  induction items with
  | nil => exact pure ()
  | cons item rest ih =>
    rw [forM_cons]
    exact bind (h item (by simp)) fun _ => ih fun other member => h other (by simp [member])

end Keeps

theorem keeps_emptyDir [Storage σ] {R : σ → σ → Prop} [IsPreorder σ R] {path : Path}
    (makes : ∀ disk, R disk (Storage.createDirs path disk).2)
    (clears : ∀ disk, R disk (Storage.clearDir path disk).2) : Keeps R (emptyDir path) := by
  refine .bind (keeps_createDirs makes) fun _ session => ?_
  apply keepsAt_change
  · exact fun _ => trivial
  · exact clears session.disk

/-- A step succeeds from a session, and what it returns and leaves has a property. -/
def Succeeds (work : Work σ α) (session : Session σ) (Q : α → Session σ → Prop) : Prop :=
  ∃ a later, work.exec session = (.ok a, later) ∧ Q a later

namespace Succeeds

variable {session : Session σ} {Q : α → Session σ → Prop} {R : β → Session σ → Prop}

theorem pure {a : α} (h : Q a session) : Succeeds (Pure.pure a) session Q := ⟨a, session, rfl, h⟩

theorem look {view : σ → α} (h : Q (view session.disk) session) :
    Succeeds (Work.look view) session Q := ⟨_, session, rfl, h⟩

theorem get {Q : Session σ → Session σ → Prop} (h : Q session session) :
    Succeeds MonadState.get session Q := ⟨session, session, rfl, h⟩

theorem report {Q : σ → Prop} (h : Q session.disk) (diagnostics : Diagnostics) :
    Succeeds (Work.report diagnostics) session fun _ final => Q final.disk := ⟨(), _, rfl, h⟩

theorem warn {Q : σ → Prop} (h : Q session.disk) (code : Code) (message subject : String) :
    Succeeds (Work.warn code message subject) session fun _ final => Q final.disk :=
  ⟨(), _, rfl, h⟩

theorem bind {work : Work σ α} {next : α → Work σ β} (first : Succeeds work session Q)
    (later : ∀ a middle, Q a middle → Succeeds (next a) middle R) :
    Succeeds (work >>= next) session R := by
  obtain ⟨a, middle, ran, held⟩ := first
  obtain ⟨b, final, rest, reached⟩ := later a middle held
  exact ⟨b, final, (exec_bind_of_ok ran).trans rest, reached⟩

theorem change {Q : σ → Prop} {fault : StorageFault → ExportFault}
    {act : σ → Except StorageFault Unit × σ} {changed : σ}
    (acted : act session.disk = (.ok (), changed)) (h : Q changed) :
    Succeeds (Work.change fault act) session fun _ final => Q final.disk := by
  refine ⟨(), { session with disk := changed }, ?_, h⟩
  rw [exec_change, acted]
  rfl

/-- Steps that each keep an invariant succeed one after the other. -/
theorem forM {items : List β} {step : β → Work σ Unit} {I : σ → Prop} (start : I session.disk)
    (h : ∀ item ∈ items, ∀ middle : Session σ, I middle.disk →
      Succeeds (step item) middle fun _ final => I final.disk) :
    Succeeds (items.forM step) session fun _ final => I final.disk := by
  induction items generalizing session with
  | nil => exact pure start
  | cons item rest ih =>
    rw [forM_cons]
    refine bind (h item (by simp) session start) fun _ middle kept => ?_
    exact ih kept fun other member => h other (by simp [member])

end Succeeds

end Work

end GameBundle
