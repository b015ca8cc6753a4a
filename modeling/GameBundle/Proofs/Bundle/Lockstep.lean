import GameBundle.Proofs.Bundle.Work
import GameBundle.Proofs.Storage.Agreement

/-!
# Steps in lockstep

The same step is run in two sessions whose files are related. In lockstep both runs end
with the same outcome and the same reports, which only grow, and the files are related
again. Run twice in one session, a step that can be run in lockstep shows that no report
is ever taken back.
-/

namespace GameBundle

/-- A property of the files that is there afterwards if it was there before. -/
def Inherits {σ : Type} (P : σ → Prop) (before after : σ) : Prop := P before → P after

instance {σ : Type} (P : σ → Prop) : IsPreorder σ (Inherits P) where
  refl _ held := held
  trans _ _ _ first second held := second (first held)

/-- Two sessions with the same reports, which begin with `start`, and related files. -/
structure Session.Abreast {σ : Type} (R : σ → σ → Prop) (start : Diagnostics)
    (one other : Session σ) : Prop where
  reports : one.diagnostics = other.diagnostics
  grown : start.items <+: one.diagnostics.items
  files : R one.disk other.disk

theorem Session.Abreast.mono {σ : Type} {R S : σ → σ → Prop} {start : Diagnostics}
    {one other : Session σ} (abreast : Abreast R start one other) (wider : ∀ x y, R x y → S x y) :
    Abreast S start one other :=
  ⟨abreast.reports, abreast.grown, wider _ _ abreast.files⟩

namespace Work

open Session (Abreast)

variable {σ α β : Type}

/-- From related files both runs of a step end alike, with the same reports. -/
def Lockstep (before : σ → σ → Prop) (done : α → σ → σ → Prop) (failed : σ → σ → Prop)
    (work : Work σ α) : Prop :=
  ∀ start one other, Abreast before start one other →
    Alike (fun a => Abreast (done a) start) (Abreast failed start) (work.exec one)
      (work.exec other)

/-- A step in lockstep that keeps a relation, however it ends. -/
abbrev Steady (R : σ → σ → Prop) (work : Work σ α) : Prop := Lockstep R (fun _ => R) R work

namespace Lockstep

variable {before middle R : σ → σ → Prop} {done : α → σ → σ → Prop} {last : β → σ → σ → Prop}
  {failed : σ → σ → Prop} {work : Work σ α}

theorem mono {narrower weaker : σ → σ → Prop} {wider : α → σ → σ → Prop}
    (lockstep : Lockstep before done failed work) (starts : ∀ x y, narrower x y → before x y)
    (ends : ∀ a x y, done a x y → wider a x y) (fails : ∀ x y, failed x y → weaker x y) :
    Lockstep narrower wider weaker work := fun start _ _ abreast =>
  (lockstep start _ _ (abreast.mono starts)).mono (fun a _ _ held => held.mono (ends a))
    fun _ _ held => held.mono fails

theorem narrow {narrower : σ → σ → Prop} (lockstep : Lockstep before done failed work)
    (starts : ∀ x y, narrower x y → before x y) : Lockstep narrower done failed work :=
  lockstep.mono starts (fun _ _ _ => id) fun _ _ => id

/-- Reports are never taken back. -/
theorem grows (lockstep : Lockstep before done failed work) {session later : Session σ}
    {outcome : Except ExportFault α} (ran : work.exec session = (outcome, later))
    (self : before session.disk session.disk) :
    session.diagnostics.items <+: later.diagnostics.items := by
  have alike := lockstep session.diagnostics session session ⟨rfl, List.prefix_rfl, self⟩
  rw [ran] at alike
  cases alike with
  | ok _ held => exact held.grown
  | error _ held => exact held.grown

theorem pure (a : α) : Steady R (Pure.pure a : Work σ α) := fun _ _ _ abreast => .ok a abreast

theorem throw (fault : ExportFault) : Steady R (MonadExcept.throw fault : Work σ α) :=
  fun _ _ _ abreast => .error fault abreast

/-- What is looked at decides in both sessions on the same step to follow. -/
theorem look {view : σ → β} {next : β → Work σ α}
    (same : ∀ x y, before x y → next (view x) = next (view y))
    (later : ∀ x, Lockstep (fun y z => before y z ∧ view y = x) done failed (next x)) :
    Lockstep before done failed (Work.look view >>= next) := by
  intro start one other abreast
  rw [exec_bind, exec_bind, exec_look, exec_look]
  dsimp only
  rw [← same _ _ abreast.files]
  exact later _ start one other ⟨abreast.reports, abreast.grown, abreast.files, rfl⟩

theorem report (diagnostics : Diagnostics) :
    Steady R (Work.report diagnostics : Work σ Unit) := by
  intro start one other abreast
  rw [exec_report, exec_report]
  refine .ok () ⟨?_, abreast.grown.trans (List.prefix_append _ _), abreast.files⟩
  rw [abreast.reports]

theorem warn (code : Code) (message subject : String) :
    Steady R (Work.warn code message subject : Work σ Unit) := by
  intro start one other abreast
  rw [exec_warn, exec_warn]
  refine .ok () ⟨?_, abreast.grown.trans (List.prefix_append _ _), abreast.files⟩
  rw [abreast.reports]

/-- Of a session only the reports are the same in both. -/
theorem get {view : Session σ → α}
    (same : ∀ one other : Session σ, one.diagnostics = other.diagnostics → view one = view other) :
    Steady R (MonadState.get >>= fun session => Pure.pure (view session)) := by
  intro start one other abreast
  rw [exec_bind, exec_bind, exec_get, exec_get]
  dsimp only
  rw [same one other abreast.reports]
  exact .ok _ abreast

theorem attempt {act : σ → Except StorageFault Unit × σ}
    (acts : ∀ x y, before x y → Alike (fun _ => R) R (act x) (act y)) :
    Lockstep before (fun _ => R) failed (Work.attempt act) := by
  intro start one other abreast
  have alike := acts _ _ abreast.files
  rw [exec_attempt, exec_attempt, alike.outcome]
  exact .ok _ ⟨abreast.reports, abreast.grown, alike.related⟩

theorem change {fault : StorageFault → ExportFault} {act : σ → Except StorageFault Unit × σ}
    (acts : ∀ x y, before x y → Alike (fun _ => R) failed (act x) (act y)) :
    Lockstep before (fun _ => R) failed (Work.change fault act) := by
  intro start one other abreast
  have alike := acts _ _ abreast.files
  rw [exec_change, exec_change]
  generalize act one.disk = here at alike
  generalize act other.disk = there at alike
  cases alike with
  | ok done related => exact .ok done ⟨abreast.reports, abreast.grown, related⟩
  | error cause related => exact .error _ ⟨abreast.reports, abreast.grown, related⟩

/-- What follows a step in lockstep may rely on what the step returned. -/
theorem bindAt {next : α → Work σ β} {start : Diagnostics} {one other : Session σ}
    (first : Alike (fun a => Abreast (done a) start) (Abreast failed start) (work.exec one)
      (work.exec other))
    (later : ∀ a middle, work.exec one = (.ok a, middle) →
      Lockstep (done a) last failed (next a)) :
    Alike (fun b => Abreast (last b) start) (Abreast failed start) ((work >>= next).exec one)
      ((work >>= next).exec other) := by
  rw [exec_bind, exec_bind]
  generalize work.exec one = here at first later
  generalize work.exec other = there at first
  cases first with
  | ok a held => exact later a _ rfl start _ _ held
  | error fault held => exact .error fault held

theorem bind {next : α → Work σ β} (first : Lockstep before done failed work)
    (later : ∀ a, Lockstep (done a) last failed (next a)) :
    Lockstep before last failed (work >>= next) := fun start one other abreast =>
  bindAt (first start one other abreast) fun a _ _ => later a

theorem forM {items : List β} {step : β → Work σ Unit} (steps : ∀ item ∈ items, Steady R (step item)) :
    Steady R (items.forM step) := by
  induction items with
  | nil => exact pure ()
  | cons item rest ih =>
    rw [forM_cons]
    exact bind (steps item (by simp)) fun _ => ih fun other member => steps other (by simp [member])

/-- A file is looked for at a place where both sessions find one or neither does. -/
theorem isFile [Storage σ] {path : Path} {found missing : Work σ α}
    (same : ∀ x y, before x y → Storage.isFile path x = Storage.isFile path y)
    (there : Lockstep (fun x y => before x y ∧ Storage.isFile path x = true) done failed found)
    (absent : Lockstep before done failed missing) :
    Lockstep before done failed
      (Work.isFile path >>= fun held => if held = true then found else missing) := by
  refine look (fun x y related => by rw [same x y related]) fun held => ?_
  cases held with
  | true => exact there
  | false => exact absent.narrow fun _ _ known => known.1

/-- Steps without faults of their own, which always end. -/
theorem lift {steps : StateM (Session σ) α}
    (runs : ∀ start one other, Abreast R start one other →
      (steps.run one).1 = (steps.run other).1 ∧
        Abreast R start (steps.run one).2 (steps.run other).2) :
    Steady R (liftM steps : Work σ α) := by
  intro start one other abreast
  obtain ⟨same, later⟩ := runs start one other abreast
  rw [exec_lift, exec_lift, same]
  exact .ok _ later

theorem reaching {known reached : σ → Prop} (lockstep : Lockstep before done failed work)
    (both : ∀ x y, before x y → known x ∧ known y)
    (reach : ∀ (session : Session σ) (a : α) (later : Session σ), known session.disk →
      work.exec session = (.ok a, later) → reached later.disk) :
    Lockstep before (fun a x y => done a x y ∧ reached x ∧ reached y) failed work := by
  intro start one other abreast
  obtain ⟨here, there⟩ := both _ _ abreast.files
  have alike := lockstep start one other abreast
  have left := reach one
  have right := reach other
  generalize work.exec one = x at alike left
  generalize work.exec other = y at alike right
  cases alike with
  | ok a held =>
    exact .ok a ⟨held.reports, held.grown, held.files, left a _ here rfl, right a _ there rfl⟩
  | error fault held => exact .error fault held

end Lockstep

end Work

end GameBundle
