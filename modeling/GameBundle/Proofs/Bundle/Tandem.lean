import GameBundle.Proofs.Bundle.Work
import Mathlib.Data.List.Forall2

/-!
# Steps in tandem

Two steps start from the same files, with reports that agree but for the places of files
that the project names. In tandem they change the files alike, end alike and report
alike. A step that goes in tandem with itself never looks at what was reported before.
-/

namespace GameBundle

/-- The diagnostic without its subject, where that is a file of the project. -/
def Diagnostic.unplaced (diagnostic : Diagnostic) : Diagnostic :=
  if diagnostic.code = .missingResourceFile ∨ diagnostic.code = .missingSourceFile then
    { diagnostic with subject := none }
  else diagnostic

namespace Diagnostics

/-- The diagnostics without the places of files that the project names. -/
def unplaced (diagnostics : Diagnostics) : Diagnostics :=
  ⟨diagnostics.items.map Diagnostic.unplaced⟩

@[simp] theorem unplaced_append (one other : Diagnostics) :
    (one.append other).unplaced = one.unplaced.append other.unplaced := by
  simp [unplaced, append]

@[simp] theorem unplaced_push (diagnostics : Diagnostics) (diagnostic : Diagnostic) :
    (diagnostics.push diagnostic).unplaced = diagnostics.unplaced.push diagnostic.unplaced := by
  simp [unplaced, push]

@[simp] theorem hasWarnings_unplaced (diagnostics : Diagnostics) :
    diagnostics.unplaced.hasWarnings = diagnostics.hasWarnings := by
  simp [hasWarnings, unplaced, Function.comp_def]

/-- A file of the project may be missing at two places. -/
theorem unplaced_warn {one other : Diagnostics} (same : one.unplaced = other.unplaced) {code : Code}
    (ofProject : code = .missingResourceFile ∨ code = .missingSourceFile) (message here there : String) :
    (one.warn code message here).unplaced = (other.warn code message there).unplaced := by
  unfold warn
  rw [unplaced_push, unplaced_push, same]
  simp [Diagnostic.unplaced, Diagnostic.warning, ofProject]

end Diagnostics

/-- Sessions with the same files, whose reports differ in places of the project only. -/
structure Session.Alongside {σ : Type} (one other : Session σ) : Prop where
  disk : one.disk = other.disk
  reports : one.diagnostics.unplaced = other.diagnostics.unplaced

namespace Work

open Session (Alongside)

variable {σ α β γ δ : Type}

/-- Two ends alongside each other, with related results or with the same fault. -/
inductive Meets (done : α → β → σ → Prop) :
    Except ExportFault α × Session σ → Except ExportFault β × Session σ → Prop where
  | ok {a : α} {b : β} {one other : Session σ} (alongside : Alongside one other)
    (related : done a b one.disk) : Meets done (.ok a, one) (.ok b, other)
  | error (fault : ExportFault) {one other : Session σ} (alongside : Alongside one other) :
    Meets done (.error fault, one) (.error fault, other)

/-- Whatever was reported before, from files of a kind both steps end alongside each other. -/
def Tandem (before : σ → Prop) (done : α → β → σ → Prop) (one : Work σ α) (other : Work σ β) :
    Prop :=
  ∀ session twin, Alongside session twin → before session.disk →
    Meets done (one.exec session) (other.exec twin)

/-- A step in tandem with itself: what it does and returns is decided by the files. -/
abbrev Blind (work : Work σ α) : Prop := Tandem (fun _ => True) (fun a b _ => a = b) work work

namespace Tandem

variable {before middle : σ → Prop} {done : α → β → σ → Prop} {last : γ → δ → σ → Prop}

theorem mono {narrower : σ → Prop} {wider : α → β → σ → Prop} {one : Work σ α} {other : Work σ β}
    (tandem : Tandem before done one other) (starts : ∀ disk, narrower disk → before disk)
    (ends : ∀ a b disk, done a b disk → wider a b disk) : Tandem narrower wider one other := by
  intro session twin alongside held
  have meets := tandem session twin alongside (starts _ held)
  generalize one.exec session = here at meets
  generalize other.exec twin = there at meets
  cases meets with
  | ok alongside related => exact .ok alongside (ends _ _ _ related)
  | error fault alongside => exact .error fault alongside

theorem pure {a : α} {b : β} (related : ∀ disk, before disk → done a b disk) :
    Tandem before done (Pure.pure a) (Pure.pure b) := fun _ _ alongside held =>
  .ok alongside (related _ held)

theorem throw (fault : ExportFault) :
    Tandem before done (MonadExcept.throw fault) (MonadExcept.throw fault) :=
  fun _ _ alongside _ => .error fault alongside

theorem bind {one : Work σ α} {other : Work σ β} {next : α → Work σ γ} {following : β → Work σ δ}
    (first : Tandem before done one other)
    (later : ∀ a b, Tandem (done a b) last (next a) (following b)) :
    Tandem before last (one >>= next) (other >>= following) := by
  intro session twin alongside held
  have meets := first session twin alongside held
  rw [exec_bind, exec_bind]
  generalize one.exec session = here at meets
  generalize other.exec twin = there at meets
  cases meets with
  | ok alongside related => exact later _ _ _ _ alongside related
  | error fault alongside => exact .error fault alongside

/-- Steps that return the same go on with the same. -/
theorem bindSame {one other : Work σ α} {next : α → Work σ γ} {following : α → Work σ δ}
    {reached : α → σ → Prop}
    (first : Tandem before (fun a b disk => a = b ∧ reached a disk) one other)
    (later : ∀ a, Tandem (reached a) last (next a) (following a)) :
    Tandem before last (one >>= next) (other >>= following) := by
  refine bind first fun a b session twin alongside held => ?_
  obtain ⟨rfl, held⟩ := held
  exact later a session twin alongside held

/-- What both steps look at is the same. -/
theorem look {view sight : σ → γ} {next : γ → Work σ α} {following : γ → Work σ β}
    (same : ∀ disk, before disk → view disk = sight disk)
    (later : ∀ x, Tandem before done (next x) (following x)) :
    Tandem before done (Work.look view >>= next) (Work.look sight >>= following) := by
  intro session twin alongside held
  rw [exec_look_bind, exec_look_bind, ← alongside.disk, ← same _ held]
  exact later _ session twin alongside held

theorem report (diagnostics : Diagnostics) :
    Tandem before (fun _ _ => before) (Work.report diagnostics) (Work.report diagnostics) := by
  intro session twin alongside held
  rw [exec_report, exec_report]
  refine .ok ⟨alongside.disk, ?_⟩ held
  rw [Diagnostics.unplaced_append, Diagnostics.unplaced_append, alongside.reports]

theorem warn (code : Code) (message subject : String) :
    Tandem before (fun _ _ => before) (Work.warn code message subject)
      (Work.warn code message subject) := by
  intro session twin alongside held
  rw [exec_warn, exec_warn]
  refine .ok ⟨alongside.disk, ?_⟩ held
  unfold Diagnostics.warn
  rw [Diagnostics.unplaced_push, Diagnostics.unplaced_push, alongside.reports]

theorem warnPlaced {code : Code} (ofProject : code = .missingResourceFile ∨ code = .missingSourceFile)
    (message here there : String) :
    Tandem before (fun _ _ => before) (Work.warn code message here) (Work.warn code message there) := by
  intro session twin alongside held
  rw [exec_warn, exec_warn]
  exact .ok ⟨alongside.disk, Diagnostics.unplaced_warn alongside.reports ofProject message here there⟩
    held

theorem attempt {act deed : σ → Except StorageFault Unit × σ}
    (same : ∀ disk, before disk → act disk = deed disk)
    (keeps : ∀ disk, before disk → middle (act disk).2) :
    Tandem before (fun outcome result disk => outcome = result ∧ middle disk) (Work.attempt act)
      (Work.attempt deed) := by
  intro session twin alongside held
  rw [exec_attempt, exec_attempt, ← alongside.disk, ← same _ held]
  exact .ok ⟨rfl, alongside.reports⟩ ⟨rfl, keeps _ held⟩

theorem change {fault : StorageFault → ExportFault} {act deed : σ → Except StorageFault Unit × σ}
    (same : ∀ disk, before disk → act disk = deed disk)
    (keeps : ∀ disk, before disk → middle (act disk).2) :
    Tandem before (fun _ _ => middle) (Work.change fault act) (Work.change fault deed) := by
  have tried : Tandem before (fun outcome result disk => outcome = result ∧ middle disk)
      (Work.attempt act) (Work.attempt deed) := .attempt same keeps
  refine tried.bindSame fun outcome => ?_
  cases outcome with
  | ok _ => exact pure fun _ => id
  | error cause => exact throw _

/-- Loops over lists that are related entry by entry. -/
theorem forM {related : γ → δ → Prop} {items : List γ} {others : List δ} {step : γ → Work σ Unit}
    {pace : δ → Work σ Unit} (lists : List.Forall₂ related items others)
    (steps : ∀ item other, related item other →
      Tandem before (fun _ _ => before) (step item) (pace other)) :
    Tandem before (fun _ _ => before) (items.forM step) (others.forM pace) := by
  induction lists with
  | nil => exact pure fun _ => id
  | cons first _ ih =>
    rw [forM_cons, forM_cons]
    exact bind (steps _ _ first) fun _ _ => ih

theorem forMSame {items : List γ} {step : γ → Work σ Unit}
    (steps : ∀ item ∈ items, Tandem before (fun _ _ => before) (step item) (step item)) :
    Tandem before (fun _ _ => before) (items.forM step) (items.forM step) := by
  have self : List.Forall₂ (fun item other => item = other ∧ item ∈ items) items items :=
    List.forall₂_same.mpr fun item member => ⟨rfl, member⟩
  refine forM self ?_
  rintro item _ ⟨rfl, member⟩
  exact steps item member

/-- Either both files are found or neither is. -/
theorem isFile [Storage σ] {source twin : Path} {found missing : Work σ α} {seen lost : Work σ β}
    (same : ∀ disk, before disk → Storage.isFile source disk = Storage.isFile twin disk)
    (there : Tandem before done found seen) (absent : Tandem before done missing lost) :
    Tandem before done
      (Work.isFile source >>= fun held => if held = true then found else missing)
      (Work.isFile twin >>= fun held => if held = true then seen else lost) := by
  refine look same fun held => ?_
  cases held with
  | true => exact there
  | false => exact absent

/-- Steps without faults of their own, which always end. -/
theorem lift {steps paces : StateM (Session σ) α} {reached : α → σ → Prop}
    (runs : ∀ session twin, Alongside session twin → before session.disk →
      (steps.run session).1 = (paces.run twin).1 ∧
        Alongside (steps.run session).2 (paces.run twin).2 ∧
        reached (steps.run session).1 (steps.run session).2.disk) :
    Tandem before (fun a b disk => a = b ∧ reached a disk) (liftM steps : Work σ α)
      (liftM paces : Work σ α) := by
  intro session twin alongside held
  obtain ⟨same, later, kept⟩ := runs session twin alongside held
  rw [exec_lift, exec_lift]
  exact .ok later ⟨same, kept⟩

end Tandem

namespace Blind

variable {work : Work σ α}

theorem pure (a : α) : Blind (Pure.pure a : Work σ α) := Tandem.pure fun _ _ => rfl

/-- Steps that go on with what a step returned, whatever is known of the files. -/
theorem andThen {before : σ → Prop} {last : β → γ → σ → Prop} {next : α → Work σ β}
    {following : α → Work σ γ} (first : Blind work)
    (later : ∀ a, Tandem (fun _ => True) last (next a) (following a)) :
    Tandem before last (work >>= next) (work >>= following) := by
  have known : Tandem before (fun a b _ => a = b ∧ True) work work :=
    Tandem.mono first (fun _ _ => trivial) fun _ _ _ same => ⟨same, trivial⟩
  exact known.bindSame later

theorem bind {next : α → Work σ β} (first : Blind work) (later : ∀ a, Blind (next a)) :
    Blind (work >>= next) :=
  first.andThen later

theorem look {view : σ → β} {next : β → Work σ α} (later : ∀ x, Blind (next x)) :
    Blind (Work.look view >>= next) :=
  Tandem.look (fun _ _ => rfl) later

theorem report (diagnostics : Diagnostics) : Blind (Work.report diagnostics : Work σ Unit) :=
  (Tandem.report diagnostics).mono (fun _ => id) fun _ _ _ _ => rfl

theorem warn (code : Code) (message subject : String) :
    Blind (Work.warn code message subject : Work σ Unit) :=
  (Tandem.warn code message subject).mono (fun _ => id) fun _ _ _ _ => rfl

theorem change (fault : StorageFault → ExportFault) (act : σ → Except StorageFault Unit × σ) :
    Blind (Work.change fault act) := by
  have changed : Tandem (fun _ => True) (fun _ _ _ => True) (Work.change fault act)
      (Work.change fault act) := .change (fun _ _ => rfl) fun _ _ => trivial
  exact changed.mono (fun _ => id) fun _ _ _ _ => rfl

theorem forM {items : List β} {step : β → Work σ Unit} (steps : ∀ item, Blind (step item)) :
    Blind (items.forM step) :=
  (Tandem.forMSame fun item _ => (steps item).mono (fun _ => id) fun _ _ _ _ => trivial).mono
    (fun _ => id) fun _ _ _ _ => rfl

variable [Storage σ] {path : Path}

theorem isFile {found missing : Work σ α} (there : Blind found) (absent : Blind missing) :
    Blind (Work.isFile path >>= fun held => if held = true then found else missing) :=
  Tandem.isFile (fun _ _ => rfl) there absent

theorem template : Blind (Work.template path : Work σ String) := by
  refine look fun outcome => ?_
  cases outcome with
  | ok text => exact pure text
  | error cause => exact Tandem.throw _

end Blind

end Work

end GameBundle
