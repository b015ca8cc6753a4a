import GameBundle.Proofs.Bundle.ExportedName
import GameBundle.Proofs.Bundle.Work

/-!
# Exporting resources one by one

Names depend on the resources alone and not on the files, so what is exported first can
be cut off: the export of a list is that of its front and then that of its back, with
the names that the front has taken.
-/

namespace GameBundle.ResourceExport

variable {σ : Type} [Storage σ] (home destination : Path)

theorem run_exportFrom_cons (taken : Taken) (resource : Resource) (rest : List Resource)
    (session : Session σ) :
    (exportFrom home destination taken (resource :: rest)).run session =
      if resource.file = "" then
        let (done, final) := (exportFrom home destination taken rest).run session
        (done.after resource, final)
      else
        let source := home / resource.file
        let name := exportedName taken source
        match (exportFile resource.name source (destination / name)).exec session with
        | (.error fault, later) => (⟨resource :: rest, some fault⟩, later)
        | (.ok (), later) =>
          let (done, final) :=
            (exportFrom home destination (takeName taken source name) rest).run later
          (done.after { resource with file := name }, final) := by
  rw [exportFrom]
  split
  · rfl
  · rw [StateT.run_bind]
    rcases ran : (exportFile resource.name (home / resource.file) (destination /
      exportedName taken (home / resource.file))).exec session with ⟨outcome, later⟩
    have inner := ran
    unfold Work.exec at inner
    rw [inner]
    simp only [ran]
    cases outcome <;> rfl

/-- The names in use once resources have been exported. -/
def takenAfter (home : Path) (taken : Taken) : List Resource → Taken
  | [] => taken
  | resource :: rest =>
    if resource.file = "" then takenAfter home taken rest
    else
      let source := home / resource.file
      takenAfter home (takeName taken source (exportedName taken source)) rest

def followedBy (front rest : ResourceExport) : ResourceExport :=
  ⟨front.resources ++ rest.resources, rest.fault?⟩

theorem run_exportFrom_append (taken : Taken) (front back : List Resource) (session : Session σ) :
    (exportFrom home destination taken (front ++ back)).run session =
      match (exportFrom home destination taken front).run session with
      | (done, later) =>
        match done.fault? with
        | some fault => (done.followedBy ⟨back, some fault⟩, later)
        | none =>
          match (exportFrom home destination (takenAfter home taken front) back).run later with
          | (rest, final) => (done.followedBy rest, final) := by
  induction front generalizing taken session with
  | nil => rfl
  | cons resource front ih =>
    rw [List.cons_append, run_exportFrom_cons, run_exportFrom_cons, takenAfter]
    by_cases blank : resource.file = ""
    · simp only [blank, if_true, ih]
      rcases (exportFrom home destination taken front).run session with ⟨done, later⟩
      cases fault : done.fault? with
      | some cause => simp [after, followedBy, fault]
      | none =>
        simp only [after, fault]
        rfl
    · simp only [blank, if_false]
      rcases (exportFile resource.name (home / resource.file) (destination /
        exportedName taken (home / resource.file))).exec session with ⟨outcome, middle⟩
      cases outcome with
      | error fault => rfl
      | ok done =>
        simp only [ih]
        rcases (exportFrom home destination (takeName taken (home / resource.file)
          (exportedName taken (home / resource.file))) front).run middle with ⟨done, later⟩
        cases fault : done.fault? with
        | some cause => simp [after, followedBy, fault]
        | none =>
          simp only [after, fault]
          rfl

theorem length_exportFrom (taken : Taken) (resources : List Resource) (session : Session σ) :
    ((exportFrom home destination taken resources).run session).1.resources.length =
      resources.length := by
  induction resources generalizing taken session with
  | nil => rfl
  | cons resource rest ih =>
    rw [run_exportFrom_cons]
    split
    · exact congrArg (· + 1) (ih taken session)
    · dsimp only
      split
      · rfl
      · exact congrArg (· + 1) (ih _ _)

theorem exportFrom_split {taken names : Taken} {front back : List Resource} {resource : Resource}
    {session final : Session σ} {done : ResourceExport} {name : String}
    (ran : (exportFrom home destination taken (front ++ resource :: back)).run session =
      (done, final))
    (whole : done.fault? = none) (named : resource.file ≠ "")
    (used : takenAfter home taken front = names)
    (found : exportedName names (home / resource.file) = name) :
    ∃ ahead middle later rest,
      (exportFrom home destination taken front).run session = (ahead, middle) ∧
      ahead.fault? = none ∧
      (exportFile resource.name (home / resource.file) (destination / name)).exec middle =
        (.ok (), later) ∧
      (exportFrom home destination (takeName names (home / resource.file) name) back).run later =
        (rest, final) ∧
      rest.fault? = none ∧
      done.resources = ahead.resources ++ { resource with file := name } :: rest.resources := by
  rw [run_exportFrom_append] at ran
  rcases begun : (exportFrom home destination taken front).run session with ⟨ahead, middle⟩
  rw [begun] at ran
  cases fault : ahead.fault? with
  | some cause =>
    simp only [fault] at ran
    cases ran
    cases whole
  | none =>
    simp only [fault, used, run_exportFrom_cons, if_neg named, found] at ran
    rcases copied : (exportFile resource.name (home / resource.file) (destination / name)).exec
      middle with ⟨outcome, later⟩
    cases outcome with
    | error cause =>
      simp only [copied] at ran
      cases ran
      cases whole
    | ok copy =>
      rcases ended : (exportFrom home destination (takeName names (home / resource.file) name)
        back).run later with ⟨rest, closing⟩
      simp only [copied, ended] at ran
      cases ran
      exact ⟨ahead, middle, later, rest, rfl, fault, copied, ended, whole, rfl⟩

end GameBundle.ResourceExport
