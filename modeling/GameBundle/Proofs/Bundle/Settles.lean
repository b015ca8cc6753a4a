import GameBundle.Proofs.Bundle.Work
import GameBundle.Proofs.Storage.Outline

/-!
# Steps that fill a directory

A step that carries out orders succeeds exactly when no file gets into the way of what is
ordered, and then the directory is filled as ordered. What files hold does not matter, nor
does what was reported.
-/

namespace GameBundle.Work

open Memory (Stands locate)
open Outline (Order Within)

variable {α β : Type} {start : Memory} {root : Place} {before middle after : Outline}

/-- A step leaves the directory filled as `after` says, or fails because that is not free. -/
def Settles (start : Memory) (root : Place) (before after : Outline) (work : Work Memory α) : Prop :=
  ∀ session, Stands start root before session.disk →
    match work.exec session with
    | (.ok _, later) => Stands start root after later.disk
    | (.error _, _) => ¬after.Free

namespace Settles

/-- A step settles whatever it returns; it succeeds exactly when its outline is free. -/
theorem isOk_iff {work : Work Memory α} (settles : Settles start root before after work)
    {session : Session Memory} (stands : Stands start root before session.disk) :
    (∃ a, (work.exec session).1 = .ok a) ↔ after.Free := by
  have outcome := settles session stands
  rcases ran : work.exec session with ⟨_ | a, later⟩
  · rw [ran] at outcome
    exact iff_of_false nofun outcome
  · rw [ran] at outcome
    exact iff_of_true ⟨a, rfl⟩ outcome.free

theorem succeeds {work : Work Memory α} (settles : Settles start root before after work)
    {disk : Memory} (stands : Stands start root before disk) (free : after.Free)
    (diagnostics : Diagnostics) : ∃ a later, work.exec ⟨disk, diagnostics⟩ = (.ok a, later) ∧
      Stands start root after later.disk := by
  have outcome := settles ⟨disk, diagnostics⟩ stands
  rcases ran : work.exec ⟨disk, diagnostics⟩ with ⟨_ | a, later⟩
  · rw [ran] at outcome
    exact absurd free outcome
  · rw [ran] at outcome
    exact ⟨a, later, rfl, outcome⟩

/-- Steps that succeed and leave all files as they are. -/
theorem of_same {work : Work Memory α}
    (h : ∀ session, Stands start root before session.disk →
      ∃ a later, work.exec session = (.ok a, later) ∧ later.disk = session.disk) :
    Settles start root before before work := by
  intro session stands
  obtain ⟨a, later, ran, same⟩ := h session stands
  rw [← same] at stands
  rw [ran]
  exact stands

theorem pure (a : α) : Settles start root before before (Pure.pure a : Work Memory α) :=
  of_same fun _ _ => ⟨a, _, rfl, rfl⟩

theorem look (view : Memory → α) : Settles start root before before (Work.look view) :=
  of_same fun _ _ => ⟨_, _, rfl, rfl⟩

theorem get : Settles start root before before (MonadState.get : Work Memory (Session Memory)) :=
  of_same fun _ _ => ⟨_, _, rfl, rfl⟩

theorem report (diagnostics : Diagnostics) :
    Settles start root before before (Work.report diagnostics : Work Memory Unit) :=
  of_same fun _ _ => ⟨(), _, rfl, rfl⟩

theorem warn (code : Code) (message subject : String) :
    Settles start root before before (Work.warn code message subject : Work Memory Unit) :=
  of_same fun _ _ => ⟨(), _, rfl, rfl⟩

/-- What is in the way of the first step stays in the way of both. -/
theorem bind {work : Work Memory α} {next : α → Work Memory β}
    (first : Settles start root before middle work) (grows : Within middle after)
    (later : ∀ a, Settles start root middle after (next a)) :
    Settles start root before after (work >>= next) := by
  intro session stands
  have outcome := first session stands
  rw [exec_bind]
  rcases ran : work.exec session with ⟨_ | a, between⟩
  · rw [ran] at outcome
    exact fun free => outcome (grows.free free)
  · rw [ran] at outcome
    exact later a between outcome

section

variable {work : Work Memory α} {next : α → Work Memory β} {order : Order} {orders rest : List Order}

/-- A step that leaves the outline alone and those that follow. -/
theorem skip (first : Settles start root before before work)
    (later : ∀ a, Settles start root before (before.afterAll start.tree.isFile orders) (next a)) :
    Settles start root before (before.afterAll start.tree.isFile orders) (work >>= next) :=
  first.bind (Outline.within_afterAll _ _ _) later

/-- A step that carries out one order and those that follow. -/
theorem cons (first : Settles start root before (before.after start.tree.isFile order) work)
    (later : ∀ a, Settles start root (before.after start.tree.isFile order)
      ((before.after start.tree.isFile order).afterAll start.tree.isFile rest) (next a)) :
    Settles start root before (before.afterAll start.tree.isFile (order :: rest)) (work >>= next) :=
  first.bind (Outline.within_afterAll _ _ _) later

/-- Steps that carry out some orders and those that follow. -/
theorem append (first : Settles start root before (before.afterAll start.tree.isFile orders) work)
    (later : ∀ a, Settles start root (before.afterAll start.tree.isFile orders)
      ((before.afterAll start.tree.isFile orders).afterAll start.tree.isFile rest) (next a)) :
    Settles start root before (before.afterAll start.tree.isFile (orders ++ rest))
      (work >>= next) := by
  rw [Outline.afterAll_append]
  exact first.bind (Outline.within_afterAll _ _ _) later

end

/-- The last step of a chain leaves the outline alone. -/
theorem thenSame {work : Work Memory α} {next : α → Work Memory β}
    (first : Settles start root before after work)
    (later : ∀ a, Settles start root after after (next a)) :
    Settles start root before after (work >>= next) := first.bind (.refl after) later

theorem forM {items : List β} {step : β → Work Memory Unit} (order : β → Order)
    (h : ∀ item ∈ items, ∀ outline, Within before outline →
      Settles start root outline (outline.after start.tree.isFile (order item)) (step item)) :
    Settles start root before (before.afterAll start.tree.isFile (items.map order))
      (items.forM step) := by
  induction items generalizing before with
  | nil => exact pure ()
  | cons item rest ih =>
    rw [forM_cons]
    refine (h item (by simp) before (.refl before)).bind (Outline.within_afterAll _ _ _) fun _ => ?_
    exact ih fun other member outline larger =>
      h other (by simp [member]) outline ((Outline.within_after _ _ _).trans larger)

end Settles

/-- An operation settles when it succeeds exactly if what is ordered is free. -/
theorem settles_change {fault : StorageFault → ExportFault}
    {act : Memory → Except StorageFault Unit × Memory}
    (done : ∀ disk, Stands start root before disk → after.Free →
      ∃ changed, act disk = (.ok (), changed) ∧ Stands start root after changed)
    (free : ∀ disk changed, Stands start root before disk → act disk = (.ok (), changed) →
      after.Free) :
    Settles start root before after (change fault act) := by
  intro session stands
  rw [exec_change]
  by_cases room : after.Free
  · obtain ⟨changed, acted, filled⟩ := done session.disk stands room
    rw [acted]
    exact filled
  · rcases acted : act session.disk with ⟨_ | _, changed⟩
    · exact room
    · exact absurd (free _ _ stands acted) room

variable {path source target : Path}

theorem place_eq {disk : Memory} (stands : Stands start root before disk) (path : Path) :
    disk.place path = locate start.home path := by
  rw [Memory.place, stands.home]

theorem settles_createDirs (inside : root <+: locate start.home path) :
    Settles start root before (before.make (locate start.home path)) (createDirs path) := by
  refine settles_change (fun disk stands room => ?_) fun disk changed stands made => ?_
  · refine ⟨_, ?_, stands.make inside room⟩
    rw [← place_eq stands path] at inside room ⊢
    exact Memory.createDirs_of_clear (stands.isDenied _ _) ((stands.make_free_iff inside).mpr room)
  · have clear := Memory.clear_of_createDirs made
    rw [place_eq stands path] at clear
    exact (stands.make_free_iff inside).mp clear

theorem settles_write (inside : root <+: locate start.home path) (text : String) :
    Settles start root before (before.put (locate start.home path)) (write path text) := by
  refine settles_change (fun disk stands room => ?_) fun disk changed stands written => ?_
  · have fits : disk.Fits .write (locate start.home path) := (stands.fits_iff inside).mpr room
    refine ⟨_, ?_, stands.put inside fits text.toUTF8⟩
    rw [← place_eq stands path] at fits ⊢
    exact Memory.write_of_fits fits text
  · have fits := Memory.fits_of_write written
    rw [place_eq stands path] at fits
    exact (stands.fits_iff inside).mp fits

theorem settles_copy (inside : root <+: locate start.home target)
    (there : start.tree.isFile (locate start.home source) = true ∨
      locate start.home source ∈ before.files) :
    Settles start root before (before.put (locate start.home target)) (copy source target) := by
  refine settles_change (fun disk stands room => ?_) fun disk changed stands copied => ?_
  · have fits : disk.Fits .copy (locate start.home target) := (stands.fits_iff inside).mpr room
    obtain ⟨bytes, held⟩ := Tree.isFile_iff.mp ((stands.files _).mpr there)
    refine ⟨_, ?_, stands.put inside fits bytes⟩
    rw [← place_eq stands] at fits held ⊢
    exact Memory.copy_of_fits fits held
  · have fits := Memory.fits_of_copy copied
    rw [place_eq stands] at fits
    exact (stands.fits_iff inside).mp fits

theorem isFile_eq {disk : Memory} (stands : Stands start root before disk) (path : Path) :
    Storage.isFile path disk = true ↔
      start.tree.isFile (locate start.home path) = true ∨ locate start.home path ∈ before.files := by
  rw [← stands.files, ← place_eq stands path]
  rfl

/-- A file is copied if it is there, and what is done otherwise leaves files alone. -/
theorem settles_found {found missing : Work Memory α} {spot : Place}
    (copies : start.tree.isFile (locate start.home source) = true ∨
      locate start.home source ∈ before.files → Settles start root before (before.put spot) found)
    (absent : Settles start root before before missing) :
    Settles start root before
      (before.after start.tree.isFile (.take (locate start.home source) spot))
      (isFile source >>= fun there => if there = true then found else missing) := by
  intro session stands
  rw [isFile, exec_look_bind, Outline.after]
  by_cases there : Storage.isFile source session.disk = true
  · have listed := (isFile_eq stands source).mp there
    rw [if_pos there, if_pos listed]
    exact copies listed session stands
  · rw [if_neg there, if_neg fun listed => there ((isFile_eq stands source).mpr listed)]
    exact absent session stands

theorem isFile_of_readText {text : String} (allowed : start.denied = [])
    (readable : start.readText path = .ok text) :
    start.tree.isFile (locate start.home path) = true := by
  obtain ⟨bytes, held, -⟩ := (Memory.readText_eq_ok allowed).mp readable
  rw [Tree.isFile_eq_isSome]
  exact Option.isSome_of_eq_some held

theorem settles_template {text : String} (allowed : start.denied = [])
    (readable : start.readText path = .ok text) : Settles start root before before (template path) := by
  refine .of_same fun session stands => ⟨text, session, ?_, rfl⟩
  obtain ⟨bytes, held, decoded⟩ := (Memory.readText_eq_ok allowed).mp readable
  have there := isFile_of_readText allowed readable
  have read : Storage.readText path session.disk = .ok text := by
    refine (Memory.readText_eq_ok stands.allowed).mpr ⟨bytes, ?_, decoded⟩
    rw [place_eq stands, stands.bytes _ there]
    exact held
  rw [template, exec_look_bind, read, exec_pure]

theorem settles_clearDir {dirs : List Place} (inside : root <+: locate start.home path)
    (member : locate start.home path ∈ dirs) (bottom : ∀ dir ∈ dirs, dir <+: locate start.home path) :
    Settles start root ⟨dirs, []⟩ ⟨dirs, []⟩
      (change (.directory path) (Storage.clearDir path) : Work Memory Unit) := by
  refine settles_change (fun disk stands _ => ?_) fun _ _ stands _ => stands.free
  refine ⟨_, ?_, stands.clear inside bottom⟩
  have directory : disk.tree.isDirectory (locate start.home path) = true :=
    (stands.dirs _ inside).mpr (.inl ⟨_, member, List.prefix_rfl⟩)
  rw [← place_eq stands] at directory ⊢
  exact Memory.clearDir_of_isDirectory (stands.isDenied _ _) directory

/-- A copy that may fail is made when it fits. Otherwise nothing changes, as long as the
directory that it goes into is there. -/
theorem stands_offer {disk : Memory} (source : Path) (stands : Stands start root before disk)
    (high : root <+: (locate start.home target).dropLast)
    (ready : before.IsDir (locate start.home target).dropLast) :
    Stands start root (before.after start.tree.isFile
      (.offer (locate start.home source) (locate start.home target)))
        (Storage.copy source target disk).2 := by
  have there := isFile_eq stands source
  have inside : root <+: locate start.home target := high.trans (List.dropLast_prefix _)
  rcases done : disk.copy source target with ⟨fault | _, changed⟩
  · have unmade : ¬((start.tree.isFile (locate start.home source) = true ∨
        locate start.home source ∈ before.files) ∧
          (before.put (locate start.home target)).Free) := by
      rintro ⟨listed, room⟩
      have fits : disk.Fits .copy (locate start.home target) := (stands.fits_iff inside).mpr room
      obtain ⟨bytes, held⟩ := Tree.isFile_iff.mp (there.mpr listed)
      rw [← place_eq stands] at fits
      rw [Memory.copy_of_fits fits held] at done
      cases done
    rw [Outline.after, if_neg unmade, show Storage.copy source target disk = _ from done]
    rcases Memory.copy_eq_error done with same | made
    · rw [same]
      exact stands
    · have free : (before.make (locate start.home target).dropLast).Free := by
        intro file member needed
        refine stands.free file member ?_
        exact (Outline.isDir_make.mp needed).elim (fun above => ready.mono above) id
      rw [made, place_eq stands]
      exact (stands.make high free).of_make stands.rooted ready
  · have listed := there.mp (Memory.isFile_of_copy done)
    have fits := Memory.fits_of_copy done
    obtain ⟨bytes, held⟩ := Tree.isFile_iff.mp (Memory.isFile_of_copy done)
    obtain ⟨-, put⟩ := Memory.copy_eq_ok done held
    rw [place_eq stands] at fits put
    rw [Outline.after, if_pos ⟨listed, (stands.fits_iff inside).mp fits⟩,
      show Storage.copy source target disk = _ from done, put]
    exact stands.put inside fits bytes

end GameBundle.Work
