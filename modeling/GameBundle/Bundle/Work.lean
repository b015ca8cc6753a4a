import GameBundle.Bundle.ExportFault
import GameBundle.Diagnostic

/-!
# Steps of an export

A step of an export may change files, record diagnostics and end with a fault. What
was changed and recorded before a fault is kept.
-/

namespace GameBundle

/-- The files an export works on and what it has reported so far. -/
structure Session (σ : Type) where
  disk : σ
  diagnostics : Diagnostics

abbrev Work (σ α : Type) := ExceptT ExportFault (StateM (Session σ)) α

namespace Work

variable {σ α : Type}

/-- Runs a step in a session; returns its outcome and the session after it. -/
def exec (work : Work σ α) (session : Session σ) : Except ExportFault α × Session σ :=
  work.run.run session

/-- What the files are like at this moment. -/
def look (view : σ → α) : Work σ α := return view (← get).disk

def report (diagnostics : Diagnostics) : Work σ Unit :=
  modify fun session => { session with diagnostics := session.diagnostics.append diagnostics }

def warn (code : Code) (message subject : String) : Work σ Unit :=
  modify fun session =>
    { session with diagnostics := session.diagnostics.warn code message subject }

/-- Carries out an operation on files and returns its outcome. -/
def attempt (act : σ → Except StorageFault Unit × σ) : Work σ (Except StorageFault Unit) :=
  modifyGet fun session =>
    let (outcome, disk) := act session.disk
    (outcome, { session with disk })

/-- Carries out an operation on files; its failure ends the export. -/
def change (fault : StorageFault → ExportFault) (act : σ → Except StorageFault Unit × σ) :
    Work σ Unit := do
  match ← attempt act with
  | .ok () => return ()
  | .error cause => throw (fault cause)

variable [Storage σ]

def isFile (path : Path) : Work σ Bool := look (Storage.isFile path)

def createDirs (path : Path) : Work σ Unit := change (.directory path) (Storage.createDirs path)

/-- Makes sure that a directory exists and is empty. -/
def emptyDir (path : Path) : Work σ Unit := do
  createDirs path
  change (.directory path) (Storage.clearDir path)

def write (path : Path) (text : String) : Work σ Unit :=
  change (.write path) (Storage.write path text)

def copy (source target : Path) : Work σ Unit :=
  change (.write target) (Storage.copy source target)

def template (path : Path) : Work σ String := do
  match ← look (Storage.readText path) with
  | .ok text => return text
  | .error cause => throw (.template path cause)

end Work

/-- Runs a step from nothing reported; returns its outcome, the diagnostics and the files. -/
def Work.start {σ α : Type} (work : Work σ α) (disk : σ) :
    Except ExportFault α × Session σ :=
  work.exec ⟨disk, .empty⟩

end GameBundle
