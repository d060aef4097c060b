import TaskCoordination.Proofs.Catalog.Signatures
import TaskCoordination.Proofs.Directory.Step

/-!
# Runs of actions on a directory

Whatever is done to a directory, its catalog only answers requests, so that what requests keep of a catalog is kept
(`catalog_run`): it grows and stays indexed.
-/

namespace TaskCoordination

namespace Directory

variable {d d' : Directory}

def run (d : Directory) (as : List DirectoryAction) : Directory :=
  as.foldl act d

theorem run_append (d : Directory) (as later : List DirectoryAction) : d.run (as ++ later) = (d.run as).run later :=
  List.foldl_append

/-- What requests keep of a catalog is kept in every run. -/
theorem catalog_run {P : Catalog → Prop} (hP : ∀ c q, P c → P (Catalog.ask c q).1) (h : P d.catalog)
    (as : List DirectoryAction) : P (d.run as).catalog := by
  induction as generalizing d with
  | nil => exact h
  | cons a as ih => exact ih ((d.step_act a).catalog_induction (fun q => hP d.catalog q h) h)

theorem Step.isIndexed {a : DirectoryAction} (hi : d.catalog.IsIndexed) (hs : Step d a d') : d'.catalog.IsIndexed :=
  hs.catalog_induction (fun q => (Catalog.step_ask d.catalog q).isIndexed hi) hi

theorem extends_run (d : Directory) (as : List DirectoryAction) : d.catalog.Extends (d.run as).catalog :=
  catalog_run (fun c q h => h.trans (Catalog.step_ask c q).extends) (.refl d.catalog) as

theorem isIndexed_run (hi : d.catalog.IsIndexed) (as : List DirectoryAction) : (d.run as).catalog.IsIndexed :=
  catalog_run (fun c q h => (Catalog.step_ask c q).isIndexed h) hi as

theorem announces_run (d : Directory) (as : List DirectoryAction) : (d.run as).announces = d.announces := by
  induction as generalizing d with
  | nil => rfl
  | cons a as ih => exact (ih (d.act a)).trans (d.announces_act a)

end Directory

end TaskCoordination
