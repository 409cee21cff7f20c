import MiniKernel.Registers.Dump

/-!
Fatal reports and who receives them. One reporter can be put in charge, for good; as long as there
is none, the plain reporter writes the report out.
-/

namespace MiniKernel

structure Report where
  reason : String
  location : String
  registers : Option Registers

def Report.text (report : Report) : String :=
  "!!! imperium kernel panic !!!\nreason: " ++ report.reason ++ "\nat: " ++ report.location ++
    match report.registers with
    | some registers => "\nregister dump:\n" ++ registers.dump
    | none => ""

/-- A reporter keeps a state of its own and turns a report into the last words of the kernel. -/
structure Reporter (σ : Type) where
  handle : σ → Report → σ × String

namespace Reporter

variable {σ : Type}

def plain : Reporter σ := ⟨fun state report => (state, report.text)⟩

end Reporter

structure ReportDesk (σ : Type) where
  reporter : Option (Reporter σ)
  state : σ

namespace ReportDesk

variable {σ : Type}

def install (desk : ReportDesk σ) (reporter : Reporter σ) : Bool × ReportDesk σ :=
  match desk.reporter with
  | some _ => (false, desk)
  | none => (true, { desk with reporter := some reporter })

def report (desk : ReportDesk σ) (report : Report) : String × ReportDesk σ :=
  let (state, text) := (desk.reporter.getD .plain).handle desk.state report
  (text, { desk with state })

end ReportDesk

end MiniKernel
