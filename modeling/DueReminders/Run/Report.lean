import DueReminders.Run.Delivery
import DueReminders.Run.Plan
import DueReminders.Run.RunId

/-! A complete run: plan the mails, deliver them, and report what became of them. -/
namespace DueReminders

/-- What a run did. -/
structure Report where
  id : RunId
  itemsFetched : Nat
  recipients : Nat
  suppressed : Nat
  sent : List String
  failed : List (String × Failure)
  deriving DecidableEq

namespace Report

def hasFailures (report : Report) : Bool := !report.failed.isEmpty

def ofDeliveries (id : RunId) (plan : Plan) (deliveries : List Delivery) : Report where
  id
  itemsFetched := plan.itemCount
  recipients := plan.recipientCount
  suppressed := plan.recipientCount - plan.documents.length
  sent := deliveries.filterMap Delivery.sent?
  failed := deliveries.filterMap Delivery.failed?

end Report

/-- Everything a run reads from and writes to. -/
structure Surroundings (σ τ : Type) (φ : Type := FileTree) where
  source : σ
  sink : τ
  files : φ

namespace Settings

variable {σ τ φ : Type}

/-- Carry out a run that keeps its documents in an archive. When the plan fails, the failure is the
answer and nothing is sent. -/
def runKeeping (settings : Settings) (archive : Archive φ) (templates : Templates) (today : Date)
    (id : RunId) (source : ItemSource σ) (sink : Sink τ) :
    StateM (Surroundings σ τ φ) (Except Failure Report) :=
  fun before =>
    match (Plan.prepare settings templates today source).run.run before.source with
    | (.error failure, asked) => (.error failure, { before with source := asked })
    | (.ok plan, asked) =>
      let (deliveries, files, sent) :=
        (Delivery.performAll archive settings today sink plan.documents).run (before.files, before.sink)
      (.ok (Report.ofDeliveries id plan deliveries), ⟨asked, sent, files⟩)

def run (settings : Settings) (templates : Templates) (today : Date) (id : RunId)
    (source : ItemSource σ) (sink : Sink τ) : StateM (Surroundings σ τ) (Except Failure Report) :=
  settings.runKeeping settings.archive templates today id source sink

end Settings
end DueReminders
