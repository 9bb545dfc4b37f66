import Tengen.Alert
import Tengen.Effect
/-!
# Queues and their consumer

The DLQ (`tengen/queue/queues.py`), a message, and `RabbitMQConsumer._on_message`: decode the body as an
`Alert`, hand it to the callback, settle the delivery.  Ack and nack succeed, so a delivery is settled whatever the
callback does.  The message leaves its queue by an ack and by a nack that does not requeue; no queue of the repository
names a dead-letter exchange, so the second discards it.
-/
namespace Tengen

def queueDlq : String := "alerts.dlq"

def queueRunbookCloudtrail : String := "runbook.cloudtrail"
def queueRunbookGuardduty : String := "runbook.guardduty"
def queueRunbookEks : String := "runbook.eks"
def queueRunbookGcpEventAudit : String := "runbook.gcp.event_audit"
def queueRunbookAzureActivity : String := "runbook.azure.activity"
def queueRunbookCrowdstrike : String := "runbook.crowdstrike"
def queueRunbookK8s : String := "runbook.k8s"
def queueRunbookFirewall : String := "runbook.firewall"

structure Message where
  queue : String
  body : ByteArray

inductive Settlement where
  | ack
  | nack (requeue : Bool)
  deriving DecidableEq, Repr

def Settlement.removes : Settlement → Bool
  | ack => true
  | nack requeue => !requeue

variable {σ ε : Type} (pd : DatetimeField) (fr : Fresh)

/-- `RabbitMQConsumer._on_message`, over any world in which `settle` records the ack or nack. -/
def onMessage (settle : Settlement → σ → σ) (callback : Alert → EStateM ε σ Unit) (body : ByteArray) :
    EStateM ε σ Unit :=
  match Alert.modelValidateBytes pd fr body with
  | none => modify (settle (.nack false))
  | some alert => do
    try
      callback alert
      modify (settle .ack)
    catch _ => modify (settle (.nack true))

/-- What a delivery leaves of the world. -/
def delivered (settle : Settlement → σ → σ) (callback : Alert → EStateM ε σ Unit) (body : ByteArray) (w : σ) : σ :=
  Effect.world ((onMessage pd fr settle callback body).run w)

/-- What a consumer whose callback only notes what it is given has noted, and how it settled. -/
structure Reading where
  invoked : List Alert
  settled : Option Settlement

def readMessage (body : ByteArray) : Reading :=
  delivered pd fr (fun s w => { w with settled := some s })
    (fun alert => (modify (fun w => { w with invoked := w.invoked ++ [alert] }) : EStateM Empty Reading Unit)) body
    ⟨[], none⟩

theorem delivered_of_decode {settle : Settlement → σ → σ} {callback : Alert → EStateM ε σ Unit} {body : ByteArray}
    {alert : Alert} (h : Alert.modelValidateBytes pd fr body = some alert) (w : σ) :
    delivered pd fr settle callback body w = match (callback alert).run w with
      | .ok _ w' => settle .ack w'
      | .error _ w' => settle (.nack true) w' := by
  rw [delivered, onMessage, h]
  simp only [Effect.run_tryCatch, EStateM.run_bind, EStateM.run_modify]
  cases (callback alert).run w <;> rfl

/-- **A body that is no alert is discarded**, and the callback never sees it. -/
theorem delivered_of_not_decode {settle : Settlement → σ → σ} {callback : Alert → EStateM ε σ Unit} {body : ByteArray}
    (h : Alert.modelValidateBytes pd fr body = none) (w : σ) :
    delivered pd fr settle callback body w = settle (.nack false) w := by
  rw [delivered, onMessage, h]
  rfl

end Tengen
